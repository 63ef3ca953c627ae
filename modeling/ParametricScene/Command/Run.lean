import ParametricScene.Command.Argument
import ParametricScene.Command.Invocation
import ParametricScene.Report.Json
import ParametricScene.Report.Text
import ParametricScene.Scene.Session
import ParametricScene.Settings.File

/-!
# Running commands

A command reads files and variables, writes lines and perhaps a file, and ends with a code. What it
needs for this is a `Host`, so that a command runs in any surroundings, real or not.

A command that fails says why on the error output and ends with code 1. Arguments that do not fit end
with code 2.

## Main definitions

* `Host` — the surroundings of a command
* `Invocation.run` — runs a command
* `runArguments` — runs the command of a list of arguments
-/

namespace ParametricScene

/-- What reading a file gives. -/
inductive FileContent where
  | missing
  /-- There is something, but no text. -/
  | unreadable
  | text (content : String)
deriving DecidableEq, Repr

/-- The surroundings of a command. -/
class Host (m : Type → Type) where
  /-- Reads a file. -/
  read : String → m FileContent
  /-- Writes a file. Tells whether it could be written. -/
  write : String → String → m Bool
  /-- The variable of the environment with a name. -/
  getVariable : String → m (Option String)
  /-- A clock in nanoseconds. -/
  clock : m Nat
  /-- Writes a line to the output. -/
  line : String → m Unit
  /-- Writes a line to the error output. -/
  complain : String → m Unit

/-- How a command ends. -/
abbrev ExitCode : Type := Nat

section Commands

variable {m : Type → Type} [Monad m] [Host m]

/-- Actions that may fail with a message. -/
abbrev Failing (m : Type → Type) (α : Type) : Type := ExceptT String m α

/-- Writes lines to the output. -/
def writeLines : List String → m Unit
  | [] => pure ()
  | text :: rest => do
    Host.line text
    writeLines rest

/-! ### Settings and documents -/

/-- The file that settings come from where none is named. -/
def settingsFileName : String := "paramscene.toml"

/-- The settings after the environment. -/
def addEnvironment (s : Settings) : m Settings := do
  let memoize ← Host.getVariable "PARAMSCENE_MEMOIZE"
  let repeatCap ← Host.getVariable "PARAMSCENE_MAX_REPEAT"
  let strict ← Host.getVariable "PARAMSCENE_STRICT_VERSION"
  let lookup : String → Option String := fun name =>
    if name = "PARAMSCENE_MEMOIZE" then memoize
    else if name = "PARAMSCENE_MAX_REPEAT" then repeatCap
    else if name = "PARAMSCENE_STRICT_VERSION" then strict
    else none
  pure (s.withEnvironment lookup)

/-- The settings of a file that has to be there. -/
def readSettings (path : String) : Failing m Settings := do
  match ← Host.read (m := m) path with
  | .missing | .unreadable => throw ("Failed to read config file: " ++ quoted path)
  | .text content =>
    match Settings.parse? content with
    | some s => pure s
    | none => throw ("Failed to parse config file: " ++ quoted path)

/-- The settings of the named file, or of the usual one if it is there, after the environment. -/
def loadSettings (file : Option String) : Failing m Settings := do
  match file with
  | some path => do
    let s ← readSettings path
    addEnvironment (m := m) s
  | none =>
    match ← Host.read (m := m) settingsFileName with
    | .missing => addEnvironment (m := m) Settings.default
    | _ => do
      let s ← readSettings settingsFileName
      addEnvironment (m := m) s

/-- The document of a file. -/
def readDocument (path : String) (settings : Settings) : Failing m SceneDocument := do
  match ← Host.read (m := m) path with
  | .missing | .unreadable => throw ("Failed to read schema file: " ++ path)
  | .text content =>
    match SceneDocument.parseVersion settings.expectedVersion settings.strictVersion content with
    | .ok d => pure d
    | .error e => throw ("Failed to parse schema file: " ++ path ++ ": " ++ e.message)

/-! ### The commands -/

/-- A scene of meshes. -/
abbrev MeshScene : Type := Scene MeshFactory MaterialLibrary

/-- A scene after edits, in order; the first that is refused ends them. -/
def applyEdits : List String → MeshScene → Except String MeshScene
  | [], s => .ok s
  | text :: rest, s =>
    match readAssignment text with
    | .error e => .error e.message
    | .ok a =>
      match s.setParameter a.template a.parameter a.value with
      | (.ok _, s) => applyEdits rest s
      | (.error e, _) => .error ("Failed to apply '" ++ text ++ "': " ++ e.message)

/-- Builds a scene, edits it and reports on it. -/
def runBuild (input : String) (edits : List String) (asJson : Bool) (settings : Settings) :
    Failing m ExitCode := do
  let d ← readDocument input settings
  let start ← Host.clock (m := m)
  match applyEdits edits (Scene.build settings d) with
  | .error message => throw message
  | .ok s => do
    let finish ← Host.clock (m := m)
    let lines := if asJson then [s.summary.pretty] else s.reportLines input (finish - start)
    writeLines (m := m) lines
    pure 0

/-- The context of bindings; the first text that is none ends them. -/
def bindAll : List String → Context → Except ArgumentError Context
  | [], ctx => .ok ctx
  | text :: rest, ctx =>
    match readBinding text with
    | .ok (name, v) => bindAll rest (ctx.insert name v)
    | .error e => .error e

/-- Evaluates a formula. One without a value counts as zero, and the command fails. -/
def runEvaluate (formula : String) (bindings : List String) (settings : Settings) :
    Failing m ExitCode := do
  match bindAll bindings ∅ with
  | .error e => throw e.message
  | .ok ctx =>
    match (Evaluator.tryEvaluate formula ctx settings.evaluator).1 with
    | .ok v => do
      Host.line (m := m) v.display
      pure 0
    | .error e => do
      Host.complain (m := m) ("Error: " ++ e.message)
      Host.line (m := m) "0 (fallback)"
      pure 1

/-- The expanded nodes of templates by identifier; of two templates with one identifier the later
one counts. One evaluator expands them all. -/
def expandAll (cap : Nat) : List Template → OrderedMap Json → StateM Evaluator (OrderedMap Json)
  | [], done => pure done
  | t :: rest, done => do
    let nodes ← t.expand cap ∅
    expandAll cap rest (done.insert t.id (.array (PlacedNode.toJsonAll nodes)))

/-- Expands the templates of a document, or one of them, onto the output or into a file. -/
def runExpand (input : String) (template output : Option String) (settings : Settings) :
    Failing m ExitCode := do
  let d ← readDocument input settings
  let chosen := d.templates.filter fun t => template.all (· == t.id)
  let expanded := (expandAll settings.repeatCap chosen ∅ settings.evaluator).1
  match template with
  | some id =>
    if chosen.isEmpty then throw ("no top-level template '" ++ id ++ "' in " ++ input)
  | none => pure ()
  let text := (Json.object expanded.entries).pretty
  match output with
  | none => do
    Host.line (m := m) text
    pure 0
  | some path =>
    if ← Host.write (m := m) path text then do
      Host.line (m := m) (successLine ("Expanded nodes written to " ++ path))
      pure 0
    else throw ("Failed to write " ++ path)

/-- Reports on the rules of all templates; an error among the violated ones fails the command. -/
def runValidate (input : String) (settings : Settings) : Failing m ExitCode := do
  let d ← readDocument input settings
  let s := Scene.build settings d
  let found := s.templates.keys.map fun path => (path, s.violationsAt path)
  writeLines (m := m) (found.flatMap fun e => violationLines e.1 e.2)
  let errors := (found.flatMap fun e => e.2.filter Violation.isError).length
  if 0 < errors then do
    writeLines (m := m) (warningLines (toString errors ++ " constraint error(s)"))
    pure 1
  else pure 0

/-- The version of this program. -/
def programVersion : String := "0.1.0"

/-- The lines that tell the version. -/
def versionLines : List String :=
  ["Paramscene v" ++ programVersion, "Schema version " ++ Settings.currentVersion]

/-- Runs a command. -/
def Invocation.run (i : Invocation) : Failing m ExitCode := do
  match i.command with
  | .version => do
    writeLines (m := m) versionLines
    pure 0
  | .build input edits asJson => do
    let settings ← loadSettings i.settingsFile
    runBuild input edits asJson settings
  | .evaluate formula bindings => do
    let settings ← loadSettings i.settingsFile
    runEvaluate formula bindings settings
  | .expand input template output => do
    let settings ← loadSettings i.settingsFile
    runExpand input template output settings
  | .validate input => do
    let settings ← loadSettings i.settingsFile
    runValidate input settings

/-- How to call this program. -/
def usageLines : List String :=
  ["Usage: paramscene [-c FILE] [-v] COMMAND", "", "Commands:",
    "  build INPUT [-s TEMPLATE.PARAM=VALUE]... [--json]",
    "  eval EXPRESSION [--var NAME=VALUE]...",
    "  expand INPUT [-t TEMPLATE] [-o OUTPUT]",
    "  validate INPUT",
    "  version"]

/-- Runs the command of a list of arguments. -/
def runArguments (arguments : List String) : m ExitCode := do
  match Invocation.parse arguments with
  | .error .help => do
    writeLines usageLines
    pure 0
  | .error .unfit => do
    Host.complain (String.intercalate "\n" usageLines)
    pure 2
  | .ok i =>
    match ← (i.run (m := m)).run with
    | .ok code => pure code
    | .error message => do
      Host.complain ("Error: " ++ message)
      pure 1

end Commands

end ParametricScene
