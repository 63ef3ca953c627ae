/-!
# Command lines

A command line is a word for the command with operands and options. Options have a long name behind
two dashes, and some a letter behind one; letters may be joined. The value of an option is the next
argument or stands behind an equals sign, behind a letter also without one. Behind two dashes alone
everything is an operand. The options of every command may also stand before the command.

Arguments are checked from left to right, and help is given if it is asked for before anything that
does not fit. A value that is an argument of its own is checked when the next option or operand comes,
so one right before the word of a command is checked last.

## Main definitions

* `OptionSpec`, `CommandForm` — an option, and what a command takes
* `Scan` — what was found among arguments
* `Command`, `Invocation` — what is to be done
* `Invocation.parse` — the invocation of a list of arguments
-/

namespace ParametricScene

/-! ### Options -/

/-- What stands behind an option, or as the operand of a command. -/
inductive Operand where
  /-- Nothing. -/
  | nothing
  /-- Any text. -/
  | text
  /-- The path of a file, which is not empty. -/
  | path
deriving DecidableEq, Repr

/-- The text can be what is asked for. -/
def Operand.accepts : Operand → String → Bool
  | .nothing, _ => false
  | .text, _ => true
  | .path, value => !value.isEmpty

/-- An option of a command. -/
structure OptionSpec where
  long : String
  short : Option Char
  value : Operand
  /-- The option may be given several times. -/
  repeats : Bool
deriving Repr

/-- What a command takes: options, and at most one operand. -/
structure CommandForm where
  options : List OptionSpec
  operand : Operand
deriving Repr

/-- What was found among arguments: options with their values, and operands, each in order. -/
structure Scan where
  options : List (String × String)
  operands : List String
  /-- An option with a value that is still to be checked. -/
  waiting : Option (OptionSpec × String)
deriving Repr

/-- Why there is nothing to be done. -/
inductive UsageError where
  /-- Help was asked for. -/
  | help
  /-- The arguments do not fit. -/
  | unfit
deriving DecidableEq, Repr

namespace Scan

/-- Nothing found. -/
def empty : Scan := ⟨[], [], none⟩

/-- The values of an option in order. -/
def values (s : Scan) (long : String) : List String :=
  (s.options.filter fun o => o.1 == long).map Prod.snd

/-- The option was given. -/
def has (s : Scan) (long : String) : Bool := s.options.any fun o => o.1 == long

/-- An option more with its value. An option that does not repeat is given once. -/
def add (s : Scan) (spec : OptionSpec) (value : String) : Except UsageError Scan :=
  if ¬ spec.repeats ∧ s.has spec.long then .error .unfit
  else if spec.value ≠ .nothing ∧ ¬ spec.value.accepts value then .error .unfit
  else .ok { s with options := s.options ++ [(spec.long, value)] }

/-- Checks the value that waits. -/
def settle (s : Scan) : Except UsageError Scan :=
  match s.waiting with
  | none => .ok s
  | some (spec, value) => { s with waiting := none }.add spec value

/-- Records an option whose value, if it has one, stands in the same argument. -/
def record (s : Scan) (spec : OptionSpec) (value : String) : Except UsageError Scan := do
  let s ← s.settle
  if spec.long = "help" then .error .help else s.add spec value

/-- Records an option whose value is the next argument. -/
def await (s : Scan) (spec : OptionSpec) (value : String) : Except UsageError Scan := do
  let s ← s.settle
  pure { s with waiting := some (spec, value) }

/-- Records an operand. There is at most one. -/
def recordOperand (s : Scan) (operand : Operand) (text : String) : Except UsageError Scan := do
  let s ← s.settle
  if s.operands.isEmpty ∧ operand.accepts text then .ok { s with operands := [text] }
  else .error .unfit

/-- Records operands in order. -/
def recordOperands (operand : Operand) : List String → Scan → Except UsageError Scan
  | [], s => .ok s
  | text :: rest, s => do
    let s ← s.recordOperand operand text
    recordOperands operand rest s

end Scan

/-- What an argument is. -/
inductive ArgumentForm where
  /-- Two dashes alone. -/
  | divider
  /-- The name of an option behind two dashes, and the text behind an equals sign. -/
  | long (name : List Char) (attached : Option (List Char))
  /-- The letters behind one dash. -/
  | short (letters : List Char)
  | operand
deriving DecidableEq, Repr

/-- The form of an argument. One dash alone is an operand. -/
def ArgumentForm.ofText (argument : String) : ArgumentForm :=
  match argument.toList with
  | ['-', '-'] => divider
  | '-' :: '-' :: body =>
    let attached := match body.dropWhile (· != '=') with
      | _ :: value => some value
      | [] => none
    long (body.takeWhile (· != '=')) attached
  | ['-'] => operand
  | '-' :: letters => short letters
  | _ => operand

/-- The argument can be the value of the option before it. -/
def isValue (argument : String) : Bool := ArgumentForm.ofText argument == .operand

/-- What the letters behind one dash ask for. -/
inductive Letters where
  /-- Every option is recorded. -/
  | complete (scan : Scan)
  /-- The last option waits for its value. -/
  | pending (scan : Scan) (spec : OptionSpec)

namespace OptionSpec

/-- The option with a long name. -/
def ofName? (specs : List OptionSpec) (name : List Char) : Option OptionSpec :=
  specs.find? fun spec => spec.long.toList == name

/-- The option with a letter. -/
def ofLetter? (specs : List OptionSpec) (letter : Char) : Option OptionSpec :=
  specs.find? fun spec => spec.short == some letter

end OptionSpec

namespace Scan

/-- Reads the letters behind one dash. What stands behind the letter of an option with a value is the
value. -/
def letters (specs : List OptionSpec) : List Char → Scan → Except UsageError Letters
  | [], s => .ok (.complete s)
  | c :: rest, s =>
    match OptionSpec.ofLetter? specs c with
    | none => .error .unfit
    | some spec =>
      if spec.value = .nothing then do
        let s ← s.record spec ""
        letters specs rest s
      else
        match rest with
        | [] => .ok (.pending s spec)
        | '=' :: value => (s.record spec (String.ofList value)).map .complete
        | value => (s.record spec (String.ofList value)).map .complete

/-- Reads arguments up to the word of a command, if `stops` says that there is one, or else all of
them. The second result is what follows the word, with the word in front. -/
def arguments (form : CommandForm) (stops : Bool) :
    List String → Scan → Except UsageError (Scan × List String)
  | [], s => .ok (s, [])
  | argument :: rest, s =>
    match ArgumentForm.ofText argument with
    | .divider => (recordOperands form.operand rest s).map fun s => (s, [])
    | .operand =>
      if stops then .ok (s, argument :: rest)
      else do
        let s ← s.recordOperand form.operand argument
        arguments form stops rest s
    | .long name attached =>
      match OptionSpec.ofName? form.options name with
      | none => .error .unfit
      | some spec =>
        if spec.value = .nothing then
          if attached.isSome then .error .unfit
          else do
            let s ← s.record spec ""
            arguments form stops rest s
        else
          match attached, rest with
          | some value, rest => do
            let s ← s.record spec (String.ofList value)
            arguments form stops rest s
          | none, value :: rest =>
            if isValue value then do
              let s ← s.await spec value
              arguments form stops rest s
            else .error .unfit
          | none, [] => .error .unfit
    | .short cs => do
      match ← letters form.options cs s with
      | .complete s => arguments form stops rest s
      | .pending s spec =>
        match rest with
        | value :: rest =>
          if isValue value then do
            let s ← s.await spec value
            arguments form stops rest s
          else .error .unfit
        | [] => .error .unfit

end Scan

/-! ### Commands -/

/-- What is to be done. -/
inductive Command where
  /-- Builds the scene of a document, edits it and reports on it. -/
  | build (input : String) (edits : List String) (asJson : Bool)
  /-- Evaluates a formula under bindings. -/
  | evaluate (formula : String) (bindings : List String)
  /-- Expands the templates of a document, or one of them, onto the output or into a file. -/
  | expand (input : String) (template output : Option String)
  /-- Reports on the rules of all templates of a document. -/
  | validate (input : String)
  /-- Tells the version. -/
  | version
deriving DecidableEq, Repr

/-- A command with the options of every command. -/
structure Invocation where
  command : Command
  /-- The file with the settings. -/
  settingsFile : Option String
deriving DecidableEq, Repr

namespace Invocation

/-- The options of every command. -/
def commonOptions : List OptionSpec :=
  [⟨"config", some 'c', .path, false⟩, ⟨"verbose", some 'v', .nothing, false⟩,
    ⟨"help", some 'h', .nothing, false⟩]

/-- What may stand before the word of a command. -/
def frontForm : CommandForm := ⟨commonOptions, .nothing⟩

/-- The form of the command with a word, if there is such a command. -/
def form? (word : String) : Option CommandForm :=
  match word with
  | "build" =>
    some ⟨[⟨"set", some 's', .text, true⟩, ⟨"json", none, .nothing, false⟩] ++ commonOptions, .path⟩
  | "eval" => some ⟨⟨"var", none, .text, true⟩ :: commonOptions, .text⟩
  | "expand" =>
    some ⟨[⟨"template", some 't', .text, false⟩, ⟨"output", some 'o', .path, false⟩] ++
      commonOptions, .path⟩
  | "validate" => some ⟨commonOptions, .path⟩
  | "version" => some ⟨commonOptions, .nothing⟩
  | _ => none

/-- The command with a word, from what was found behind it. A command that takes an operand has
one. -/
def command? (word : String) (s : Scan) : Option Command :=
  match word, s.operands with
  | "build", [input] => some (.build input (s.values "set") (s.has "json"))
  | "eval", [formula] => some (.evaluate formula (s.values "var"))
  | "expand", [input] =>
    some (.expand input (s.values "template").head? (s.values "output").head?)
  | "validate", [input] => some (.validate input)
  | "version", [] => some .version
  | _, _ => none

/-- Help may be asked for about the program, a command, or help itself. -/
def helpError (topics : List String) : UsageError :=
  match topics with
  | [] => .help
  | [word] => if word = "help" ∨ (form? word).isSome then .help else .unfit
  | _ => .unfit

/-- The invocation of a list of arguments. A file with settings that is given behind the command comes
before one given in front of it. -/
def parse (arguments : List String) : Except UsageError Invocation := do
  let (front, rest) ← Scan.arguments frontForm true arguments Scan.empty
  match rest with
  | [] => .error .unfit
  | word :: rest =>
    if word = "help" then .error (helpError rest)
    else
      match form? word with
      | none => .error .unfit
      | some form => do
        let (back, _) ← Scan.arguments form false rest Scan.empty
        let back ← back.settle
        let front ← front.settle
        match command? word back with
        | none => .error .unfit
        | some command =>
          pure ⟨command, (back.values "config" ++ front.values "config").head?⟩

end Invocation

end ParametricScene
