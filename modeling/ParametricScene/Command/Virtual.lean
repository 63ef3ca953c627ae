import ParametricScene.Command.Run

/-!
# Virtual surroundings

Commands can run without a real file system: the files are a list, the environment is a list, and
lines go to an array. Nothing but the command changes these surroundings, so what a command does is a
function of its arguments and of them.

A path is followed step by step from the directory where the command runs, and every step but the last
starts from a directory that is there. All directories above are there, and besides the files given
there is one more: what is written to `/dev/null` is lost, and nothing is read from it.

## Main definitions

* `VirtualWorld` — files, variables and the lines written
* `VirtualWorld.locate?` — where a path leads
* `runVirtually` — runs the command of a list of arguments
-/

namespace ParametricScene

/-- Surroundings that are not real. Of several files with one path and of several variables with one
name the last counts. -/
structure VirtualWorld where
  /-- The bytes of the files by path. -/
  files : List (String × ByteArray)
  environment : List (String × String)
  output : Array String
  errors : Array String

namespace VirtualWorld

/-- A place: names from the directory where the command runs, behind a `..` for each step up from
it. -/
abbrev Location : Type := List String

/-- The place one step on from a directory. An empty step and `.` stay. -/
def step (here : Location) (name : String) : Location :=
  if name = "" ∨ name = "." then here
  else if name = ".." ∧ ¬ here.all (· == "..") then here.dropLast
  else here ++ [name]

/-- The place of a file that is there. -/
def placeOf (path : String) : Location := (path.splitOn "/").foldl step []

/-- The place is a directory: the one where the command runs, one above it, or one with a file
below. -/
def isDirectory (w : VirtualWorld) (here : Location) : Bool :=
  here.all (· == "..") || w.files.any fun f =>
    here.isPrefixOf (placeOf f.1) && decide (here.length < (placeOf f.1).length)

/-- The place that steps lead to from a place, if each of them starts from a directory. -/
def walk? (w : VirtualWorld) : List String → Location → Option Location
  | [], here => some here
  | name :: rest, here => if w.isDirectory here then w.walk? rest (step here name) else none

/-- The place a path leads to. A path that starts at the root leads nowhere. -/
def locate? (w : VirtualWorld) (path : String) : Option Location :=
  if path.isEmpty || path.startsWith "/" then none else w.walk? (path.splitOn "/") []

/-- The bytes of the file at a place. -/
def bytesAt? (w : VirtualWorld) (place : Location) : Option ByteArray :=
  (w.files.reverse.find? fun f => placeOf f.1 == place).map Prod.snd

/-- The bytes of a file. -/
def bytes? (w : VirtualWorld) (path : String) : Option ByteArray :=
  (w.locate? path).bind w.bytesAt?

/-- The file that takes everything and gives nothing. -/
def nullPath : String := "/dev/null"

/-- The text of a file, as far as there is one. -/
def read (path : String) (w : VirtualWorld) : FileContent :=
  if path = nullPath then .text ""
  else
    match w.locate? path with
    | none => .missing
    | some place =>
      if w.isDirectory place then .unreadable
      else
        match w.bytesAt? place with
        | none => .missing
        | some bytes =>
          match String.fromUTF8? bytes with
          | some content => .text content
          | none => .unreadable

/-- Writes a file into a directory that is there. Names have at most 255 bytes. -/
def write (path content : String) (w : VirtualWorld) : Bool × VirtualWorld :=
  if path = nullPath then (true, w)
  else
    match w.locate? path with
    | none => (false, w)
    | some place =>
      if w.isDirectory place ∨ place.any (255 < ·.utf8ByteSize) then (false, w)
      else (true, { w with files := w.files ++ [(String.intercalate "/" place, content.toUTF8)] })

/-- The variable of the environment with a name; of several the last. -/
def getVariable (name : String) (w : VirtualWorld) : Option String :=
  (w.environment.reverse.find? fun v => v.1 == name).map Prod.snd

instance : Host (StateM VirtualWorld) where
  read path := fun w => (w.read path, w)
  write path content := VirtualWorld.write path content
  getVariable name := fun w => (w.getVariable name, w)
  clock := pure 0
  line text := modify fun w => { w with output := w.output.push text }
  complain text := modify fun w => { w with errors := w.errors.push text }

end VirtualWorld

/-- Runs the command of a list of arguments in virtual surroundings. -/
def runVirtually (arguments : List String) (w : VirtualWorld) : ExitCode × VirtualWorld :=
  (runArguments (m := StateM VirtualWorld) arguments).run w

end ParametricScene
