import ParametricScene.Command.Run

/-!
# The program

Runs commands in the real surroundings.
-/

namespace ParametricScene

/-- The text of a file, as far as there is one. -/
def readFile (path : String) : IO FileContent := do
  try
    let bytes ← IO.FS.readBinFile path
    match String.fromUTF8? bytes with
    | some content => pure (.text content)
    | none => pure .unreadable
  catch
    | .noFileOrDirectory .. => pure .missing
    | _ => pure .unreadable

/-- Writes a file, and tells whether that went well. -/
def writeFile (path content : String) : IO Bool := do
  try
    IO.FS.writeFile path content
    pure true
  catch _ => pure false

instance : Host IO where
  read := readFile
  write := writeFile
  getVariable name := IO.getEnv name
  clock := IO.monoNanosNow
  line := IO.println
  complain := IO.eprintln

end ParametricScene

/-- Runs the command of the arguments. -/
def main (arguments : List String) : IO UInt32 := do
  let code ← ParametricScene.runArguments arguments
  pure (UInt32.ofNat code)
