import RichText.CommandLine

/-!
# The program

Reads the input that the arguments name, and prints what `CommandLine.run` makes of it.
-/

namespace RichText.CommandLine

/-- The bytes of a file, or of standard input. -/
def readBytes (file : String) : IO ByteArray := do
  if file = "-" then (← IO.getStdin).readBinToEnd else IO.FS.readBinFile file

/-- The text of a file, or why it cannot be read. -/
def readInput (file : String) : IO (Except InputFault String) := do
  try
    match String.fromUTF8? (← readBytes file) with
    | some text => return .ok text
    | none => return .error .notUtf8
  catch
    | .noFileOrDirectory .. => return .error .missing
    | fault => return .error (.other (toString fault))

/-- Prints how the program ends. -/
def report : Exit → IO Unit
  | .done stdout => do (← IO.getStdout).putStr stdout
  | .failed stderr => do (← IO.getStderr).putStr stderr
  | .usage => do
    (← IO.getStderr).putStr "Usage: (html | mobiledoc | opcodes) [options] <file>\n"

end RichText.CommandLine

open RichText

/-- Runs the program on its arguments. -/
def main (args : List String) : IO UInt32 := do
  let input ←
    match CommandLine.parseArguments args with
    | some i => CommandLine.readInput i.file
    | none => pure (.error .missing)
  let exit := CommandLine.run args fun _ => input
  CommandLine.report exit
  return exit.status.toUInt32
