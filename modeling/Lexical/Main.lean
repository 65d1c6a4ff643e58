import Lexical.Program

/-!
The command line program: it reads its words and its file, prints, and ends.
-/

namespace Lexical.Program

/-- A reason of the system. Its number may come negated, and its description uncapitalised. -/
def systemFailure (code : UInt32) (description : String) : ReadFailure :=
  let number := min code.toNat (0 - code).toNat
  if number = 21 then .directory else .other description.capitalize.toList number

/-- Why the system could not read a file. -/
def failureOf : IO.Error → ReadFailure
  | .noFileOrDirectory .. => .missing
  | .inappropriateType _ code description => systemFailure code description
  | .permissionDenied _ code description => systemFailure code description
  | .invalidArgument _ code description => systemFailure code description
  | .resourceExhausted _ code description => systemFailure code description
  | .hardwareFault code description => systemFailure code description
  | .otherError code description => systemFailure code description
  | error => .other (toString error).toList 0

/-- The text of a file. -/
def readText (file : Text) : IO (Except ReadFailure Text) := do
  try
    return decode (← IO.FS.readBinFile (String.ofList file))
  catch error =>
    return .error (failureOf error)

/-- Prints an outcome and gives its code. -/
def conclude (outcome : Outcome) : IO UInt32 := do
  (← IO.getStderr).putStr (String.ofList outcome.diagnostics)
  (← IO.getStdout).putStr (String.ofList outcome.output)
  return outcome.code.toUInt32

end Lexical.Program

/-- Runs the program on the words after its name. -/
def main (words : List String) : IO UInt32 := do
  match Lexical.Program.start (words.map String.toList) with
  | .error outcome => Lexical.Program.conclude outcome
  | .ok options =>
    let contents ← Lexical.Program.readText options.file
    Lexical.Program.conclude (Lexical.Program.finish options contents)
