import Lexical.CommandLine.Help
import Lexical.CommandLine.Parse
import Lexical.Log
import Lexical.Report

/-!
The program, up to reading its words and its file.

* `Program.Outcome`: what a run prints, and the code it ends with.
* `Program.start`: what the words lead to: an outcome at once, or a run on a file.
* `Program.finish`: the outcome of a run, once the file has been read or could not be read.
-/

namespace Lexical.Program

open CommandLine (Action Options Page UsageError)

/-- Why a file cannot be read as a text. -/
inductive ReadFailure
  /-- There is no such file. -/
  | missing
  /-- The name is that of a directory. -/
  | directory
  /-- The bytes of the file are no UTF-8. -/
  | notUtf8
  /-- The system has another reason, given by its description and number. -/
  | other (description : Text) (number : Nat)
deriving DecidableEq

/-- A reason of the system, in writing. -/
def systemError (description : Text) (number : Nat) : Text :=
  description ++ " (os error ".toList ++ Text.decimal number ++ ")".toList

/-- The wording of a failure to read. -/
def ReadFailure.cause : ReadFailure → Text
  | missing => systemError "No such file or directory".toList 2
  | directory => systemError "Is a directory".toList 21
  | notUtf8 => "stream did not contain valid UTF-8".toList
  | other description number => systemError description number

/-- The text that bytes encode, without any change to it. -/
def decode (bytes : ByteArray) : Except ReadFailure Text :=
  match String.fromUTF8? bytes with
  | some contents => .ok contents.toList
  | none => .error .notUtf8

/-- What a run prints on its two streams, and the code it ends with. -/
structure Outcome where
  code : Nat
  output : Text
  diagnostics : Text
deriving DecidableEq

/-- Lines as a text, each ended by a line feed. -/
def unlines (lines : List Text) : Text := lines.flatMap (· ++ ['\n'])

/-- The outcome of a request for help. -/
def showHelp (page : Page) : Outcome := ⟨0, unlines page.lines, []⟩

/-- The outcome of a command line that is refused. -/
def refuse (error : UsageError) : Outcome :=
  ⟨2, [], unlines
    (match error with
      | .nothingAsked => Page.program.lines
      | _ => ["error: ".toList ++ error.message, [],
          "For more information, try '--help'.".toList])⟩

/-- The outcome of a run whose file cannot be read. -/
def unreadable (file : Text) (failure : ReadFailure) : Outcome :=
  ⟨1, [], unlines
    ["Error: Unable to read source file ".toList ++ file, [], "Caused by:".toList,
      "    ".toList ++ failure.cause]⟩

/-- The records of a run on a file: that it begins, and then those of the pass. -/
def records (file source : Text) : List Log.Record :=
  ⟨.info, "Lexing ".toList ++ file⟩ :: (Log.events source).map Log.Event.record

/-- The lines that a run prints on a source: the token listing if it is asked for and there are no
issues, else the report on the issues. -/
def printed (action : Action) (source : Text) : List Text :=
  match lex source, action with
  | .ok ts, .lex => ts.map Token.display
  | .ok _, .check => []
  | .error is, _ => Report.lines source is

/-- The outcome of a run on a source that has been read. -/
def process (options : Options) (source : Text) : Outcome :=
  let shown := (records options.file source).filter (·.level.isShown options.verbosity)
  ⟨match lex source with
    | .ok _ => 0
    | .error _ => 1,
    unlines (printed options.action source),
    unlines (shown.map Log.Record.line)⟩

/-- The outcome of a run, once its file has been read or not. -/
def finish (options : Options) : Except ReadFailure Text → Outcome
  | .ok source => process options source
  | .error failure => unreadable options.file failure

/-- What the words after the program's name lead to: a run on a file that is still to be read, or
an outcome at once. -/
def start (words : List Text) : Except Outcome Options :=
  match CommandLine.parse words with
  | .ok (.run options) => .ok options
  | .ok (.help page) => .error (showHelp page)
  | .error error => .error (refuse error)

end Lexical.Program
