import Lexical.Text

/-!
What a command line asks for, and what can be wrong with it.

* `CommandLine.Options`: an action on a file, and how much to log.
* `CommandLine.Request`: a run with options, or a page of help.
* `CommandLine.UsageError`: the causes for refusing a command line.
-/

namespace Lexical.CommandLine

/-- What to do with a file: list its tokens, or only look for issues. -/
inductive Action
  | lex
  | check
deriving DecidableEq

/-- The word that asks for an action. -/
def Action.name : Action → Text
  | lex => "lex".toList
  | check => "check".toList

/-- What an action does, in a line. -/
def Action.about : Action → Text
  | lex => "Print the token stream of a program".toList
  | check => "Check a program for lexical errors".toList

/-- The commands: the actions, and the request for help on a command. -/
inductive Command
  | action (action : Action)
  | help
deriving DecidableEq

/-- The command that a word names. -/
def Command.ofName? (word : Text) : Option Command :=
  if word = Action.lex.name then some (.action .lex)
  else if word = Action.check.name then some (.action .check)
  else if word = "help".toList then some .help
  else none

/-- The options of a run: what to do, with which file, and how much to log meanwhile. -/
structure Options where
  action : Action
  file : Text
  verbosity : Nat
deriving DecidableEq

/-- The verbosity of a run that does not ask for one. -/
def defaultVerbosity : Nat := 1

/-- The pages of help: on the program, or on one of its commands. -/
inductive Page
  | program
  | command (command : Command)
deriving DecidableEq

/-- What an accepted command line asks for. -/
inductive Request
  | run (options : Options)
  | help (page : Page)
deriving DecidableEq

/-- The causes for refusing a command line. -/
inductive UsageError
  /-- There is neither a command nor an option. -/
  | nothingAsked
  /-- There are options but no command. -/
  | missingCommand
  /-- A command that works on a file has none. -/
  | missingFile
  /-- A word stands where a command is expected, and is none. -/
  | unknownCommand (word : Text)
  /-- An option that does not exist, or a word for which there is no use. -/
  | unexpectedWord (word : Text)
  /-- An option that takes no value has one attached. -/
  | unexpectedValue (value : Text)
  /-- The verbosity is asked for but not given. -/
  | missingVerbosity
  /-- The verbosity is not a number, or too large. -/
  | invalidVerbosity (value : Text)
  /-- The verbosity is given twice. -/
  | repeatedVerbosity
deriving DecidableEq

/-- The wording of a refusal. -/
def UsageError.message : UsageError → Text
  | nothingAsked => "a command is required".toList
  | missingCommand => "a command is required after the options".toList
  | missingFile => "a file is required".toList
  | unknownCommand word => "unknown command ".toList ++ word
  | unexpectedWord word => "unexpected argument ".toList ++ word
  | unexpectedValue value => "unexpected value ".toList ++ value
  | missingVerbosity => "the verbosity has no value".toList
  | invalidVerbosity value => "the verbosity is no number: ".toList ++ value
  | repeatedVerbosity => "the verbosity is given twice".toList

end Lexical.CommandLine
