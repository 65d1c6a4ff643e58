import Lexical.CommandLine.Basic
import Lexical.CommandLine.Word

/-!
Reading a command line.

* `CommandLine.level?`: the number that a verbosity is written as.
* `CommandLine.Progress`: what is known of the verbosity while the words before the command are
  read. A value that is a word of its own is checked late: when the next option needs it, or
  after the command has been read.
* `CommandLine.parse`: what the words ask for. Of several errors the first from left to right
  counts.
-/

namespace Lexical.CommandLine

/-- The number that a verbosity is written as: decimal digits, after a plus sign or not, that fit
into 64 bits. -/
def level? (text : Text) : Option Nat :=
  let digits := match text with
    | '+' :: rest => rest
    | _ => text
  let level := Nat.ofDigitChars 10 digits 0
  if digits ≠ [] ∧ digits.all Char.isDigit ∧ level < UInt64.size then some level else none

/-! ### After a command -/

/-- The file among words that are all plain, with the one found before them. -/
def fileAmong : Option Text → List Text → Except UsageError (Option Text)
  | some file, [] => .ok (some file)
  | none, [] => .error .missingFile
  | none, word :: rest => fileAmong (some word) rest
  | some _, word :: _ => .error (.unexpectedWord word)

/-- The file that an action is to work on, or nothing when its page of help is asked for; `found`
is the file found in the words before. -/
def fileOf (found : Option Text) : List Text → Except UsageError (Option Text)
  | [] => fileAmong found []
  | word :: rest =>
    match Word.ofText word with
    | .separator => fileAmong found rest
    | .short 'h' _ => .ok none
    | .short _ _ => .error (.unexpectedWord word)
    | .long name attached =>
      if name = "help".toList then
        match attached with
        | none => .ok none
        | some value => .error (.unexpectedValue value)
      else .error (.unexpectedWord word)
    | .plain text =>
      match found with
      | none => fileOf (some text) rest
      | some _ => .error (.unexpectedWord text)

/-- The page of help that the words after the command for help name. -/
def pageOf : List Text → Except UsageError Page
  | [] => .ok .program
  | word :: rest =>
    match Command.ofName? word, rest with
    | some command, [] => .ok (.command command)
    | some _, next :: _ => .error (.unknownCommand next)
    | none, _ => .error (.unknownCommand word)

/-! ### Before the command -/

/-- The value of the option for the verbosity, as far as it has been read. -/
inductive Pending
  /-- No value is open. -/
  | nothing
  /-- The next plain word is the value. -/
  | awaited
  /-- The value has been read but not checked. -/
  | given (value : Text)
deriving DecidableEq

/-- What is known of the verbosity: the level, once it has been checked, and an occurrence of the
option that has not. -/
structure Progress where
  level : Option Nat
  pending : Pending
deriving DecidableEq

namespace Progress

/-- Nothing has been read. -/
def start : Progress := ⟨none, .nothing⟩

/-- Checks a value and makes it the level, unless there is one. -/
def assign (p : Progress) (value : Text) : Except UsageError Progress :=
  match p.level, level? value with
  | some _, _ => .error .repeatedVerbosity
  | none, some level => .ok ⟨some level, .nothing⟩
  | none, none => .error (.invalidVerbosity value)

/-- Checks what is pending. -/
def settle (p : Progress) : Except UsageError Progress :=
  match p.pending with
  | .nothing => .ok p
  | .awaited => .error .missingVerbosity
  | .given value => p.assign value

/-- Settles what is pending and waits for the value of a further occurrence. -/
def await (p : Progress) : Except UsageError Progress := do
  let settled ← p.settle
  return { settled with pending := .awaited }

/-- Settles what is pending and takes up a value that is attached to its option. -/
def attach (p : Progress) (value : Text) : Except UsageError Progress := do
  let settled ← p.settle
  settled.assign value

/-- Settles what is pending and asks for a page of help. -/
def ask (p : Progress) (page : Page) : Except UsageError Request := do
  let _ ← p.settle
  return .help page

/-- The words end before any command. -/
def withoutCommand (p : Progress) : Except UsageError Request := do
  let settled ← p.settle
  .error (if settled.level.isSome then .missingCommand else .nothingAsked)

/-- Reads the words after a command. What they are refused for comes before the check of a value
that is still pending. -/
def command (p : Progress) : Command → List Text → Except UsageError Request
  | .help, rest => do return .help (← pageOf rest)
  | .action action, rest => do
    match ← fileOf none rest with
    | none => return .help (.command (.action action))
    | some file =>
      let settled ← p.settle
      return .run ⟨action, file, settled.level.getD defaultVerbosity⟩

end Progress

/-- The value attached to a short option, without the equals sign that may come before it. -/
def attachedValue : Text → Text
  | '=' :: value => value
  | value => value

/-- What is wrong with a word after the separator, where every word is plain and no command can
follow: the name of a command has no use there, and any other word is taken for a command. -/
def afterSeparator (word : Text) : UsageError :=
  match Command.ofName? word with
  | some _ => .unexpectedWord word
  | none => .unknownCommand word

/-- Reads the words from the one after the program's name on. -/
def parseFrom (p : Progress) : List Text → Except UsageError Request
  | [] => p.withoutCommand
  | word :: rest =>
    match Word.ofText word with
    | .plain text =>
      if p.pending = .awaited then parseFrom { p with pending := .given text } rest
      else
        match Command.ofName? text with
        | some command => p.command command rest
        | none => .error (.unknownCommand text)
    | .separator =>
      match rest with
      | [] => p.withoutCommand
      | next :: _ => .error (afterSeparator next)
    | .short letter attached =>
      if letter = 'h' then p.ask .program
      else if letter = 'v' then
        if attached = [] then do parseFrom (← p.await) rest
        else do parseFrom (← p.attach (attachedValue attached)) rest
      else .error (.unexpectedWord word)
    | .long name attached =>
      if name = "help".toList then
        match attached with
        | none => p.ask .program
        | some value => .error (.unexpectedValue value)
      else if name = "verbose".toList then
        match attached with
        | none => do parseFrom (← p.await) rest
        | some value => do parseFrom (← p.attach value) rest
      else .error (.unexpectedWord word)

/-- What a command line asks for, from its words after the program's name. -/
def parse (words : List Text) : Except UsageError Request := parseFrom .start words

end Lexical.CommandLine
