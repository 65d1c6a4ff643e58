import Lexical.Interval
import Lexical.Radix

/-!
Issues: what can be wrong with a piece of text.

* `Issue`: the cause, and the interval of the characters to blame.
* `Issue.message`: the wording of each cause.
-/

namespace Lexical

/-- The causes of an issue. -/
inductive Issue.Kind
  /-- The text ends before the closing quote of a string, possibly right after a backslash. -/
  | unclosedString
  /-- The text ends before every open block comment is closed. -/
  | unclosedComment
  /-- A decimal literal has more than one point. -/
  | manyPoints (count : Nat)
  /-- The mark of a base is followed by nothing that could be a digit. -/
  | missingValue (radix : Radix)
  /-- A letter or digit stands in a literal of a base it does not belong to. -/
  | invalidCharacter (radix : Radix) (character : Char)
deriving DecidableEq

/-- An issue: its cause and the interval of the characters to blame. -/
structure Issue where
  kind : Issue.Kind
  interval : Interval
deriving DecidableEq

namespace Issue

/-- The wording of a cause. -/
def Kind.message : Kind → Text
  | unclosedString => "Unclosed string".toList
  | unclosedComment => "Unclosed block comment".toList
  | manyPoints count =>
    "Number literal has multiple (".toList ++ Text.decimal count ++ ") decimal points".toList
  | missingValue radix =>
    radix.title ++ " literal has a floating prefix with no value after it".toList
  | invalidCharacter radix character =>
    "Invalid character \"".toList ++ [character] ++ "\" in ".toList ++ radix.name ++
      " literal".toList

/-- The wording of an issue, which does not depend on where it stands. -/
def message (i : Issue) : Text := i.kind.message

/-- The same issue in a text with `k` more characters in front. -/
def shift (k : Nat) (i : Issue) : Issue := { i with interval := i.interval.shift k }

/-- The one-line form of an issue: its interval and its wording. -/
def display (i : Issue) : Text := i.interval.display ++ [' '] ++ i.message

end Issue

end Lexical
