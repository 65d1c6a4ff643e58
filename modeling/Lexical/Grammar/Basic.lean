import Lexical.Comment
import Lexical.Finding
import Lexical.StringLiteral

/-!
The lexical grammar, stated without reference to the functions that read a text.

* `Grammar.Element`: a part of a text that is a token or trivia, given what follows it.
* `Grammar.Sentence`: a text that is made up of elements.
* `Grammar.tokensFrom`: the tokens among elements, with their places.
-/

namespace Lexical.Grammar

open Character

/-- A text that does not begin with a character of the class, so that a run of the class ends
before it. -/
def Stops (p : Char → Bool) (rest : Text) : Prop := ∀ c, rest.head? = some c → p c = false

/-- The character `c` begins neither an operator of two characters nor a comment when `rest`
follows. -/
def StandsAlone (c : Char) (rest : Text) : Prop :=
  ∀ d, rest.head? = some d →
    Operator.ofPair? c d = none ∧ ¬ (c = '/' ∧ (d = '/' ∨ d = '*'))

/-- `Element kind text rest` says that `text`, when `rest` follows it, is an element: trivia if
`kind` is `none`, else a token of that kind. -/
inductive Element : Option Token.Kind → Text → Text → Prop
  | blank {c : Char} {rest : Text} (blank : isBlank c = true) : Element none [c] rest
  | lineComment {body rest : Text} (within : ∀ c ∈ body, isWithinLine c = true)
      (stops : Stops isWithinLine rest) : Element none ('/' :: '/' :: body) rest
  | blockComment {inside rest : Text} (inside_ok : Comment.Inside inside) :
      Element none ('/' :: '*' :: inside) rest
  | string {body rest : Text} (body_ok : StringLiteral.Body body) :
      Element (some (.string body)) ('"' :: (body ++ ['"'])) rest
  | marked {radix : Radix} {mark digit : Char} {run rest : Text}
      (announced : Radix.ofMark? mark = some radix) (is_digit : radix.isDigit digit = true)
      (accepted : ∀ c ∈ run, radix.isRun c = true) (stops : Stops isNameRest rest) :
      Element (some .number) ('0' :: mark :: digit :: run) rest
  | decimal {digit : Char} {run rest : Text} (is_digit : digit.isDigit = true)
      (accepted : ∀ c ∈ run, isPointedRun c = true) (one_point : run.count '.' ≤ 1)
      (stops : Stops isDecimalRun rest) : Element (some .number) (digit :: run) rest
  | name {c : Char} {run rest : Text} (start : isNameStart c = true)
      (accepted : ∀ d ∈ run, isNameRest d = true) (stops : Stops isNameRest rest) :
      Element (some (.name (c :: run))) (c :: run) rest
  | pair {c d : Char} {op : Operator} {rest : Text} (written : Operator.ofPair? c d = some op) :
      Element (some (.operator op)) [c, d] rest
  | single {c : Char} {op : Operator} {rest : Text} (written : Operator.ofChar? c = some op)
      (alone : StandsAlone c rest) : Element (some (.operator op)) [c] rest
  | other {c : Char} {rest : Text} (no_boundary : isBoundary c = false)
      (no_digit : c.isDigit = false) (no_start : isNameStart c = false)
      (alone : StandsAlone c rest) : Element (some .other) [c] rest

/-- `Sentence es source` says that `source` is made up of the elements `es`, one after the other.
Each is listed with its kind, `none` for trivia, and stands before the text of those after it. -/
inductive Sentence : List (Option Token.Kind × Text) → Text → Prop
  | nil : Sentence [] []
  | cons {kind : Option Token.Kind} {text rest : Text} {es : List (Option Token.Kind × Text)}
      (element : Element kind text rest) :
      Sentence es rest → Sentence ((kind, text) :: es) (text ++ rest)

/-- The tokens among elements of which the first begins at an offset, each with its place. -/
def tokensFrom (position : Nat) : List (Option Token.Kind × Text) → List Token
  | [] => []
  | (none, text) :: es => tokensFrom (position + text.length) es
  | (some kind, text) :: es =>
    ⟨kind, text, .ofLength position text.length⟩ :: tokensFrom (position + text.length) es

end Lexical.Grammar
