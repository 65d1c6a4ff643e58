import Lexical.Interval
import Lexical.Operator
import Lexical.Text.Quoted

/-!
Tokens.

* `Token`: what kind of token it is, the text it is written as, and where that text stands.
* `Token.display`: the one-line form of a token in a listing.
-/

namespace Lexical

/-- The kinds of token. A name carries itself and a string what stands between its quotes, with
escapes as they are written; a number is left unread, and `other` is any single character
that begins nothing else. -/
inductive Token.Kind
  | name (value : Text)
  | number
  | string (value : Text)
  | operator (op : Operator)
  | other
deriving DecidableEq

/-- A token: its kind, the text it is written as, and the interval of that text. -/
structure Token where
  kind : Token.Kind
  raw : Text
  interval : Interval
deriving DecidableEq

namespace Token

/-- The value that names and strings carry. -/
def Kind.value? : Kind → Option Text
  | name value => some value
  | string value => some value
  | number => none
  | operator _ => none
  | other => none

/-- The value of a token, if its kind carries one. -/
def value? (t : Token) : Option Text := t.kind.value?

/-- The same token in a text with `k` more characters in front. -/
def shift (k : Nat) (t : Token) : Token := { t with interval := t.interval.shift k }

/-- The one-line form of a token: its interval, its kind, and its value or the text it is
written as. -/
def display (t : Token) : Text :=
  t.interval.display ++ [' '] ++
    match t.kind with
    | .name value => "Name ".toList ++ Text.quote value
    | .number => "Number ".toList ++ Text.quote t.raw
    | .string value => "String ".toList ++ Text.quote value
    | .operator op => "Operator ".toList ++ op.lexeme
    | .other => "Other ".toList ++ Text.quote t.raw

end Token

end Lexical
