import Lexical.Character.Extending
import Lexical.Character.Unprintable
import Lexical.Text

/-!
Texts in double quotes, with every character visible.

* `Text.escape`: how one character is written between the quotes.
* `Text.quote`: a text between quotes.
-/

namespace Lexical.Text

/-- The numeral of `n` in base sixteen, with small letters and without leading zeros. -/
def hexadecimal (n : Nat) : Text := Nat.toDigits 16 n

/-- How a character is written between quotes: the quote and the backslash after a backslash,
four controls by a letter, all else that cannot be seen on its own by its code point, and the
rest as it is. -/
def escape (c : Char) : Text :=
  if c = '"' then ['\\', '"']
  else if c = '\\' then ['\\', '\\']
  else if c = '\x00' then ['\\', '0']
  else if c = '\t' then ['\\', 't']
  else if c = '\n' then ['\\', 'n']
  else if c = '\r' then ['\\', 'r']
  else if Character.isExtending c || Character.isUnprintable c then
    ['\\', 'u', '{'] ++ hexadecimal c.toNat ++ ['}']
  else [c]

/-- A text between double quotes. -/
def quote (text : Text) : Text := '"' :: (text.flatMap escape ++ ['"'])

end Lexical.Text
