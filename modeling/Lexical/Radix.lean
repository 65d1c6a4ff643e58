import Lexical.Text

/-!
The three kinds of number literal, told apart by their digits.
-/

namespace Lexical

/-- The base in which a number literal is written. -/
inductive Radix
  | hexadecimal
  | binary
  | decimal
deriving DecidableEq

namespace Radix

/-- Whether a character is a digit of the base; hexadecimal letters may be of either case. -/
def isDigit : Radix → Char → Bool
  | hexadecimal, c =>
    c.isDigit || (decide ('a' ≤ c) && decide (c ≤ 'f')) ||
      (decide ('A' ≤ c) && decide (c ≤ 'F'))
  | binary, c => c == '0' || c == '1'
  | decimal, c => c.isDigit

/-- What a literal with an announced base takes in: the digits of the base, and underscores. -/
def isRun (radix : Radix) (c : Char) : Bool := c == '_' || radix.isDigit c

/-- The base announced by a letter after a leading zero. -/
def ofMark? : Char → Option Radix
  | 'x' => some hexadecimal
  | 'b' => some binary
  | _ => none

/-- The name of the base within a sentence. -/
def name : Radix → Text
  | hexadecimal => "hexadecimal".toList
  | binary => "binary".toList
  | decimal => "decimal".toList

/-- The name of the base at the head of a sentence. -/
def title : Radix → Text
  | hexadecimal => "Hexadecimal".toList
  | binary => "Binary".toList
  | decimal => "Decimal".toList

end Radix

end Lexical
