/-!
Texts, and the decimal numerals written in them.

* `Text`: a text is the list of its characters, so that offsets and lengths count
  characters and a slice is `drop` followed by `take`.
* `Text.decimal`: the numeral of a number in base ten; `Text.decimal_inj` says that it
  determines the number.
-/

namespace Lexical

/-- A text, as the list of its characters (Unicode scalar values). -/
abbrev Text := List Char

namespace Text

/-- The numeral of `n` in base ten, without leading zeros. -/
def decimal (n : Nat) : Text := Nat.toDigits 10 n

/-- A numeral is written with the ten digits. -/
theorem isDigit_of_mem_decimal {n : Nat} {c : Char} (h : c ∈ decimal n) : c.isDigit = true :=
  Nat.isDigit_of_mem_toDigits (by decide) (by decide) h

/-- A numeral determines its number. -/
theorem decimal_inj {m n : Nat} : decimal m = decimal n ↔ m = n := by
  constructor
  · intro h
    have read : ∀ k : Nat, Nat.ofDigitChars 10 (decimal k) 0 = k := fun k =>
      Nat.ofDigitChars_toDigits (by decide) (by decide)
    rw [← read m, h, read n]
  · rintro rfl
    rfl

end Text

end Lexical
