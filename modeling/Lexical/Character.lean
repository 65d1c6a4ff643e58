/-!
The character classes of the lexical grammar.

Every class holds ASCII characters only, apart from `isWithinLine`, which leaves out the
line feed and nothing else. The lemmas `isAscii_of_…` record this, class by class.
-/

namespace Lexical.Character

/-- The blanks that separate tokens: space, tab, line feed, carriage return, form feed and
vertical tab. -/
def isBlank (c : Char) : Bool :=
  c == ' ' || c == '\t' || c == '\n' || c == '\r' || c == '\x0c' || c == '\x0b'

/-- Everything a line comment may go on with: all characters but the line feed. -/
def isWithinLine (c : Char) : Bool := c != '\n'

/-- A name begins with a letter or an underscore. -/
def isNameStart (c : Char) : Bool := c.isAlpha || c == '_'

/-- A name goes on with letters, digits and underscores. -/
def isNameRest (c : Char) : Bool := c.isAlphanum || c == '_'

/-- What a decimal literal takes in: digits, underscores and points. -/
def isPointedRun (c : Char) : Bool := c.isDigit || c == '_' || c == '.'

/-- What adheres to a decimal literal, whether it is allowed there or not: letters, digits,
underscores and points. -/
def isDecimalRun (c : Char) : Bool := c.isAlphanum || c == '_' || c == '.'

/-! ### The classes are ASCII -/

/-- The first 128 characters. -/
def isAscii (c : Char) : Bool := decide (c.val < 128)

theorem isAscii_of_isDigit {c : Char} (h : c.isDigit = true) : isAscii c = true := by
  simp only [Char.isDigit, Bool.and_eq_true, decide_eq_true_eq, UInt32.le_iff_toNat_le] at h
  simp only [isAscii, decide_eq_true_eq, UInt32.lt_iff_toNat_lt]
  have := h.2
  simp at this ⊢
  omega

theorem isAscii_of_isAlpha {c : Char} (h : c.isAlpha = true) : isAscii c = true := by
  have last : c.val ≤ 'z'.val := by
    rcases (Bool.or_eq_true _ _).mp h with upper | lower
    · have le : c.val ≤ 'Z'.val := (of_decide_eq_true upper).2
      exact UInt32.le_trans le (by decide)
    · exact of_decide_eq_true ((Bool.and_eq_true _ _).mp lower).2
  exact decide_eq_true (UInt32.lt_of_le_of_lt last (by decide))

theorem isAscii_of_isAlphanum {c : Char} (h : c.isAlphanum = true) : isAscii c = true := by
  rcases Bool.or_eq_true _ _ ▸ h with h | h
  · exact isAscii_of_isAlpha h
  · exact isAscii_of_isDigit h

theorem isAscii_of_isBlank {c : Char} (h : isBlank c = true) : isAscii c = true := by
  simp only [isBlank, Bool.or_eq_true, beq_iff_eq] at h
  rcases h with ((((rfl | rfl) | rfl) | rfl) | rfl) | rfl <;> rfl

theorem isAscii_of_isNameStart {c : Char} (h : isNameStart c = true) : isAscii c = true := by
  simp only [isNameStart, Bool.or_eq_true, beq_iff_eq] at h
  rcases h with h | rfl
  · exact isAscii_of_isAlpha h
  · rfl

theorem isAscii_of_isNameRest {c : Char} (h : isNameRest c = true) : isAscii c = true := by
  simp only [isNameRest, Bool.or_eq_true, beq_iff_eq] at h
  rcases h with h | rfl
  · exact isAscii_of_isAlphanum h
  · rfl

theorem isAscii_of_isDecimalRun {c : Char} (h : isDecimalRun c = true) : isAscii c = true := by
  simp only [isDecimalRun, Bool.or_eq_true, beq_iff_eq] at h
  rcases h with (h | rfl) | rfl
  · exact isAscii_of_isAlphanum h
  · rfl
  · rfl

/-- A property that the first 128 characters have one by one is had by every ASCII character. -/
theorem of_isAscii {p : Char → Bool} (check : ∀ n < 128, p (Char.ofNat n) = true) {c : Char}
    (h : isAscii c = true) : p c = true := by
  have small : c.toNat < 128 := by
    simpa [isAscii, UInt32.lt_iff_toNat_lt] using h
  have := check c.toNat small
  rwa [Char.ofNat_toNat] at this

/-! ### How the classes overlap -/

theorem isNameRest_of_isNameStart {c : Char} (h : isNameStart c = true) :
    isNameRest c = true := by
  simp only [isNameStart, isNameRest, Char.isAlphanum, Bool.or_eq_true] at h ⊢
  exact h.imp_left Or.inl

theorem isDecimalRun_of_isNameRest {c : Char} (h : isNameRest c = true) :
    isDecimalRun c = true := by
  simp only [isNameRest, isDecimalRun, Bool.or_eq_true] at h ⊢
  exact Or.inl h

/-- What begins a name begins nothing else. -/
theorem only_of_isNameStart {c : Char} (h : isNameStart c = true) :
    isBlank c = false ∧ c ≠ '"' ∧ c.isDigit = false ∧ c ≠ '/' := by
  have only := of_isAscii
    (p := fun c => !isNameStart c || (!isBlank c && c != '"' && !c.isDigit && c != '/'))
    (by decide) (isAscii_of_isNameStart h)
  simpa [h, and_assoc] using only

/-- A digit begins nothing but a number. -/
theorem only_of_isDigit {c : Char} (h : c.isDigit = true) : isBlank c = false ∧ c ≠ '"' := by
  have only := of_isAscii (p := fun c => !c.isDigit || (!isBlank c && c != '"'))
    (by decide) (isAscii_of_isDigit h)
  simpa [h, and_assoc] using only

end Lexical.Character
