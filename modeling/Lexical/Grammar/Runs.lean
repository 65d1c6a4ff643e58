import Lexical.Grammar.Basic
import Mathlib.Data.List.TakeWhile

/-!
Runs of a character class, and where they end.

* `Grammar.Stops.takeWhile_append`, `Grammar.Stops.dropWhile_append`: a run that what follows does
  not go on with is taken whole and leaves what follows.
* `Grammar.stops_dropWhile`: conversely, what is left after a run does not go on with it.
* `Grammar.isAlphanum_of_isDigit` and the lemmas after it: how the runs of numbers lie in the
  classes that must not follow a number.
* `Grammar.stray?_eq_none_iff`: where no letter or digit is out of place.
-/

namespace Lexical.Grammar

open Character Piece

/-! ### Runs -/

/-- Nothing goes on at the end of a text. -/
@[simp] theorem stops_nil (p : Char → Bool) : Stops p [] := by
  intro c head
  cases head

@[simp] theorem stops_cons {p : Char → Bool} {c : Char} {rest : Text} :
    Stops p (c :: rest) ↔ p c = false := by
  simp [Stops]

/-- A run is taken whole when what follows does not go on with it. -/
theorem Stops.takeWhile_append {p : Char → Bool} {run rest : Text}
    (all : ∀ c ∈ run, p c = true) (stops : Stops p rest) : (run ++ rest).takeWhile p = run := by
  rw [List.takeWhile_append_of_pos all]
  cases rest with
  | nil => simp
  | cons c after => simp [stops c rfl]

/-- Past a run is what follows it, when that does not go on with the run. -/
theorem Stops.dropWhile_append {p : Char → Bool} {run rest : Text}
    (all : ∀ c ∈ run, p c = true) (stops : Stops p rest) : (run ++ rest).dropWhile p = rest := by
  rw [List.dropWhile_append_of_pos all]
  cases rest with
  | nil => simp
  | cons c after => simp [stops c rfl]

/-- What is left after a run does not go on with the run. -/
theorem stops_dropWhile (p : Char → Bool) (source : Text) : Stops p (source.dropWhile p) := by
  intro c head
  have none_left := List.head?_dropWhile_not p source
  rw [head] at none_left
  simpa using none_left

/-- A run and what is left after it have together as many characters as the text. -/
theorem length_takeWhile_add_length_dropWhile (p : Char → Bool) (source : Text) :
    (source.takeWhile p).length + (source.dropWhile p).length = source.length := by
  rw [← List.length_append, List.takeWhile_append_dropWhile]

/-- What does not go on with a class does not go on with a smaller one. -/
theorem Stops.mono {p q : Char → Bool} (sub : ∀ c, p c = true → q c = true) {rest : Text}
    (stops : Stops q rest) : Stops p rest := by
  intro c head
  have outside := stops c head
  cases inside : p c with
  | false => rfl
  | true => rw [sub c inside] at outside; exact absurd outside (by simp)

/-! ### Numbers -/

/-- The digits of every base are letters or digits. -/
theorem isAlphanum_of_isDigit {radix : Radix} {c : Char} (h : radix.isDigit c = true) :
    c.isAlphanum = true := by
  have ascii : isAscii c = true := by
    cases radix with
    | hexadecimal =>
      simp only [Radix.isDigit, Bool.or_eq_true, Bool.and_eq_true, decide_eq_true_eq,
        Char.le_def, UInt32.le_iff_toNat_le] at h
      simp only [isAscii, decide_eq_true_eq, UInt32.lt_iff_toNat_lt]
      rcases h with (h | ⟨_, h⟩) | ⟨_, h⟩
      · have := isAscii_of_isDigit h
        simpa [isAscii, UInt32.lt_iff_toNat_lt] using this
      · simp at h ⊢
        omega
      · simp at h ⊢
        omega
    | binary =>
      simp only [Radix.isDigit, Bool.or_eq_true, beq_iff_eq] at h
      rcases h with rfl | rfl <;> rfl
    | decimal => exact isAscii_of_isDigit h
  have only := of_isAscii (p := fun c => !radix.isDigit c || c.isAlphanum)
    (by cases radix <;> decide) ascii
  simpa [h] using only

theorem isNameRest_of_isRun {radix : Radix} (c : Char) (h : radix.isRun c = true) :
    isNameRest c = true := by
  simp only [Radix.isRun, isNameRest, Bool.or_eq_true] at h ⊢
  exact h.symm.imp_left isAlphanum_of_isDigit

theorem isDecimalRun_of_isPointedRun (c : Char) (h : isPointedRun c = true) :
    isDecimalRun c = true := by
  simp only [isPointedRun, isDecimalRun, Char.isAlphanum, Bool.or_eq_true] at h ⊢
  exact h.imp_left (·.imp_left Or.inr)

theorem isNameRest_of_isAlphanum (c : Char) (h : c.isAlphanum = true) : isNameRest c = true := by
  simp [isNameRest, h]

/-- Where neither an accepted character nor a letter follows, no marked literal goes on. -/
theorem stops_isNameRest {radix : Radix} {rest : Text} (run : Stops radix.isRun rest)
    (letters : Stops Char.isAlphanum rest) : Stops isNameRest rest := by
  intro c head
  have ended := run c head
  simp only [Radix.isRun, Bool.or_eq_false_iff] at ended
  simp [isNameRest, ended.1, letters c head]

theorem isDecimalRun_of_isAlphanum (c : Char) (h : c.isAlphanum = true) :
    isDecimalRun c = true :=
  isDecimalRun_of_isNameRest (isNameRest_of_isAlphanum c h)

/-- Where neither an accepted character nor a letter follows, no decimal literal goes on. -/
theorem stops_isDecimalRun {rest : Text} (run : Stops isPointedRun rest)
    (letters : Stops Char.isAlphanum rest) : Stops isDecimalRun rest := by
  intro c head
  have ended := run c head
  simp only [isPointedRun, Bool.or_eq_false_iff] at ended
  simp [isDecimalRun, ended.1.2, ended.2, letters c head]

/-- The letters that announce a base are not among the characters of a decimal literal. -/
theorem ofMark?_eq_none {c : Char} (h : isPointedRun c = true ∨ isDecimalRun c = false) :
    Radix.ofMark? c = none := by
  unfold Radix.ofMark?
  split
  · exact absurd h (by decide)
  · exact absurd h (by decide)
  · rfl

/-! ### Stray characters -/

theorem stray?_cons {c : Char} (h : c.isAlphanum = true) (after : Text) :
    stray? (c :: after) = some (c, after) := by
  rw [stray?, if_pos h]

/-- There is no stray character exactly where neither a letter nor a digit follows. -/
theorem stray?_eq_none_iff {source : Text} :
    stray? source = none ↔ Stops Char.isAlphanum source := by
  cases source with
  | nil => simp [stray?]
  | cons c after => simp [stray?]

theorem isAlphanum_of_stray? {source after : Text} {c : Char}
    (h : stray? source = some (c, after)) : c.isAlphanum = true := by
  cases letter : c.isAlphanum with
  | true => rfl
  | false =>
    have clean : stray? (c :: after) = none := stray?_eq_none_iff.2 (stops_cons.2 letter)
    rw [← eq_cons_of_stray? h, h] at clean
    cases clean

end Lexical.Grammar
