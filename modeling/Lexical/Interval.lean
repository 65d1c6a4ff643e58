import Lexical.Text

/-!
Intervals of character offsets, both ends inside.

* `Interval`: the two ends, in order by construction.
* `Interval.ofBounds`: the checked constructor; `Interval.Reversed` is its only failure.
* `Interval.ofLength`: the interval of a piece of text from its offset and length.
* `Interval.lookup`: the characters of a text at the offsets of an interval, as many as there
  are (`length_lookup`).
-/

namespace Lexical

/-- The character offsets from `first` to `last`, both included. -/
structure Interval where
  first : Nat
  last : Nat
  first_le_last : first ≤ last := by omega
deriving DecidableEq

namespace Interval

/-- Two bounds that leave no room for an interval: the first lies past the last. -/
structure Reversed where
  first : Nat
  last : Nat
deriving DecidableEq

/-- The wording of the refusal. -/
def Reversed.message (r : Reversed) : Text :=
  "Interval start ".toList ++ Text.decimal r.first ++ " is past its end ".toList ++
    Text.decimal r.last

/-- The interval with the given ends, refused when they are reversed. -/
def ofBounds (first last : Nat) : Except Reversed Interval :=
  if h : first ≤ last then .ok ⟨first, last, h⟩ else .error ⟨first, last⟩

/-- The interval of one character. -/
def single (position : Nat) : Interval := ⟨position, position, Nat.le_refl _⟩

/-- The interval of `length` characters from `position` on; no interval is empty, so the length
counts as one at least. -/
def ofLength (position length : Nat) : Interval :=
  ⟨position, position + (length - 1), Nat.le_add_right _ _⟩

/-- The number of characters covered. -/
def length (i : Interval) : Nat := i.last - i.first + 1

/-- The same characters in a text with `k` more characters in front. -/
def shift (k : Nat) (i : Interval) : Interval :=
  ⟨i.first + k, i.last + k, Nat.add_le_add_right i.first_le_last k⟩

/-- The part of a text that the interval covers; offsets past the end cover nothing. -/
def lookup (i : Interval) (source : Text) : Text := (source.drop i.first).take i.length

/-- An interval in writing: `first..=last`. -/
def display (i : Interval) : Text :=
  Text.decimal i.first ++ "..=".toList ++ Text.decimal i.last

/-! ### Lengths and shifts -/

@[simp] theorem first_ofLength (p n : Nat) : (ofLength p n).first = p := rfl

@[simp] theorem last_ofLength (p n : Nat) : (ofLength p n).last = p + (n - 1) := rfl

theorem length_ofLength (p : Nat) {n : Nat} (h : 0 < n) : (ofLength p n).length = n := by
  simp only [length, ofLength]
  omega

theorem shift_shift (j k : Nat) (i : Interval) : (i.shift j).shift k = i.shift (j + k) := by
  simp only [shift, Nat.add_assoc]

theorem shift_ofLength (k p n : Nat) : (ofLength p n).shift k = ofLength (p + k) n := by
  simp only [shift, ofLength, mk.injEq, true_and]
  omega

/-- A lookup gives the characters of the interval that the text has. -/
theorem length_lookup (i : Interval) (source : Text) :
    (i.lookup source).length = min i.length (source.length - i.first) := by
  simp [lookup]

/-- The interval of a piece of text, wherever it stands, covers that piece. -/
theorem lookup_ofLength (before piece after : Text) (h : piece ≠ []) :
    (ofLength before.length piece.length).lookup (before ++ (piece ++ after)) = piece := by
  have pos : 0 < piece.length := List.length_pos_iff.2 h
  simp [lookup, length_ofLength _ pos]

/-- The checked constructor succeeds exactly on bounds in order, and keeps them. -/
theorem ofBounds_eq_ok_iff {first last : Nat} {i : Interval} :
    ofBounds first last = .ok i ↔ i.first = first ∧ i.last = last := by
  obtain ⟨a, b, hab⟩ := i
  by_cases h : first ≤ last
  · simp [ofBounds, h, eq_comm]
  · simp only [ofBounds, h, dite_false, reduceCtorEq, false_iff]
    rintro ⟨rfl, rfl⟩
    exact h hab

end Interval

end Lexical
