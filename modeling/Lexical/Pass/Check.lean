import Lexical.Cursor
import Lexical.Issue
import Lexical.Token

/-!
What a pass over a text checks on its way.

* `Breach`: the causes for which a pass would break off.
* `Checked`: a result, unless there is a breach; `Checked.fit`, `Checked.pred` and `Checked.minus`
  are the checks of numbers.
* `Cursor.ahead?`, `Cursor.forward`, `Cursor.run`: looking and moving, with every offset checked.
* `Cursor.slice`, `Cursor.interval`: the text and the place of what has been passed, with their ends
  checked (`Cursor.interval_eq_ok_iff`).
-/

namespace Lexical

/-- The causes for which a pass would break off. -/
inductive Breach
  /-- A number is too large for a word. -/
  | overflow (number : Nat)
  /-- A number would fall below zero. -/
  | underflow
  /-- A slice of the text has its ends in the wrong order, or ends past the text. -/
  | slice (first beyond : Nat)
  /-- An interval has its ends in the wrong order. -/
  | reversed (ends : Interval.Reversed)
  /-- An interval reaches past the end of the text. -/
  | outside (interval : Interval)
  /-- A round of the loop has not moved the cursor. -/
  | stuck (position : Nat)
deriving DecidableEq

/-- A result, unless there is a breach. -/
abbrev Checked := Except Breach

namespace Checked

/-- A number, if it is below the limit of what a word can hold. -/
def fit (limit n : Nat) : Checked Nat := if n < limit then .ok n else .error (.overflow n)

/-- The number before a number, if there is one. -/
def pred : Nat → Checked Nat
  | 0 => .error .underflow
  | n + 1 => .ok n

/-- The difference of two numbers, if it does not fall below zero. -/
def minus (m n : Nat) : Checked Nat := if n ≤ m then .ok (m - n) else .error .underflow

/-! ### Checks that hold, or fail -/

theorem ok_bind {α β : Type} (a : α) (f : α → Checked β) : ((.ok a : Checked α) >>= f) = f a := rfl

theorem fit_bind {α : Type} {limit n : Nat} (h : n < limit) (f : Nat → Checked α) :
    (fit limit n >>= f) = f n := by
  rw [fit, if_pos h]
  rfl

theorem fit_bind_of_le {α : Type} {limit n : Nat} (h : limit ≤ n) (f : Nat → Checked α) :
    (fit limit n >>= f) = .error (.overflow n) := by
  rw [fit, if_neg (Nat.not_lt_of_le h)]
  rfl

theorem pred_bind {α : Type} (n : Nat) (f : Nat → Checked α) : (pred (n + 1) >>= f) = f n := rfl

theorem minus_bind {α : Type} {m n : Nat} (h : n ≤ m) (f : Nat → Checked α) :
    (minus m n >>= f) = f (m - n) := by
  rw [minus, if_pos h, ok_bind]

end Checked

namespace Cursor

open Checked

variable (limit : Nat)

/-- The character after the one that comes next, at an offset that is checked. -/
def ahead? (k : Cursor) : Checked (Option Char) := do
  let _ ← fit limit (k.position + 1)
  return k.peek?

/-- The cursor `n` characters further on, or at the end of the text; its offset is checked. -/
def forward (k : Cursor) (n : Nat) : Checked Cursor := do
  let _ ← fit limit (k.consumeMany n).position
  return k.consumeMany n

/-- The longest run of characters of a class that comes next, and the cursor past it. -/
def run (k : Cursor) (p : Char → Bool) : Checked (Text × Cursor) := do
  let _ ← fit limit (k.consumeWhile p).2.position
  return k.consumeWhile p

/-- The characters passed from an offset on. -/
def slice (k : Cursor) (start : Nat) : Checked Text :=
  if start ≤ k.position ∧ k.position ≤ k.source.length then .ok (k.since start)
  else .error (.slice start k.position)

/-- The interval with the given ends, which must lie within the text. -/
def interval (k : Cursor) (first last : Nat) : Checked Interval :=
  match Interval.ofBounds first last with
  | .error ends => .error (.reversed ends)
  | .ok i => if i.last < k.source.length then .ok i else .error (.outside i)

/-- The interval from an offset to the last character passed, but of one character at least. -/
def intervalSince (k : Cursor) (start : Nat) : Checked Interval := do
  let next ← fit limit (start + 1)
  let last ← pred (max k.position next)
  k.interval start last

/-- An issue that blames all characters passed from an offset on. -/
def issueSince (k : Cursor) (start : Nat) (kind : Issue.Kind) : Checked Issue := do
  let interval ← k.intervalSince limit start
  return ⟨kind, interval⟩

/-- The token that consists of all characters passed from an offset on. -/
def tokenSince (k : Cursor) (start : Nat) (kind : Token.Kind) : Checked Token := do
  let raw ← k.slice start
  let interval ← k.intervalSince limit start
  return ⟨kind, raw, interval⟩

/-- An interval is given out exactly if its ends are in order and within the text. -/
theorem interval_eq_ok_iff {k : Cursor} {first last : Nat} {i : Interval} :
    k.interval first last = .ok i ↔ i.first = first ∧ i.last = last ∧ last < k.source.length := by
  rw [interval]
  cases found : Interval.ofBounds first last with
  | error ends =>
    simp only [reduceCtorEq, false_iff, not_and]
    intro same_first same_last
    rw [Interval.ofBounds_eq_ok_iff.2 ⟨same_first, same_last⟩] at found
    cases found
  | ok j =>
    obtain ⟨rfl, rfl⟩ := Interval.ofBounds_eq_ok_iff.1 found
    by_cases within : j.last < k.source.length
    · simp only [within, if_true, Except.ok.injEq, and_true]
      rw [← Interval.ofBounds_eq_ok_iff, found, Except.ok.injEq]
    · simp [within]

end Cursor

end Lexical
