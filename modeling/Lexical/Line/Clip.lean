import Lexical.Line
import Lexical.Pass.Check

/-!
Clipping an interval to a line, with every number checked.

* `Line.clip`: the columns of an interval on the line, from checked numbers.
* `Line.clip_eq`: clipping gives the columns, unless the end of the interval is too large for a
  word.
-/

namespace Lexical

namespace Line

open Checked

/-- An interval clipped to the visible part of a line. The two distances from the start of the line
stop at zero; the last difference must not fall below it. -/
def clip (limit : Nat) (line : Line) (i : Interval) : Checked Columns := do
  let first := min (i.first - line.start) line.visible.length
  let ending ← fit limit (i.last - line.start + 1)
  let next ← fit limit (first + 1)
  let width ← minus (min ending (max line.visible.length next)) first
  return ⟨first, width⟩

/-- The clipped interval ends behind its first column, so that the last difference exists. -/
theorem first_le_beyond (line : Line) (i : Interval) :
    min (i.first - line.start) line.visible.length ≤
      min (i.last - line.start + 1)
        (max line.visible.length (min (i.first - line.start) line.visible.length + 1)) := by
  have order := i.first_le_last
  omega

/-- Clipping gives the columns. Only the end of the interval can be too large for a word: the first
column never is, and no difference falls below zero. -/
theorem clip_eq (limit : Nat) (line : Line) (i : Interval) :
    line.clip limit i =
      if i.last - line.start + 1 < limit then .ok (line.columns i)
      else .error (.overflow (i.last - line.start + 1)) := by
  have order := i.first_le_last
  split
  next fits =>
    rw [clip, fit_bind fits, fit_bind (by omega), minus_bind (first_le_beyond line i)]
    rfl
  next large => rw [clip, fit_bind_of_le (Nat.le_of_not_lt large)]

end Line

end Lexical
