/-!
Sets of characters, listed as ranges of code points.

* `Character.inRanges`: the search for a code point in a list of ranges, which stops early.
* `Character.increasing`: the order of the ranges that the search relies on.
* `Character.inRanges_iff`: on ranges in that order the search misses nothing.
-/

namespace Lexical.Character

/-- Whether a code point lies in one of the ranges. The search stops at the first range that lies
past it. -/
def inRanges (n : Nat) : List (Nat × Nat) → Bool
  | [] => false
  | (low, high) :: rest => if n < low then false else decide (n ≤ high) || inRanges n rest

/-- Whether no range is empty and each begins past the one before it, the first at `bound` or
later. -/
def increasing (bound : Nat) : List (Nat × Nat) → Bool
  | [] => true
  | (low, high) :: rest =>
    decide (bound ≤ low) && decide (low ≤ high) && increasing (high + 1) rest

/-- Ranges in increasing order hold nothing below their bound. -/
theorem le_of_increasing {bound : Nat} {ranges : List (Nat × Nat)}
    (h : increasing bound ranges = true) {r : Nat × Nat} (mem : r ∈ ranges) : bound ≤ r.1 := by
  induction ranges generalizing bound with
  | nil => simp at mem
  | cons head rest ih =>
    obtain ⟨low, high⟩ := head
    simp only [increasing, Bool.and_eq_true, decide_eq_true_eq] at h
    rcases List.mem_cons.1 mem with rfl | later
    · exact h.1.1
    · have := ih h.2 later
      omega

/-- A code point is found exactly when it lies in one of the ranges. -/
theorem inRanges_iff {bound n : Nat} {ranges : List (Nat × Nat)}
    (h : increasing bound ranges = true) :
    inRanges n ranges = true ↔ ∃ r ∈ ranges, r.1 ≤ n ∧ n ≤ r.2 := by
  induction ranges generalizing bound with
  | nil => simp [inRanges]
  | cons head rest ih =>
    obtain ⟨low, high⟩ := head
    simp only [increasing, Bool.and_eq_true, decide_eq_true_eq] at h
    by_cases below : n < low
    · simp only [inRanges, below, if_true, Bool.false_eq_true, false_iff]
      rintro ⟨r, mem, bounds⟩
      rcases List.mem_cons.1 mem with rfl | later
      · omega
      · have := le_of_increasing h.2 later
        omega
    · have above : low ≤ n := by omega
      simp [inRanges, below, ih h.2, above]

end Lexical.Character
