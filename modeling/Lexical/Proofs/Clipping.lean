import Lexical.Line.Clip
import Lexical.Proofs.Lines

/-!
Clipping an interval to a line.

* `Columns.Holds`: the columns of a range, one by one.
* `Line.Meets`: a visible column whose character lies on the interval. On a line with something to
  see there is such a column, or the interval lies before the line, or past what is visible
  (`Line.meets_or`).
* `Line.Clipped`: what a clipped interval has to be; it leaves no choice (`Line.Clipped.unique`).
* `clip_exact`: **clipping to the line at any offset is exact, and no number leaves its range.**
-/

namespace Lexical

/-- A column is in the range. -/
def Columns.Holds (c : Columns) (k : Nat) : Prop := c.first ≤ k ∧ k < c.first + c.width

/-- A range that is not empty is determined by the columns it holds. -/
lemma Columns.eq_of_holds {c d : Columns} (hc : 1 ≤ c.width) (hd : 1 ≤ d.width)
    (h : ∀ k, c.Holds k ↔ d.Holds k) : c = d := by
  obtain ⟨p, m⟩ := c
  obtain ⟨q, n⟩ := d
  simp only [Holds] at hc hd h
  -- the first and the last column of either range are in the other one
  have hp := h p
  have hq := h q
  have hm := h (p + m - 1)
  have hn := h (q + n - 1)
  rw [mk.injEq]
  omega

namespace Line

/-- A visible column of the line, whose character lies on the interval. -/
def Meets (line : Line) (i : Interval) (k : Nat) : Prop :=
  k < line.visible.length ∧ i.first ≤ line.start + k ∧ line.start + k ≤ i.last

/-- What an interval clipped to a line has to be. It begins on the visible part of the line or right
after it, has a column at least, and ends with the visible part unless it begins behind it. If some
visible column lies on the interval, then the clipped interval holds exactly the columns that do;
an interval before the line is shown at its first column, one past the visible part right after it,
and on a line without a visible part there is one place only. -/
structure Clipped (line : Line) (i : Interval) (c : Columns) : Prop where
  first_le : c.first ≤ line.visible.length
  width_pos : 1 ≤ c.width
  within : c.first + c.width ≤ max line.visible.length (c.first + 1)
  meets : (∃ k, line.Meets i k) → ∀ k, c.Holds k ↔ line.Meets i k
  before : i.last < line.start → c = ⟨0, 1⟩
  beyond : line.start + line.visible.length ≤ i.first → c = ⟨line.visible.length, 1⟩
  blank : line.visible.length = 0 → c = ⟨0, 1⟩

section

variable (line : Line) (i : Interval)

/-- Where something is visible, the interval meets it, ends before the line or begins past what is
visible. -/
lemma meets_or (h : 0 < line.visible.length) :
    (∃ k, line.Meets i k) ∨ i.last < line.start ∨
      line.start + line.visible.length ≤ i.first := by
  have hle := i.first_le_last
  by_cases hb : i.last < line.start
  · exact .inr (.inl hb)
  by_cases hp : line.start + line.visible.length ≤ i.first
  · exact .inr (.inr hp)
  -- the first column that is not before the interval
  refine .inl ⟨i.first - line.start, ?_⟩
  rw [Meets]
  omega

/-- The columns lie on the visible part, or are the one after it. -/
lemma columns_bounds :
    (line.columns i).first ≤ line.visible.length ∧ 1 ≤ (line.columns i).width ∧
      (line.columns i).first + (line.columns i).width ≤
        max line.visible.length ((line.columns i).first + 1) := by
  have hle := i.first_le_last
  simp only [columns]
  omega

variable {line i}

/-- An interval that meets the visible part is clipped to the columns where it does. -/
lemma holds_columns_iff (h : ∃ k, line.Meets i k) (k : Nat) :
    (line.columns i).Holds k ↔ line.Meets i k := by
  obtain ⟨j, hj, hfirst, hlast⟩ := h
  simp only [Columns.Holds, columns, Meets]
  omega

/-- An interval before the line is clipped to the first column. -/
lemma columns_before (h : i.last < line.start) : line.columns i = ⟨0, 1⟩ := by
  have hle := i.first_le_last
  rw [columns, Columns.mk.injEq]
  omega

/-- An interval past the visible part is clipped to the column after it. -/
lemma columns_beyond (h : line.start + line.visible.length ≤ i.first) :
    line.columns i = ⟨line.visible.length, 1⟩ := by
  have hle := i.first_le_last
  rw [columns, Columns.mk.injEq]
  omega

/-- Where nothing is visible there is one place only. -/
lemma columns_blank (h : line.visible.length = 0) : line.columns i = ⟨0, 1⟩ := by
  rw [columns, Columns.mk.injEq]
  omega

lemma clipped_columns (line : Line) (i : Interval) : Clipped line i (line.columns i) := by
  obtain ⟨hfirst, hwidth, hwithin⟩ := columns_bounds line i
  exact {
    first_le := hfirst
    width_pos := hwidth
    within := hwithin
    meets := holds_columns_iff
    before := columns_before
    beyond := columns_beyond
    blank := columns_blank }

/-- There is one way to clip an interval. -/
lemma Clipped.unique {c d : Columns} (hc : Clipped line i c) (hd : Clipped line i d) : c = d := by
  rcases Nat.eq_zero_or_pos line.visible.length with hblank | hpos
  · rw [hc.blank hblank, hd.blank hblank]
  · rcases meets_or line i hpos with hmeets | hbefore | hbeyond
    · exact Columns.eq_of_holds hc.width_pos hd.width_pos fun k =>
        (hc.meets hmeets k).trans (hd.meets hmeets k).symm
    · rw [hc.before hbefore, hd.before hbefore]
    · rw [hc.beyond hbeyond, hd.beyond hbeyond]

end

/-- The visible columns of the line at an offset show the characters of the text from where the line
starts. -/
lemma getElem?_visible_lineAt (source : Text) (p : Nat) {k : Nat}
    (h : k < (lineAt source p).visible.length) :
    (lineAt source p).visible[k]? = source[(lineAt source p).start + k]? := by
  obtain ⟨before, body, ending, rest, hcut, hline⟩ := exists_cut source p
  rw [hline, hcut.visible_eq] at h ⊢
  rw [hcut.whole, List.append_assoc, List.getElem?_append_right (Nat.le_add_right _ _),
    Nat.add_sub_cancel_left, List.getElem?_append_left h]

end Line

open Line

/-- **Clipping an interval to the line at an offset is exact.** Let words hold the numbers below
`2 ^ 64`. As long as the last offset of the interval is not the largest of them, no number leaves
its range, and the columns are what a clipped interval has to be and the only such columns. The
visible column `k` shows the character of the text that stands `k` places behind the start of the
line. -/
theorem clip_exact (source : Text) (p : Nat) {i : Interval} (h : i.last < 2 ^ 64 - 1) :
    (lineAt source p).clip (2 ^ 64) i = .ok ((lineAt source p).columns i) ∧
      Clipped (lineAt source p) i ((lineAt source p).columns i) ∧
      (∀ c, Clipped (lineAt source p) i c → c = (lineAt source p).columns i) ∧
      ∀ k < (lineAt source p).visible.length,
        (lineAt source p).visible[k]? = source[(lineAt source p).start + k]? := by
  refine ⟨?_, clipped_columns _ i, fun c hc => hc.unique (clipped_columns _ i), ?_⟩
  · rw [clip_eq, if_pos (by omega)]
  · intro k hk
    exact getElem?_visible_lineAt source p hk

/-- A comment that goes on over the next line is shown up to the end of its first line. -/
theorem clip_exact_of_comment :
    (lineAt "a /* b\nc".toList 2).clip (2 ^ 64) ⟨2, 7, by decide⟩ = .ok ⟨2, 4⟩ ∧
      Clipped (lineAt "a /* b\nc".toList 2) ⟨2, 7, by decide⟩ ⟨2, 4⟩ := by
  have h : (⟨2, 7, by decide⟩ : Interval).last < 2 ^ 64 - 1 := by decide
  have hcolumns : (lineAt "a /* b\nc".toList 2).columns ⟨2, 7, by decide⟩ = ⟨2, 4⟩ := by
    decide +kernel
  obtain ⟨hclip, hclipped, -⟩ := clip_exact "a /* b\nc".toList 2 h
  rw [hcolumns] at hclip hclipped
  exact ⟨hclip, hclipped⟩

end Lexical
