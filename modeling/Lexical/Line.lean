import Lexical.Interval

/-!
The lines of a text, and the columns that an interval takes up on one of them.

* `Line.split`: a text cut after every line feed, every carriage return that no line feed follows,
  and every pair of the two; `Line.flatten_split` says that nothing is lost.
* `lineAt`: the line that holds an offset, or the last one past the end.
* `Line.columns`: an interval clipped to the visible part of a line.
-/

namespace Lexical

/-- A line of a text: its number, counted from one, the offset of its first character, and its
characters with the break that ends it. -/
structure Line where
  number : Nat
  start : Nat
  text : Text
deriving DecidableEq

/-- The columns, counted from zero, from `first` on; there are `width` of them. -/
structure Columns where
  first : Nat
  width : Nat
deriving DecidableEq

namespace Line

/-- The characters that breaks are made of. -/
def isBreak (c : Char) : Bool := c == '\n' || c == '\r'

/-- The visible part of a line. -/
def visible (line : Line) : Text := line.text.filter fun c => !isBreak c

/-- Whether an offset lies on the line; its break belongs to it. -/
def covers (line : Line) (position : Nat) : Bool :=
  decide (line.start ≤ position) && decide (position < line.start + line.text.length)

/-- An interval clipped to the visible part of a line. What lies before the line is cut off, and
so is what lies past its visible part; at least one column is left, if need be the one right after
the visible part. -/
def columns (line : Line) (i : Interval) : Columns :=
  let width := line.visible.length
  let first := min (i.first - line.start) width
  let beyond := min (i.last - line.start + 1) (max width (first + 1))
  ⟨first, beyond - first⟩

/-! ### The lines of a text -/

/-- Cuts a text after each break. The last line has no break, and there always is one. -/
def split : Text → List Text
  | [] => [[]]
  | '\n' :: rest => ['\n'] :: split rest
  | '\r' :: '\n' :: rest => ['\r', '\n'] :: split rest
  | '\r' :: rest => ['\r'] :: split rest
  | c :: rest => (split rest).modifyHead (c :: ·)

/-- Numbers lines and adds up where they start. -/
def numberFrom (number start : Nat) : List Text → List Line
  | [] => []
  | text :: rest => ⟨number, start, text⟩ :: numberFrom (number + 1) (start + text.length) rest

/-- The lines of a text. -/
def all (source : Text) : List Line := numberFrom 1 0 (split source)

/-- Even the empty text has a line. -/
theorem split_ne_nil (source : Text) : split source ≠ [] := by
  fun_induction split source <;> simp_all

theorem all_ne_nil (source : Text) : all source ≠ [] := by
  rw [all]
  cases h : split source with
  | nil => exact absurd h (split_ne_nil source)
  | cons text rest => simp [numberFrom]

/-- The lines of a text together are the text. -/
theorem flatten_split (source : Text) : (split source).flatten = source := by
  fun_induction split source with
  | case1 => rfl
  | case2 rest ih => simp [ih]
  | case3 rest ih => simp [ih]
  | case4 rest _ ih => simp [ih]
  | case5 c rest _ _ _ ih =>
    cases h : split rest with
    | nil => exact absurd h (split_ne_nil rest)
    | cons text more =>
      rw [h] at ih
      simpa using ih

end Line

/-- The line of a text that an offset lies on; past the end of the text, the last line. -/
def lineAt (source : Text) (position : Nat) : Line :=
  ((Line.all source).find? (·.covers position)).getD
    ((Line.all source).getLast (Line.all_ne_nil source))

end Lexical
