import Lexical.Text

/-!
A cursor: a text that is read forward, with one character of lookahead.

* `Cursor`: the part that has been passed and the part still to come.
* `Cursor.current?`, `Cursor.peek?`, `Cursor.since`: looking, which moves nothing.
* `Cursor.consume`, `Cursor.consumeMany`, `Cursor.consumeWhile`: moving forward.
* `Cursor.source`: both parts together.
-/

namespace Lexical

/-- A reader of a text: the characters it has passed, latest first, and those still to come. -/
structure Cursor where
  passed : Text
  rest : Text
deriving DecidableEq

namespace Cursor

/-- A cursor before the first character of a text. -/
def ofText (source : Text) : Cursor := ⟨[], source⟩

/-- The whole text, read and unread. -/
def source (k : Cursor) : Text := k.passed.reverse ++ k.rest

/-- The number of characters passed, which is the offset of the current one. -/
def position (k : Cursor) : Nat := k.passed.length

/-- The character that comes next. -/
def current? (k : Cursor) : Option Char := k.rest.head?

/-- The character after the one that comes next. -/
def peek? (k : Cursor) : Option Char := k.rest.tail.head?

/-- Whether no character is left. -/
def atEnd (k : Cursor) : Bool := k.rest.isEmpty

/-- The characters passed from an offset on; none if the offset has not been reached. -/
def since (k : Cursor) (offset : Nat) : Text := k.passed.reverse.drop offset

/-- The cursor `n` characters further on, or at the end of the text. -/
def advance (k : Cursor) (n : Nat) : Cursor :=
  ⟨(k.rest.take n).reverse ++ k.passed, k.rest.drop n⟩

/-- The character that comes next, if any, and the cursor past it. -/
def consume (k : Cursor) : Option Char × Cursor := (k.current?, k.advance 1)

/-- The cursor past the next `n` characters, or past all that are left. -/
def consumeMany (k : Cursor) (n : Nat) : Cursor := k.advance n

/-- The longest run of characters of a class that comes next, and the cursor past it. -/
def consumeWhile (k : Cursor) (p : Char → Bool) : Text × Cursor :=
  (k.rest.takeWhile p, k.advance (k.rest.takeWhile p).length)

/-! ### Moving forward -/

/-- Moving forward stops at the end of the text. -/
theorem position_advance (k : Cursor) (n : Nat) :
    (k.advance n).position = k.position + min n k.rest.length := by
  simp only [position, advance, List.length_append, List.length_reverse, List.length_take]
  omega

/-- The position never lies past the end. -/
theorem position_le_length_source (k : Cursor) : k.position ≤ k.source.length := by
  simp [position, source]

end Cursor

end Lexical
