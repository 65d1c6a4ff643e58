import Lexical.Comment
import Lexical.Piece.Number
import Lexical.StringLiteral

/-!
Cutting a text into pieces.

* `Piece.read`: the piece at the head of a nonempty text, and the text after it.
* `Piece.heads_read`: the two make up the text, and `Piece.length_read_lt` that the second is
  shorter, so cutting comes to an end.
* `pieces`: all pieces of a text; `pieces_flatMap_text` says that together they are the text.
-/

namespace Lexical

namespace Piece

/-- The string literal whose opening quote stands before `rest`. -/
def ofString (rest : Text) : Piece × Text :=
  match StringLiteral.split? rest with
  | some (body, after) => (.token (.string body) ('"' :: (body ++ ['"'])), after)
  | none => malformed .unclosedString [] ('"' :: rest) []

/-- The line comment whose two slashes begin `source`; the line feed that ends it is left. -/
def ofLineComment (source : Text) : Piece × Text :=
  (.trivia (source.takeWhile Character.isWithinLine), source.dropWhile Character.isWithinLine)

/-- The block comment whose opening mark stands before `rest`. -/
def ofBlockComment (rest : Text) : Piece × Text :=
  match Comment.close? 0 rest with
  | some (inside, after) => (.trivia ('/' :: '*' :: inside), after)
  | none => malformed .unclosedComment [] ('/' :: '*' :: rest) []

/-- The name at the head of a text. -/
def ofName (source : Text) : Piece × Text :=
  let name := source.takeWhile Character.isNameRest
  (.token (.name name) name, source.dropWhile Character.isNameRest)

/-- A token of the single character `c`. -/
def ofSingle (c : Char) : Piece :=
  .token (match Operator.ofChar? c with
    | some op => .operator op
    | none => .other) [c]

/-- The operator or other mark that begins with `c`: two characters where they make up an
operator, else one. -/
def ofMark (c : Char) : Text → Piece × Text
  | [] => (ofSingle c, [])
  | d :: after =>
    match Operator.ofPair? c d with
    | some op => (.token (.operator op) [c, d], after)
    | none => (ofSingle c, d :: after)

/-- The piece that begins with the character `c`, when `rest` follows, and the text after the
piece. The first character decides, and for a slash the one after it. -/
def read (c : Char) (rest : Text) : Piece × Text :=
  if Character.isBlank c then (.trivia [c], rest)
  else if c = '"' then ofString rest
  else if c.isDigit then ofNumber c rest
  else if c = '/' ∧ rest.head? = some '/' then ofLineComment (c :: rest)
  else if c = '/' ∧ rest.head? = some '*' then ofBlockComment rest.tail
  else if Character.isNameStart c then ofName (c :: rest)
  else ofMark c rest

/-! ### Nothing is lost -/

theorem heads_ofString (rest : Text) : Heads (ofString rest) ('"' :: rest) := by
  rw [ofString]
  split
  · next body after found =>
    obtain ⟨_, rfl⟩ := StringLiteral.split?_eq_some_iff.1 found
    simp [Heads, text]
  · simpa using heads_malformed .unclosedString [] ('"' :: rest) []

theorem heads_ofLineComment (source : Text) : Heads (ofLineComment source) source :=
  List.takeWhile_append_dropWhile

theorem heads_ofBlockComment (rest : Text) : Heads (ofBlockComment rest) ('/' :: '*' :: rest) := by
  rw [ofBlockComment]
  split
  · next inside after found =>
    obtain ⟨_, rfl⟩ := Comment.close?_zero_eq_some_iff.1 found
    exact heads_trivia ('/' :: '*' :: inside) after
  · simpa using heads_malformed .unclosedComment [] ('/' :: '*' :: rest) []

theorem heads_ofName (source : Text) : Heads (ofName source) source :=
  List.takeWhile_append_dropWhile

theorem heads_ofMark (c : Char) (rest : Text) : Heads (ofMark c rest) (c :: rest) := by
  unfold ofMark
  split
  · rfl
  · split <;> rfl

/-- The piece at the head of a text and the text after it make up the text. -/
theorem heads_read (c : Char) (rest : Text) : Heads (read c rest) (c :: rest) := by
  rw [read]
  split
  · exact heads_trivia [c] rest
  split
  · next h =>
    subst h
    exact heads_ofString rest
  split
  · exact heads_ofNumber c rest
  split
  · exact heads_ofLineComment (c :: rest)
  split
  · next h =>
    obtain ⟨rfl, star⟩ := h
    obtain ⟨after, rfl⟩ : ∃ after, rest = '*' :: after := by
      cases rest with
      | nil => simp at star
      | cons d after => exact ⟨after, by simpa using star⟩
    exact heads_ofBlockComment after
  split
  · exact heads_ofName (c :: rest)
  · exact heads_ofMark c rest

/-! ### Every piece has a character -/

theorem text_malformed_ne_nil {kind : Issue.Kind} {lead covered rest : Text} (h : covered ≠ []) :
    (malformed kind lead covered rest).1.text ≠ [] := by
  simp [malformed, text, h]

theorem text_ofMarked_ne_nil (radix : Radix) (mark : Char) (rest : Text) :
    (ofMarked radix mark rest).1.text ≠ [] := by
  rw [ofMarked]
  split
  · dsimp only
    split
    · exact text_malformed_ne_nil (by simp)
    · simp [text]
  · exact text_malformed_ne_nil (by simp)

theorem text_ofDecimal_ne_nil {c : Char} (h : c.isDigit = true) (rest : Text) :
    (ofDecimal (c :: rest)).1.text ≠ [] := by
  have first : Character.isPointedRun c = true := by simp [Character.isPointedRun, h]
  rw [ofDecimal]
  split
  · exact text_malformed_ne_nil (by simp)
  · split
    · exact text_malformed_ne_nil (by simp [first])
    · simp [text, first]

/-- A piece that is read has at least one character. -/
theorem text_read_ne_nil (c : Char) (rest : Text) : (read c rest).1.text ≠ [] := by
  rw [read]
  split
  · simp [text]
  split
  · rw [ofString]
    split
    · simp [text]
    · exact text_malformed_ne_nil (by simp)
  split
  · next digit =>
    unfold ofNumber
    split
    · exact text_ofDecimal_ne_nil digit []
    · split
      · exact text_ofMarked_ne_nil _ _ _
      · exact text_ofDecimal_ne_nil digit _
  split
  · next h =>
    obtain ⟨rfl, _⟩ := h
    have slash : Character.isWithinLine '/' = true := rfl
    simp [ofLineComment, text, slash]
  split
  · rw [ofBlockComment]
    split
    · simp [text]
    · exact text_malformed_ne_nil (by simp)
  split
  · next start =>
    simp [ofName, text, Character.isNameRest_of_isNameStart start]
  · unfold ofMark
    split
    · simp [ofSingle, text]
    · split <;> simp [ofSingle, text]

/-- What is left after the first piece is shorter. -/
theorem length_read_lt (c : Char) (rest : Text) :
    (read c rest).2.length < (c :: rest).length := by
  rw [← heads_read c rest, List.length_append]
  have := List.length_pos_iff.2 (text_read_ne_nil c rest)
  omega

end Piece

/-! ### All pieces of a text -/

/-- The pieces of a text, from left to right. -/
def pieces : Text → List Piece
  | [] => []
  | c :: rest =>
    let head := Piece.read c rest
    head.1 :: pieces head.2
termination_by source => source.length
decreasing_by exact Piece.length_read_lt c rest

theorem pieces_nil : pieces [] = [] := by rw [pieces]

theorem pieces_cons (c : Char) (rest : Text) :
    pieces (c :: rest) = (Piece.read c rest).1 :: pieces (Piece.read c rest).2 := by rw [pieces]

/-- The pieces of a text together are the text: no character is lost, added or moved. -/
theorem pieces_flatMap_text (source : Text) : (pieces source).flatMap Piece.text = source := by
  fun_induction pieces source with
  | case1 => rfl
  | case2 c rest head ih =>
    rw [List.flatMap_cons, ih]
    exact Piece.heads_read c rest

end Lexical
