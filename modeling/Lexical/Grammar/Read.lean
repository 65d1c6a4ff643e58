import Lexical.Grammar.Runs

/-!
Reading follows the grammar.

* `Grammar.Element.read`: an element at the head of a text is the piece that is read there.
* `Grammar.element_of_read`: a piece that is no fault is an element.
-/

namespace Lexical.Grammar

open Character Piece

/-- The piece that an element of a kind is. -/
def pieceOf : Option Token.Kind → Text → Piece
  | none, text => .trivia text
  | some kind, text => .token kind text

/-! ### Elements are read -/

theorem ofNumber_marked {radix : Radix} {mark : Char} (announced : Radix.ofMark? mark = some radix)
    (rest : Text) : ofNumber '0' (mark :: rest) = ofMarked radix mark rest := by
  simp [ofNumber, announced]

theorem ofNumber_decimal {digit : Char} {rest : Text}
    (unmarked : digit = '0' → ∀ c, rest.head? = some c → Radix.ofMark? c = none) :
    ofNumber digit rest = ofDecimal (digit :: rest) := by
  cases rest with
  | nil => rfl
  | cons c after =>
    by_cases zero : digit = '0'
    · simp [ofNumber, unmarked zero c rfl]
    · simp [ofNumber, zero]

theorem read_digit {digit : Char} (h : digit.isDigit = true) (rest : Text) :
    Piece.read digit rest = ofNumber digit rest := by
  obtain ⟨not_blank, not_quote⟩ := only_of_isDigit h
  simp [Piece.read, h, not_blank, not_quote]

theorem read_marked {radix : Radix} {mark digit : Char} {run rest : Text}
    (announced : Radix.ofMark? mark = some radix) (is_digit : radix.isDigit digit = true)
    (accepted : ∀ c ∈ run, radix.isRun c = true) (stops : Stops isNameRest rest) :
    Piece.read '0' (mark :: digit :: (run ++ rest)) =
      (.token .number ('0' :: mark :: digit :: run), rest) := by
  have all : ∀ c ∈ digit :: run, radix.isRun c = true := by
    intro c mem
    rcases List.mem_cons.1 mem with rfl | later
    · simp [Radix.isRun, is_digit]
    · exact accepted c later
  have ends : Stops radix.isRun rest := stops.mono isNameRest_of_isRun
  have taken := Stops.takeWhile_append all ends
  have left := Stops.dropWhile_append all ends
  rw [List.cons_append] at taken left
  have some_digit : (stray? (digit :: (run ++ rest))).isSome = true := by
    simp [stray?, isAlphanum_of_isDigit is_digit]
  rw [read_digit rfl, ofNumber_marked announced, ofMarked, if_pos some_digit]
  have clean : stray? rest = none := stray?_eq_none_iff.2 (stops.mono isNameRest_of_isAlphanum)
  simp only [taken, left, clean]

theorem read_decimal {digit : Char} {run rest : Text} (is_digit : digit.isDigit = true)
    (accepted : ∀ c ∈ run, isPointedRun c = true) (one_point : run.count '.' ≤ 1)
    (stops : Stops isDecimalRun rest) :
    Piece.read digit (run ++ rest) = (.token .number (digit :: run), rest) := by
  have all : ∀ c ∈ digit :: run, isPointedRun c = true := by
    intro c mem
    rcases List.mem_cons.1 mem with rfl | later
    · simp [isPointedRun, is_digit]
    · exact accepted c later
  have unmarked : ∀ c, (run ++ rest).head? = some c → Radix.ofMark? c = none := by
    intro c head
    cases run with
    | nil => exact ofMark?_eq_none (.inr (stops c head))
    | cons d more =>
      obtain rfl := Option.some.inj head
      exact ofMark?_eq_none (.inl (accepted d (by simp)))
  have ends : Stops isPointedRun rest := stops.mono isDecimalRun_of_isPointedRun
  have taken := Stops.takeWhile_append all ends
  have left := Stops.dropWhile_append all ends
  rw [List.cons_append] at taken left
  have clean : stray? rest = none := stray?_eq_none_iff.2 (stops.mono isDecimalRun_of_isAlphanum)
  have few : ¬ 1 < (digit :: run).count '.' := by
    have not_point : digit ≠ '.' := by
      rintro rfl
      exact absurd is_digit (by decide)
    rw [List.count_cons_of_ne not_point]
    omega
  rw [read_digit is_digit, ofNumber_decimal (fun _ => unmarked), ofDecimal]
  simp only [taken, left, clean, if_neg few]

theorem read_name {c : Char} {run rest : Text} (start : isNameStart c = true)
    (accepted : ∀ d ∈ run, isNameRest d = true) (stops : Stops isNameRest rest) :
    Piece.read c (run ++ rest) = (.token (.name (c :: run)) (c :: run), rest) := by
  obtain ⟨not_blank, not_quote, not_digit, not_slash⟩ := only_of_isNameStart start
  have all : ∀ d ∈ c :: run, isNameRest d = true := by
    intro d mem
    rcases List.mem_cons.1 mem with rfl | later
    · exact isNameRest_of_isNameStart start
    · exact accepted d later
  have taken := Stops.takeWhile_append all stops
  have left := Stops.dropWhile_append all stops
  rw [List.cons_append] at taken left
  simp [Piece.read, not_blank, not_quote, not_digit, not_slash, start, ofName, taken, left]

theorem read_pair {c d : Char} {op : Operator} (written : Operator.ofPair? c d = some op)
    (rest : Text) : Piece.read c (d :: rest) = (.token (.operator op) [c, d], rest) := by
  have eq := Operator.ofPair?_eq_some_iff.1 written
  cases op <;> simp only [Operator.lexeme, List.cons.injEq, reduceCtorEq, and_false] at eq <;>
    obtain ⟨rfl, rfl, _⟩ := eq <;> rfl

/-- A character that begins no operator of two characters and no comment is read alone, unless its
class says otherwise. -/
theorem read_alone {c : Char} {rest : Text} (not_blank : isBlank c = false) (not_quote : c ≠ '"')
    (not_digit : c.isDigit = false) (not_start : isNameStart c = false)
    (alone : StandsAlone c rest) : Piece.read c rest = (ofSingle c, rest) := by
  have no_comment : ∀ d, d = '/' ∨ d = '*' → ¬ (c = '/' ∧ rest.head? = some d) :=
    fun d mark ⟨slash, head⟩ => (alone d head).2 ⟨slash, mark⟩
  have single : ofMark c rest = (ofSingle c, rest) := by
    cases rest with
    | nil => rfl
    | cons d after => simp [ofMark, (alone d rfl).1]
  simp [Piece.read, not_blank, not_quote, not_digit, not_start, no_comment '/' (.inl rfl),
    no_comment '*' (.inr rfl), single]

theorem read_single {c : Char} {op : Operator} {rest : Text}
    (written : Operator.ofChar? c = some op) (alone : StandsAlone c rest) :
    Piece.read c rest = (.token (.operator op) [c], rest) := by
  have eq := Operator.ofChar?_eq_some_iff.1 written
  have classes : isBlank c = false ∧ c ≠ '"' ∧ c.isDigit = false ∧ isNameStart c = false := by
    cases op <;> simp only [Operator.lexeme, List.cons.injEq, reduceCtorEq, and_false] at eq <;>
      obtain ⟨rfl, _⟩ := eq <;> decide
  rw [read_alone classes.1 classes.2.1 classes.2.2.1 classes.2.2.2 alone, ofSingle, written]

theorem read_other {c : Char} {rest : Text} (no_boundary : isBoundary c = false)
    (no_digit : c.isDigit = false) (no_start : isNameStart c = false)
    (alone : StandsAlone c rest) : Piece.read c rest = (.token .other [c], rest) := by
  obtain ⟨not_blank, not_quote, no_operator⟩ := isBoundary_eq_false_iff.1 no_boundary
  rw [read_alone not_blank not_quote no_digit no_start alone, ofSingle, no_operator]

/-- **An element at the head of a text is the piece that is read there.** -/
theorem Element.read {kind : Option Token.Kind} {text rest : Text} (h : Element kind text rest) :
    ∃ c after, text ++ rest = c :: after ∧ Piece.read c after = (pieceOf kind text, rest) := by
  cases h with
  | @blank c _ blank => exact ⟨c, rest, rfl, by simp [Piece.read, blank, pieceOf]⟩
  | @lineComment body _ within stops =>
    refine ⟨'/', '/' :: (body ++ rest), rfl, ?_⟩
    have all : ∀ c ∈ '/' :: '/' :: body, isWithinLine c = true := by
      simpa [isWithinLine] using within
    have taken := Stops.takeWhile_append all stops
    have left := Stops.dropWhile_append all stops
    simp only [List.cons_append] at taken left
    exact Prod.ext (congrArg Piece.trivia taken) left
  | @blockComment inside _ inside_ok =>
    refine ⟨'/', '*' :: (inside ++ rest), rfl, ?_⟩
    have found : Comment.close? 0 (inside ++ rest) = some (inside, rest) :=
      Comment.close?_zero_eq_some_iff.2 ⟨inside_ok, rfl⟩
    change ofBlockComment (inside ++ rest) = _
    rw [ofBlockComment, found]
    rfl
  | @string body _ body_ok =>
    refine ⟨'"', body ++ '"' :: rest, by simp, ?_⟩
    change ofString (body ++ '"' :: rest) = _
    rw [ofString, body_ok.split?_append]
    rfl
  | marked announced is_digit accepted stops =>
    exact ⟨_, _, rfl, read_marked announced is_digit accepted stops⟩
  | decimal is_digit accepted one_point stops =>
    exact ⟨_, _, rfl, read_decimal is_digit accepted one_point stops⟩
  | name start accepted stops => exact ⟨_, _, rfl, read_name start accepted stops⟩
  | pair written => exact ⟨_, _, rfl, read_pair written rest⟩
  | single written alone => exact ⟨_, _, rfl, read_single written alone⟩
  | other no_boundary no_digit no_start alone =>
    exact ⟨_, _, rfl, read_other no_boundary no_digit no_start alone⟩

/-! ### What is read is an element -/

theorem trivia_eq_pieceOf {t text : Text} {kind : Option Token.Kind} :
    Piece.trivia t = pieceOf kind text ↔ kind = none ∧ text = t := by
  cases kind <;> simp [pieceOf, eq_comm]

theorem token_eq_pieceOf {k : Token.Kind} {t text : Text} {kind : Option Token.Kind} :
    Piece.token k t = pieceOf kind text ↔ kind = some k ∧ text = t := by
  cases kind <;> simp [pieceOf, eq_comm]

theorem malformed_ne_pieceOf {cause : Issue.Kind} {lead covered rest text after : Text}
    {kind : Option Token.Kind} :
    malformed cause lead covered rest ≠ (pieceOf kind text, after) := by
  cases kind <;> simp [malformed, pieceOf]

theorem element_ofMarked {radix : Radix} {mark : Char} {rest text after : Text}
    {kind : Option Token.Kind} (announced : Radix.ofMark? mark = some radix)
    (h : ofMarked radix mark rest = (pieceOf kind text, after)) : Element kind text after := by
  rw [ofMarked] at h
  split at h
  · next has_value =>
    dsimp only at h
    split at h
    · exact absurd h malformed_ne_pieceOf
    · next clean =>
      obtain ⟨piece, rfl⟩ := Prod.mk.inj h
      obtain ⟨rfl, rfl⟩ := token_eq_pieceOf.1 piece
      obtain ⟨⟨digit, more⟩, found⟩ := Option.isSome_iff_exists.1 has_value
      have letter := isAlphanum_of_stray? found
      obtain rfl := eq_cons_of_stray? found
      have stops := stops_isNameRest (stops_dropWhile radix.isRun _) (stray?_eq_none_iff.1 clean)
      by_cases accepted : radix.isRun digit = true
      · have not_underscore : digit ≠ '_' := by
          rintro rfl
          exact absurd letter (by decide)
        have is_digit : radix.isDigit digit = true := by
          simpa [Radix.isRun, not_underscore] using accepted
        rw [List.takeWhile_cons_of_pos accepted]
        exact .marked announced is_digit (fun _ => List.mem_takeWhile_imp) stops
      · rw [List.dropWhile_cons_of_neg accepted, stray?_cons letter] at clean
        exact absurd clean (by simp)
  · exact absurd h malformed_ne_pieceOf

theorem element_ofDecimal {digit : Char} {rest text after : Text} {kind : Option Token.Kind}
    (is_digit : digit.isDigit = true)
    (h : ofDecimal (digit :: rest) = (pieceOf kind text, after)) : Element kind text after := by
  have first : isPointedRun digit = true := by simp [isPointedRun, is_digit]
  rw [ofDecimal] at h
  split at h
  · exact absurd h malformed_ne_pieceOf
  · next clean =>
    split at h
    · exact absurd h malformed_ne_pieceOf
    · next few =>
      obtain ⟨piece, rfl⟩ := Prod.mk.inj h
      obtain ⟨rfl, rfl⟩ := token_eq_pieceOf.1 piece
      rw [List.takeWhile_cons_of_pos first] at few ⊢
      refine .decimal is_digit (fun _ => List.mem_takeWhile_imp) ?_ ?_
      · have := List.count_le_count_cons (a := '.') (b := digit) (l := rest.takeWhile isPointedRun)
        omega
      · exact stops_isDecimalRun (stops_dropWhile isPointedRun _) (stray?_eq_none_iff.1 clean)

theorem element_ofNumber {digit : Char} {rest text after : Text} {kind : Option Token.Kind}
    (is_digit : digit.isDigit = true)
    (h : ofNumber digit rest = (pieceOf kind text, after)) : Element kind text after := by
  unfold ofNumber at h
  split at h
  · exact element_ofDecimal is_digit h
  · split at h
    · next announced =>
      split at announced
      · exact element_ofMarked announced h
      · exact absurd announced (by simp)
    · exact element_ofDecimal is_digit h

theorem element_ofString {rest text after : Text} {kind : Option Token.Kind}
    (h : ofString rest = (pieceOf kind text, after)) : Element kind text after := by
  rw [ofString] at h
  split at h
  · next found =>
    obtain ⟨piece, rfl⟩ := Prod.mk.inj h
    obtain ⟨rfl, rfl⟩ := token_eq_pieceOf.1 piece
    exact .string (StringLiteral.split?_eq_some_iff.1 found).1
  · exact absurd h malformed_ne_pieceOf

theorem element_ofBlockComment {rest text after : Text} {kind : Option Token.Kind}
    (h : ofBlockComment rest = (pieceOf kind text, after)) : Element kind text after := by
  rw [ofBlockComment] at h
  split at h
  · next found =>
    obtain ⟨piece, rfl⟩ := Prod.mk.inj h
    obtain ⟨rfl, rfl⟩ := trivia_eq_pieceOf.1 piece
    exact .blockComment (Comment.close?_zero_eq_some_iff.1 found).1
  · exact absurd h malformed_ne_pieceOf

theorem element_ofLineComment {rest text after : Text} {kind : Option Token.Kind}
    (h : ofLineComment ('/' :: '/' :: rest) = (pieceOf kind text, after)) :
    Element kind text after := by
  obtain ⟨piece, rfl⟩ := Prod.mk.inj h
  obtain ⟨rfl, rfl⟩ := trivia_eq_pieceOf.1 piece
  have slash : isWithinLine '/' = true := rfl
  rw [List.takeWhile_cons_of_pos slash, List.takeWhile_cons_of_pos slash]
  exact .lineComment (fun _ => List.mem_takeWhile_imp) (stops_dropWhile isWithinLine _)

theorem element_ofName {c : Char} {rest text after : Text} {kind : Option Token.Kind}
    (start : isNameStart c = true) (h : ofName (c :: rest) = (pieceOf kind text, after)) :
    Element kind text after := by
  obtain ⟨piece, rfl⟩ := Prod.mk.inj h
  obtain ⟨rfl, rfl⟩ := token_eq_pieceOf.1 piece
  rw [List.takeWhile_cons_of_pos (isNameRest_of_isNameStart start)]
  exact .name start (fun _ => List.mem_takeWhile_imp) (stops_dropWhile isNameRest _)

theorem element_ofSingle {c : Char} {rest text : Text} {kind : Option Token.Kind}
    (not_blank : isBlank c = false) (not_quote : c ≠ '"') (not_digit : c.isDigit = false)
    (not_start : isNameStart c = false) (alone : StandsAlone c rest)
    (h : ofSingle c = pieceOf kind text) : Element kind text rest := by
  obtain ⟨rfl, rfl⟩ := token_eq_pieceOf.1 h
  split
  · next written => exact .single written alone
  · next no_operator =>
    exact .other (isBoundary_eq_false_iff.2 ⟨not_blank, not_quote, no_operator⟩) not_digit
      not_start alone

/-- **A piece that is no fault is an element.** -/
theorem element_of_read {c : Char} {rest text after : Text} {kind : Option Token.Kind}
    (h : Piece.read c rest = (pieceOf kind text, after)) : Element kind text after := by
  rw [Piece.read] at h
  split at h
  · next blank =>
    obtain ⟨piece, rfl⟩ := Prod.mk.inj h
    obtain ⟨rfl, rfl⟩ := trivia_eq_pieceOf.1 piece
    exact .blank blank
  · next not_blank =>
  split at h
  · exact element_ofString h
  · next not_quote =>
  split at h
  · next digit => exact element_ofNumber digit h
  · next not_digit =>
  split at h
  · next slashes =>
    obtain ⟨rfl, head⟩ := slashes
    obtain ⟨more, rfl⟩ := List.head?_eq_some_iff.1 head
    exact element_ofLineComment h
  · next no_line =>
  split at h
  · exact element_ofBlockComment h
  · next no_block =>
  split at h
  · next start => exact element_ofName start h
  · next not_start =>
    simp only [Bool.not_eq_true] at not_blank not_digit not_start
    have no_comment : ∀ d, rest.head? = some d → ¬ (c = '/' ∧ (d = '/' ∨ d = '*')) := by
      rintro d head ⟨slash, rfl | rfl⟩
      · exact no_line ⟨slash, head⟩
      · exact no_block ⟨slash, head⟩
    cases rest with
    | nil =>
      obtain ⟨piece, rfl⟩ := Prod.mk.inj h
      exact element_ofSingle not_blank not_quote not_digit not_start (by simp [StandsAlone]) piece
    | cons d more =>
      rw [ofMark] at h
      split at h
      · next written =>
        obtain ⟨piece, rfl⟩ := Prod.mk.inj h
        obtain ⟨rfl, rfl⟩ := token_eq_pieceOf.1 piece
        exact .pair written
      · next no_pair =>
        obtain ⟨piece, rfl⟩ := Prod.mk.inj h
        refine element_ofSingle not_blank not_quote not_digit not_start ?_ piece
        intro e head
        obtain rfl := Option.some.inj head
        exact ⟨no_pair, no_comment d rfl⟩

end Lexical.Grammar
