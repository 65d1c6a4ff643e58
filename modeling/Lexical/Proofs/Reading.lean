import Lexical.Finding
import Lexical.Proofs.Lookahead

/-!
A text is read piece by piece.

* `Piece.Stands`: a piece stands before a text, as an element of the grammar or as a fault.
* `Piece.read_eq_iff`: reading yields exactly the piece that stands there.
* `Reading`: pieces each of which stands before the text of those after it.
* `pieces_eq_iff`: **the pieces of a text are the one such sequence that makes it up.**
* `Reading.left`, `Reading.right`, `Reading.append`: such sequences can be cut anywhere, and joined
  where the end of the first does not see the second.
-/

namespace Lexical

open Character Grammar

namespace Piece

/-! ### One piece -/

/-- A piece stands before `rest` when it is an element or a fault in view of `rest`. -/
def Stands : Piece → Text → Prop
  | trivia text, rest => Element none text rest
  | token kind text, rest => Element (some kind) text rest
  | fault kind lead covered skipped, rest => Fault kind lead covered skipped rest

lemma stands_pieceOf {kind : Option Token.Kind} {text rest : Text} :
    (pieceOf kind text).Stands rest ↔ Element kind text rest := by
  cases kind <;> rfl

/-- A piece that stands before a text is read there. -/
lemma Stands.read {p : Piece} {rest : Text} (h : p.Stands rest) :
    ∃ c after, p.text ++ rest = c :: after ∧ Piece.read c after = (p, rest) := by
  cases p with
  | trivia text => exact Element.read h
  | token kind text => exact Element.read h
  | fault kind lead covered skipped => exact Fault.read h

lemma stands_of_read {p : Piece} {c : Char} {source rest : Text}
    (h : Piece.read c source = (p, rest)) : p.Stands rest := by
  cases p with
  | trivia text => exact element_of_read h
  | token kind text => exact element_of_read h
  | fault kind lead covered skipped => exact fault_of_read h

/-- **Reading yields exactly the piece that stands at the head of the text.** -/
theorem read_eq_iff {p : Piece} {c : Char} {source rest : Text} :
    Piece.read c source = (p, rest) ↔ p.Stands rest ∧ p.text ++ rest = c :: source := by
  constructor
  · intro h
    have ht := heads_read c source
    rw [h] at ht
    exact ⟨stands_of_read h, ht⟩
  · rintro ⟨hs, ht⟩
    obtain ⟨d, after, heq, hread⟩ := hs.read
    obtain ⟨rfl, rfl⟩ := List.cons.inj (ht.symm.trans heq)
    exact hread

/-- A piece that stands anywhere has at least one character. -/
lemma Stands.text_ne_nil {p : Piece} {rest : Text} (h : p.Stands rest) : p.text ≠ [] := by
  obtain ⟨c, after, -, hread⟩ := h.read
  have hne := text_read_ne_nil c after
  rwa [hread] at hne

/-- Of what follows a piece only the first character matters, and only while there is one. -/
lemma Stands.of_head {p : Piece} {rest rest' : Text}
    (hh : ∀ c, rest'.head? = some c → rest.head? = some c) (h : p.Stands rest) :
    p.Stands rest' := by
  cases p with
  | trivia text => exact Element.of_head hh h
  | token kind text => exact Element.of_head hh h
  | fault kind lead covered skipped => exact Fault.of_head hh h

/-- A piece that only the end of its text leaves unclosed. -/
def Unclosed : Piece → Prop
  | trivia _ => False
  | token _ _ => False
  | fault kind _ _ _ => kind.Unclosed

/-- A piece at the end of a text stands before a line feed as well, unless it is unclosed. -/
lemma Stands.before_lineFeed {p : Piece} (hu : ¬ p.Unclosed) (rest : Text) (h : p.Stands []) :
    p.Stands ('\n' :: rest) := by
  cases p with
  | trivia text => exact Element.before_blank rfl (fun _ => rfl) rest h
  | token kind text => exact Element.before_blank rfl (fun _ => rfl) rest h
  | fault kind lead covered skipped => exact Fault.before_blank rfl hu rest h

end Piece

/-! ### Sequences of pieces -/

/-- Pieces each of which stands before the text of those after it. -/
def Reading : List Piece → Prop
  | [] => True
  | p :: ps => p.Stands (ps.flatMap Piece.text) ∧ Reading ps

lemma reading_cons {p : Piece} {ps : List Piece} :
    Reading (p :: ps) ↔ p.Stands (ps.flatMap Piece.text) ∧ Reading ps :=
  Iff.rfl

lemma reading_pieces (source : Text) : Reading (pieces source) := by
  fun_induction pieces source with
  | case1 => trivial
  | case2 c rest head ih =>
      refine ⟨?_, ih⟩
      rw [pieces_flatMap_text]
      exact Piece.stands_of_read rfl

/-- **The pieces of a text are the one sequence of standing pieces that makes it up.** -/
theorem pieces_eq_iff {source : Text} {ps : List Piece} :
    pieces source = ps ↔ Reading ps ∧ ps.flatMap Piece.text = source := by
  constructor
  · rintro rfl
    exact ⟨reading_pieces source, pieces_flatMap_text source⟩
  · rintro ⟨hr, rfl⟩
    induction ps with
    | nil => exact pieces_nil
    | cons p ps ih =>
        obtain ⟨c, after, heq, hread⟩ := hr.1.read
        rw [List.flatMap_cons, heq, pieces_cons, hread]
        exact congrArg (p :: ·) (ih hr.2)

lemma Reading.pieces_flatMap {ps : List Piece} (h : Reading ps) :
    pieces (ps.flatMap Piece.text) = ps :=
  pieces_eq_iff.2 ⟨h, rfl⟩

/-! ### Cutting and joining -/

/-- The last pieces of a sequence do not depend on those before them. -/
lemma Reading.right {ps qs : List Piece} (h : Reading (ps ++ qs)) : Reading qs := by
  induction ps with
  | nil => exact h
  | cons p ps ih =>
      rw [List.cons_append, reading_cons] at h
      exact ih h.2

/-- The first pieces of a sequence stand without those after them. -/
lemma Reading.left {ps qs : List Piece} (h : Reading (ps ++ qs)) : Reading ps := by
  induction ps with
  | nil => trivial
  | cons p ps ih =>
      rw [List.cons_append, reading_cons, List.flatMap_append] at h
      refine ⟨h.1.of_head fun c hc => ?_, ih h.2⟩
      rw [List.head?_append, hc]
      rfl

/-- Two sequences can be joined when what stands at the end of the first does not mind the
second. -/
lemma Reading.append {ps qs : List Piece} (hp : Reading ps) (hq : Reading qs)
    (hj : ∀ p ∈ ps, p.Stands [] → p.Stands (qs.flatMap Piece.text)) : Reading (ps ++ qs) := by
  induction ps with
  | nil => exact hq
  | cons p ps ih =>
      rw [List.cons_append, reading_cons, List.flatMap_append]
      refine ⟨?_, ih hp.2 fun p' hp' => hj p' (List.mem_cons_of_mem p hp')⟩
      cases hrest : ps.flatMap Piece.text with
      | nil => exact hj p (List.mem_cons_self ..) (hrest ▸ hp.1)
      | cons d more =>
          refine hp.1.of_head fun c hc => ?_
          rw [hrest]
          exact hc

end Lexical
