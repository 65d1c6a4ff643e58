import Lexical.Proofs.Placement
import Mathlib.Data.List.Basic

/-!
Texts without issues are the sentences of the lexical grammar.

* `Grammar.sentence_iff`: the elements of a sentence are its pieces, so a text is a sentence in at
  most one way.
* `exists_elements_of_issuesFrom_eq_nil`: pieces without issues are elements.
* `lex_eq_ok_iff_sentence`: **a text has tokens exactly when it is a sentence**; the tokens are
  those among its elements, in order and apart, and each stands in the text at its interval.
-/

namespace Lexical

open Grammar

namespace Grammar

/-! ### Elements and pieces -/

/-- The pieces that listed elements are. -/
def piecesOf (es : List (Option Token.Kind × Text)) : List Piece :=
  es.map fun e => pieceOf e.1 e.2

@[simp] lemma text_pieceOf (kind : Option Token.Kind) (text : Text) :
    (pieceOf kind text).text = text := by
  cases kind <;> rfl

lemma pieceOf_injective : Function.Injective fun e : Option Token.Kind × Text => pieceOf e.1 e.2 := by
  rintro ⟨_ | kind, text⟩ ⟨_ | kind', text'⟩ h <;> cases h <;> rfl

lemma piecesOf_injective : Function.Injective piecesOf :=
  List.map_injective_iff.2 pieceOf_injective

/-- A sentence is a sequence of standing pieces that makes up its text. -/
lemma sentence_iff_reading {es : List (Option Token.Kind × Text)} {source : Text} :
    Sentence es source ↔ Reading (piecesOf es) ∧ (piecesOf es).flatMap Piece.text = source := by
  constructor
  · intro h
    induction h with
    | nil => exact ⟨trivial, rfl⟩
    | @cons kind text rest es element _ ih =>
        obtain ⟨hr, rfl⟩ := ih
        refine ⟨⟨Piece.stands_pieceOf.2 element, hr⟩, ?_⟩
        rw [piecesOf, List.map_cons, List.flatMap_cons, text_pieceOf]
        rfl
  · rintro ⟨hr, rfl⟩
    induction es with
    | nil => exact .nil
    | cons e es ih =>
        obtain ⟨kind, text⟩ := e
        rw [piecesOf, List.map_cons, List.flatMap_cons, text_pieceOf]
        exact .cons (Piece.stands_pieceOf.1 hr.1) (ih hr.2)

/-- **The elements of a sentence are its pieces.** -/
theorem sentence_iff {es : List (Option Token.Kind × Text)} {source : Text} :
    Sentence es source ↔ pieces source = piecesOf es := by
  rw [sentence_iff_reading, pieces_eq_iff]

/-! ### Elements and findings -/

/-- Elements have no issues, and their tokens are those listed. -/
lemma findingsFrom_piecesOf (position : Nat) (es : List (Option Token.Kind × Text)) :
    findingsFrom position (piecesOf es) = (tokensFrom position es).map .token := by
  induction es generalizing position with
  | nil => rfl
  | cons e es ih =>
      obtain ⟨kind, text⟩ := e
      cases kind with
      | none =>
          rw [tokensFrom, ← ih]
          rfl
      | some kind =>
          rw [tokensFrom, List.map_cons, ← ih]
          rfl

end Grammar

/-- Pieces without issues are elements. -/
lemma exists_elements_of_issuesFrom_eq_nil {position : Nat} {ps : List Piece}
    (h : issuesFrom position ps = []) : ∃ es, ps = piecesOf es := by
  induction ps generalizing position with
  | nil => exact ⟨[], rfl⟩
  | cons p ps ih =>
      cases p with
      | trivia text =>
          obtain ⟨es, rfl⟩ := ih h
          exact ⟨(none, text) :: es, rfl⟩
      | token kind text =>
          obtain ⟨es, rfl⟩ := ih h
          exact ⟨(some kind, text) :: es, rfl⟩
      | fault kind lead covered skipped => cases h

/-- The outcome of a sentence: no issues, and the tokens among its elements. -/
lemma Grammar.Sentence.outcome {es : List (Option Token.Kind × Text)} {source : Text}
    (h : Sentence es source) : issues source = [] ∧ tokens source = tokensFrom 0 es := by
  have hf : findings source = (tokensFrom 0 es).map .token := by
    rw [findings, sentence_iff.1 h, findingsFrom_piecesOf]
  constructor
  · rw [issues, hf, List.filterMap_map]
    exact List.filterMap_eq_nil_iff.2 fun _ _ => rfl
  · rw [tokens, hf, List.filterMap_map]
    exact List.filterMap_some

/-- **A text has tokens exactly when it is a sentence of the lexical grammar**, which it is in one
way at most. The tokens are those among its elements; they are in order and apart, and each stands
in the text at its interval. -/
theorem lex_eq_ok_iff_sentence (source : Text) (ts : List Token) :
    (lex source = .ok ts ↔ ∃ es, Sentence es source ∧ tokensFrom 0 es = ts) ∧
      (∀ es es', Sentence es source → Sentence es' source → es = es') ∧
      (lex source = .ok ts →
        ts.Pairwise (fun t u => t.interval.last < u.interval.first) ∧
          ∀ t ∈ ts, t.interval.lookup source = t.raw) := by
  refine ⟨⟨?_, ?_⟩, ?_, ?_⟩
  · intro h
    obtain ⟨hi, ht⟩ := lex_eq_ok_iff.1 h
    obtain ⟨es, hes⟩ := exists_elements_of_issuesFrom_eq_nil ((issues_eq source).symm.trans hi)
    have hs := sentence_iff.2 hes
    exact ⟨es, hs, hs.outcome.2.symm.trans ht⟩
  · rintro ⟨es, hs, rfl⟩
    exact lex_eq_ok_iff.2 hs.outcome
  · intro es es' hs hs'
    exact piecesOf_injective ((sentence_iff.1 hs).symm.trans (sentence_iff.1 hs'))
  · intro h
    obtain ⟨-, rfl⟩ := lex_eq_ok_iff.1 h
    exact ⟨tokens_pairwise source, fun t => lookup_of_mem_tokens⟩

end Lexical
