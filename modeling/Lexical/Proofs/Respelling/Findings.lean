import Lexical.Proofs.Placement
import Lexical.Proofs.Respelling.Reading

/-!
The findings of respelled texts.

* `Respelling.pieces_text`: the pieces of a respelled text are what becomes of the pieces of the
  text, less the carriage returns that are dropped.
* `Respelling.interval`: what becomes of an interval: it covers the respelled characters, behind the
  respelled text before them.
* `Respelling.tokens_text`, `Respelling.issues_text`: so tokens and issues stay, one by one.
-/

namespace Lexical.Respelling

open Character Grammar

variable {r : Respelling}

/-! ### Pieces -/

/-- Nothing becomes of a piece, as it consists of a carriage return that is dropped. -/
def drops (r : Respelling) (p : Piece) : Bool := (r.text p.text).isEmpty

/-- What is dropped is trivia. -/
lemma eq_trivia_of_drops {p : Piece} {rest : Text} (hs : p.Stands rest) (hd : r.drops p = true) :
    p = .trivia ['\r'] := by
  obtain ⟨c, after, htext, hread⟩ := hs.read
  cases ht : p.text with
  | nil => exact absurd ht hs.text_ne_nil
  | cons e more =>
      rw [ht, List.cons_append] at htext
      obtain ⟨rfl, -⟩ := List.cons.inj htext
      rw [drops, ht, List.isEmpty_iff] at hd
      rcases r.spell_cases e with ⟨d, hspell, -⟩ | ⟨-, rfl⟩
      · rw [text_cons hspell] at hd
        cases hd
      · exact (congrArg Prod.fst hread).symm

lemma drops_eq_false {p : Piece} {c d : Char} {more : Text} (ht : p.text = c :: more)
    (hc : r.spell c = some d) : r.drops p = false := by
  rw [drops, ht, text_cons hc]
  rfl

/-- **The pieces of a respelled text** are what becomes of the pieces of the text. -/
theorem pieces_text {source : Text} (h : r.Fits source) :
    pieces (r.text source) = ((pieces source).filter (!r.drops ·)).map r.piece := by
  fun_induction pieces source with
  | case1 => exact pieces_nil
  | case2 c rest head ih =>
      have hhead := Piece.heads_read c rest
      have hne := Piece.text_read_ne_nil c rest
      have hfits : r.Fits head.2 := by
        rw [← hhead] at h
        exact h.right
      obtain ⟨e, more, ht⟩ := List.exists_cons_of_ne_nil hne
      obtain rfl : e = c := by
        rw [Piece.Heads, ht, List.cons_append] at hhead
        exact (List.cons.inj hhead).1
      cases hc : r.spell e with
      | some d =>
          rw [text_cons hc, pieces_cons, read_text hc h, List.filter_cons_of_pos, List.map_cons]
          · exact congrArg (r.piece head.1 :: ·) (ih hfits)
          · rw [drops_eq_false ht hc]
            rfl
      | none =>
          obtain ⟨rfl, -⟩ := h.of_spell_eq_none hc
          have hdrop : r.drops head.1 = true := by
            show (r.text ['\r']).isEmpty = true
            rw [text_cons_none hc, text_nil]
            rfl
          rw [text_cons_none hc, List.filter_cons_of_neg (by simp [hdrop])]
          exact ih hfits

/-! ### Findings -/

/-- What becomes of an interval of a text: it covers what becomes of its characters, and begins
behind what becomes of the text before it. -/
def interval (r : Respelling) (source : Text) (i : Interval) : Interval :=
  .ofLength (r.text (source.take i.first)).length (r.text (i.lookup source)).length

/-- What becomes of a token of a text. -/
def token (r : Respelling) (source : Text) (t : Token) : Token :=
  ⟨t.kind.map r.text, r.text t.raw, r.interval source t.interval⟩

/-- What becomes of an issue of a text. -/
def issue (r : Respelling) (source : Text) (i : Issue) : Issue :=
  ⟨i.kind, r.interval source i.interval⟩

/-- What becomes of a finding of a text. -/
def finding (r : Respelling) (source : Text) : Finding → Finding
  | .token t => .token (r.token source t)
  | .issue i skipped => .issue (r.issue source i) (r.text skipped)

lemma interval_ofLength (before : Text) {covered : Text} (rest : Text) (h : covered ≠ []) :
    r.interval (before ++ (covered ++ rest)) (.ofLength before.length covered.length) =
      .ofLength (r.text before).length (r.text covered).length := by
  rw [interval, Interval.lookup_ofLength before covered rest h, Interval.first_ofLength,
    List.take_left]

/-- The finding of a piece. -/
lemma finding?_piece {p : Piece} {rest : Text} (h : p.Stands rest) (before : Text) :
    (r.piece p).finding? (r.text before).length =
      (p.finding? before.length).map (r.finding (before ++ (p.text ++ rest))) := by
  cases p with
  | trivia text => rfl
  | token kind text =>
      have hne : text ≠ [] := h.text_ne_nil
      rw [piece, Piece.finding?, Piece.finding?, Option.map_some, finding, token, Piece.text,
        interval_ofLength before rest hne]
  | fault kind lead covered skipped =>
      have hassoc : before ++ (lead ++ covered ++ skipped ++ rest) =
          (before ++ lead) ++ (covered ++ (skipped ++ rest)) := by
        simp only [List.append_assoc]
      rw [piece, Piece.finding?, Piece.finding?, Option.map_some, finding, issue, Piece.text, hassoc,
        ← List.length_append, ← List.length_append, ← text_append,
        interval_ofLength (before ++ lead) _ (Fault.covered_ne_nil h)]

lemma findingsFrom_text {ps : List Piece} (h : Reading ps) (before : Text) :
    findingsFrom (r.text before).length ((ps.filter (!r.drops ·)).map r.piece) =
      (findingsFrom before.length ps).map (r.finding (before ++ ps.flatMap Piece.text)) := by
  induction ps generalizing before with
  | nil => rfl
  | cons p ps ih =>
      have hrest := ih h.2 (before ++ p.text)
      rw [text_append, List.length_append, List.length_append, List.append_assoc] at hrest
      rw [List.flatMap_cons, findingsFrom, List.map_append, ← hrest]
      cases hd : r.drops p with
      | true =>
          obtain rfl := eq_trivia_of_drops h.1 hd
          rw [drops, List.isEmpty_iff] at hd
          rw [List.filter_cons_of_neg (by simp [drops, hd]), hd]
          rfl
      | false =>
          rw [List.filter_cons_of_pos (by rw [hd]; rfl), List.map_cons, findingsFrom, text_piece,
            finding?_piece h.1]
          cases p.finding? before.length <;> rfl

/-- **The findings of a respelled text** are what becomes of the findings of the text. -/
theorem findings_text {source : Text} (h : r.Fits source) :
    findings (r.text source) = (findings source).map (r.finding source) := by
  have hf := findingsFrom_text (r := r) (reading_pieces source) []
  rwa [List.nil_append, pieces_flatMap_text, ← pieces_text h] at hf

lemma tokens_text {source : Text} (h : r.Fits source) :
    tokens (r.text source) = (tokens source).map (r.token source) := by
  rw [tokens, findings_text h, List.filterMap_map, tokens, List.map_filterMap]
  congr 1
  funext f
  cases f <;> rfl

lemma issues_text {source : Text} (h : r.Fits source) :
    issues (r.text source) = (issues source).map (r.issue source) := by
  rw [issues, findings_text h, List.filterMap_map, issues, List.map_filterMap]
  congr 1
  funext f
  cases f <;> rfl

end Lexical.Respelling
