import Lexical.Proofs.Pass.Run
import Mathlib.Algebra.Group.Nat.Defs

/-!
A pass goes on without a breach until its text has been read.

* `Pass.Advances`: what a round may do: the cursor moves forward, and at most one finding is
  recorded, which lies on the characters that the round has passed.
* `length_tokens_add_length_issues_le`: there are no more findings than characters.
* `Pass.progress`: **every round that begins before the end advances without a breach, and the pass
  ends after at most as many rounds as there are characters.**
-/

namespace Lexical

/-! ### Counting findings -/

/-- A finding is a token or an issue, and not both. -/
lemma length_filterMap_findings (fs : List Finding) :
    (fs.filterMap Finding.token?).length + (fs.filterMap Finding.issue?).length = fs.length := by
  induction fs with
  | nil => rfl
  | cons f fs ih =>
      rw [List.length_cons, ← ih]
      cases f with
      | token t =>
          simp only [List.filterMap_cons, Finding.token?, Finding.issue?, List.length_cons]
          omega
      | issue i skipped =>
          simp only [List.filterMap_cons, Finding.token?, Finding.issue?, List.length_cons]
          omega

/-- A piece means one thing at most. -/
lemma length_findingsFrom_le (position : Nat) (ps : List Piece) :
    (findingsFrom position ps).length ≤ ps.length := by
  induction ps generalizing position with
  | nil => exact Nat.le_refl 0
  | cons p ps ih =>
      have hone : (p.finding? position).toList.length ≤ 1 := by
        cases p.finding? position <;> simp
      have hrest := ih (position + p.text.length)
      rw [findingsFrom, List.length_append, List.length_cons]
      omega

/-- There are no more findings in a text than characters. -/
theorem length_tokens_add_length_issues_le (source : Text) :
    (tokens source).length + (issues source).length ≤ source.length := by
  have hfew := Pass.length_le_of_reading (reading_pieces source)
  rw [pieces_flatMap_text] at hfew
  have hone := length_findingsFrom_le 0 (pieces source)
  rw [tokens, issues, length_filterMap_findings, findings]
  omega

namespace Pass

/-! ### What a round may do -/

/-- An interval lies on the characters that are passed between two states. -/
def Passed (p q : Pass) (i : Interval) : Prop :=
  p.position ≤ i.first ∧ i.first ≤ i.last ∧ i.last < q.position

/-- The cursor moves forward, and at most one finding is recorded, a token or an issue, on the
characters it has passed. -/
structure Advances (p q : Pass) : Prop where
  moves : p.position < q.position
  records : (q.tokens = p.tokens ∧ q.issues = p.issues) ∨
    (∃ t, q.tokens = p.tokens ++ [t] ∧ q.issues = p.issues ∧ Passed p q t.interval) ∨
    ∃ i, q.tokens = p.tokens ∧ q.issues = p.issues ++ [i] ∧ Passed p q i.interval

/-- To read a piece is to advance. -/
lemma advances_between {ps qs : List Piece} {p : Piece} (h : Reading (p :: qs)) :
    Advances (between ps (p :: qs)) (between (ps ++ [p]) qs) := by
  have hend : (between (ps ++ [p]) qs).position =
      (ps.flatMap Piece.text).length + p.text.length := by
    rw [position_between, List.flatMap_append, List.length_append, List.flatMap_singleton]
  have hpassed : ∀ f, p.finding? (ps.flatMap Piece.text).length = some f →
      Passed (between ps (p :: qs)) (between (ps ++ [p]) qs) f.interval := by
    intro f hf
    obtain ⟨hfirst, hlast⟩ := h.1.finding_within hf
    rw [Passed, hend, position_between]
    exact ⟨hfirst, f.interval.first_le_last, hlast⟩
  refine ⟨?_, ?_⟩
  · have hpos := List.length_pos_iff.2 h.1.text_ne_nil
    rw [hend, position_between]
    omega
  · simp only [between, findingsFrom_snoc, List.filterMap_append]
    cases hf : p.finding? (ps.flatMap Piece.text).length with
    | none => exact .inl ⟨List.append_nil _, List.append_nil _⟩
    | some f =>
        have hi := hpassed f hf
        cases f with
        | token t => exact .inr (.inl ⟨t, rfl, List.append_nil _, hi⟩)
        | issue i skipped => exact .inr (.inr ⟨i, List.append_nil _, rfl, hi⟩)

/-! ### The whole pass -/

/-- **A pass never breaks off, and it always makes progress.** Let the text have fewer than `2 ^ 63`
characters and let words hold the numbers below `2 ^ 64`. Every round that begins before the end
succeeds, which means that no number leaves its range, no slice and no interval reaches past the
text or is reversed, and no comment is closed that is not open. The round moves the cursor forward,
not past the end, and records at most one finding. So the loop is never stuck: after at most as many
rounds as there are characters it stands at the end, with the outcome of the text and no more
findings than characters. -/
theorem progress {source : Text} (h : source.length < 2 ^ 63) :
    (∀ p, Reachable (2 ^ 64) source p → p.position < source.length →
      ∃ q, step (2 ^ 64) p = .ok q ∧ Advances p q ∧ q.position ≤ source.length) ∧
    (∀ n, ∃ q, rounds (2 ^ 64) n (start source) = .ok q) ∧
    ∃ q, (∀ n ≥ source.length, rounds (2 ^ 64) n (start source) = .ok q) ∧ q.atEnd ∧
      q.position = source.length ∧ q.tokens.length + q.issues.length ≤ source.length ∧
      q.outcome = lex source := by
  have hl : source.length + 1 < 2 ^ 64 := by omega
  refine ⟨?_, ?_, ?_⟩
  · intro p hp hmore
    obtain ⟨ps, qs, rfl, hsplit⟩ := hp.exists_between hl
    have hall : ((ps ++ qs).flatMap Piece.text).length = source.length := by
      rw [hsplit, pieces_flatMap_text]
    cases qs with
    | nil =>
        -- no piece is left, so the pass stands at the end
        rw [List.append_nil] at hall
        rw [position_between, hall] at hmore
        exact absurd hmore (Nat.lt_irrefl _)
    | cons r qs =>
        have hr : Reading (r :: qs) := (hsplit ▸ reading_pieces source).right
        refine ⟨_, step_between hr (by rwa [hall]), advances_between hr, ?_⟩
        rw [List.append_cons, List.flatMap_append, List.length_append] at hall
        rw [position_between]
        omega
  · intro n
    rw [start_eq]
    exact ⟨_, rounds_between (reading_pieces source)
      (by rwa [List.nil_append, pieces_flatMap_text]) n⟩
  · refine ⟨between (pieces source) [], fun n hn => rounds_start hl hn, atEnd_between_nil _, ?_, ?_,
      outcome_between source⟩
    · rw [position_between, pieces_flatMap_text]
    · exact length_tokens_add_length_issues_le source

/-- The first round over a text advances, and the second round is the last one. -/
theorem progress_of_two :
    (∃ q, step (2 ^ 64) (start "0xg\"".toList) = .ok q ∧ Advances (start "0xg\"".toList) q ∧
      q.position ≤ 4) ∧
    ∃ q, rounds (2 ^ 64) 4 (start "0xg\"".toList) = .ok q ∧ q.position = 4 := by
  have h : "0xg\"".toList.length < 2 ^ 63 := by decide
  obtain ⟨hstep, -, q, hq, -, hend, -⟩ := progress h
  exact ⟨hstep _ .start (by decide), q, hq 4 (by decide), hend⟩

end Pass

end Lexical
