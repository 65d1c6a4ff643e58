import Lexical.Pass.Step
import Lexical.Proofs.Pass.Agreement
import Lexical.Proofs.Recovery

/-!
A pass goes over a text piece by piece.

* `Pass.between`: the state of a pass that has read some pieces and has others still to read.
* `Pass.step_between`: **a round reads the next piece, without a breach.**
* `Pass.rounds_between`: so do many rounds, until no piece is left.
* `Pass.Reachable`: the states in which a pass over a text can be; each of them stands between two
  pieces (`Pass.Reachable.exists_between`).
-/

namespace Lexical.Pass

open Character Checked Piece

variable {limit : Nat}

/-! ### Between two pieces -/

/-- The state of a pass that has read the pieces `ps` and has the pieces `qs` still to read. -/
def between (ps qs : List Piece) : Pass where
  cursor := .between (ps.flatMap Piece.text) (qs.flatMap Piece.text)
  tokens := (findingsFrom 0 ps).filterMap Finding.token?
  issues := (findingsFrom 0 ps).filterMap Finding.issue?
  events := (findingsFrom 0 ps).flatMap Log.ofFinding

lemma start_eq (source : Text) : start source = between [] (pieces source) := by
  rw [between, pieces_flatMap_text]
  rfl

@[simp] lemma position_between (ps qs : List Piece) :
    (between ps qs).position = (ps.flatMap Piece.text).length :=
  Cursor.position_between _ _

lemma atEnd_between_nil (ps : List Piece) : (between ps []).atEnd := rfl

lemma not_atEnd_between_cons {ps qs : List Piece} {p : Piece} (h : Reading (p :: qs)) :
    ¬ (between ps (p :: qs)).atEnd := by
  obtain ⟨c, after, heq, -⟩ := h.1.read
  intro hend
  rw [atEnd, Cursor.current?, between, Cursor.between, List.flatMap_cons, heq] at hend
  cases hend

lemma findingsFrom_snoc (ps : List Piece) (p : Piece) :
    findingsFrom 0 (ps ++ [p]) =
      findingsFrom 0 ps ++ (p.finding? (ps.flatMap Piece.text).length).toList := by
  rw [findingsFrom_append, Nat.zero_add, findingsFrom, findingsFrom, List.append_nil]

/-! ### One round -/

lemma ofFinding_issue (i : Issue) (skipped : Text) :
    Log.ofFinding (.issue i skipped) =
      .issue i :: if skipped = [] then [] else [.skipped skipped (i.interval.last + 1)] := by
  cases skipped <;> rfl

/-- Recovery skips what it passes over and leaves the boundary. -/
lemma recover_eq {s : Pass} {before skipped rest : Text} (hr : Grammar.Recovers skipped rest)
    (hs : s.cursor = .between before (skipped ++ rest))
    (hl : before.length + (skipped ++ rest).length < limit) :
    recover limit s = .ok { s with
      cursor := .between (before ++ skipped) rest
      events := s.events ++ if skipped = [] then [] else [.skipped skipped before.length] } := by
  have hw : ∀ c ∈ skipped, (!isBoundary c) = true := by
    intro c hc
    rw [hr.within c hc]
    rfl
  rw [recover, hs, Cursor.run_between _ hl, ok_bind, position, hs, Cursor.position_between,
    Grammar.Stops.takeWhile_append hw hr.stops, Grammar.Stops.dropWhile_append hw hr.stops]
  dsimp only
  split
  · next hn =>
    subst hn
    rw [List.append_nil, List.append_nil]
    rfl
  · rfl

/-- What has been told is recorded, with its events, and the cursor leaves the piece. -/
lemma record_eq {ps qs : List Piece} {p : Piece} (h : p.Stands (qs.flatMap Piece.text))
    (hl : ((ps ++ p :: qs).flatMap Piece.text).length < limit) :
    record limit (between ps (p :: qs))
        (telling (ps.flatMap Piece.text) (p, qs.flatMap Piece.text)) =
      .ok (between (ps ++ [p]) qs) := by
  rw [between, between, findingsFrom_snoc, List.flatMap_append, List.filterMap_append,
    List.filterMap_append, List.flatMap_append, List.flatMap_singleton]
  cases p with
  | trivia text =>
      simp only [finding?, Option.toList_none, List.filterMap_nil, List.flatMap_nil,
        List.append_nil]
      rfl
  | token kind text =>
      simp only [finding?, Option.toList_some, List.flatMap_singleton, Log.ofFinding,
        List.append_nil, List.filterMap_cons, Finding.token?, Finding.issue?, List.filterMap_nil]
      rfl
  | fault kind lead covered skipped =>
      have hr := Grammar.Fault.recovers h
      have hpos := List.length_pos_iff.2 (Grammar.Fault.covered_ne_nil h)
      have hplace : (ps.flatMap Piece.text ++ (lead ++ covered)).length =
          (Interval.ofLength ((ps.flatMap Piece.text).length + lead.length)
            covered.length).last + 1 := by
        simp only [List.length_append, Interval.last_ofLength]
        omega
      simp only [List.flatMap_append, List.flatMap_cons, List.length_append, Piece.text] at hl
      simp only [telling, verdict, told, Pass.skipped, record, finding?, Option.toList_some,
        List.flatMap_singleton, ofFinding_issue]
      rw [recover_eq hr rfl (by simp only [List.length_append]; omega), hplace]
      simp [Finding.issue?, Finding.token?, Piece.text]

/-- **A round reads the next piece, without a breach.** -/
theorem step_between {ps qs : List Piece} {p : Piece} (h : Reading (p :: qs))
    (hl : ((ps ++ p :: qs).flatMap Piece.text).length + 1 < limit) :
    step limit (between ps (p :: qs)) = .ok (between (ps ++ [p]) qs) := by
  obtain ⟨c, after, heq, hread⟩ := h.1.read
  have htold : classify limit (between ps (p :: qs)).cursor =
      .ok (telling (ps.flatMap Piece.text) (p, qs.flatMap Piece.text)) := by
    rw [List.flatMap_append, List.length_append, List.flatMap_cons, heq] at hl
    rw [between, List.flatMap_cons, heq, classify_eq c hl, hread]
  rw [step, htold, ok_bind]
  exact record_eq h.1 (by omega)

/-! ### Many rounds -/

/-- The rounds read piece by piece, until no piece is left. -/
theorem rounds_between {ps qs : List Piece} (h : Reading qs)
    (hl : ((ps ++ qs).flatMap Piece.text).length + 1 < limit) (n : Nat) :
    rounds limit n (between ps qs) = .ok (between (ps ++ qs.take n) (qs.drop n)) := by
  induction n generalizing ps qs with
  | zero =>
      rw [List.take_zero, List.append_nil]
      rfl
  | succ n ih =>
      cases qs with
      | nil =>
          rw [rounds, if_pos (atEnd_between_nil ps), List.take_nil, List.append_nil]
          rfl
      | cons p qs =>
          have hmoves : (between ps (p :: qs)).position < (between (ps ++ [p]) qs).position := by
            have hpos := List.length_pos_iff.2 h.1.text_ne_nil
            simp only [position_between, List.flatMap_append, List.length_append,
              List.flatMap_singleton]
            omega
          have hsplit : ps ++ p :: qs = ps ++ [p] ++ qs := by simp
          rw [rounds, if_neg (not_atEnd_between_cons h), step_between h hl, ok_bind, if_pos hmoves,
            ih h.2 (hsplit ▸ hl), List.take_succ_cons, List.drop_succ_cons]
          simp

/-! ### Reachable states -/

/-- The states in which a pass over a text can be between its rounds. -/
inductive Reachable (limit : Nat) (source : Text) : Pass → Prop
  | start : Reachable limit source (start source)
  | round {p q : Pass} (reached : Reachable limit source p) (more : ¬ p.atEnd)
      (stepped : step limit p = .ok q) : Reachable limit source q

/-- **A pass stands between two pieces of its text whenever a round is over.** -/
theorem Reachable.exists_between {source : Text} {p : Pass} (h : Reachable limit source p)
    (hl : source.length + 1 < limit) : ∃ ps qs, p = between ps qs ∧ ps ++ qs = pieces source := by
  induction h with
  | start => exact ⟨[], pieces source, start_eq source, rfl⟩
  | @round p q _ more stepped ih =>
      obtain ⟨ps, qs, rfl, hsplit⟩ := ih
      cases qs with
      | nil => exact absurd (atEnd_between_nil ps) more
      | cons r qs =>
          have hr : Reading (r :: qs) := (hsplit ▸ reading_pieces source).right
          have hroom : ((ps ++ r :: qs).flatMap Piece.text).length + 1 < limit := by
            rwa [hsplit, pieces_flatMap_text]
          rw [step_between hr hroom] at stepped
          exact ⟨ps ++ [r], qs, (Except.ok.inj stepped).symm, by simpa using hsplit⟩

/-! ### The end of a pass -/

/-- Every piece has a character, so there are no more pieces than characters. -/
lemma length_le_of_reading {ps : List Piece} (h : Reading ps) :
    ps.length ≤ (ps.flatMap Piece.text).length := by
  induction ps with
  | nil => exact Nat.le_refl 0
  | cons p ps ih =>
      have hpos := List.length_pos_iff.2 h.1.text_ne_nil
      have hrest := ih h.2
      rw [List.length_cons, List.flatMap_cons, List.length_append]
      omega

/-- As many rounds as there are characters read the whole text. -/
theorem rounds_start {source : Text} (hl : source.length + 1 < limit) {n : Nat}
    (hn : source.length ≤ n) :
    rounds limit n (start source) = .ok (between (pieces source) []) := by
  have hfew := length_le_of_reading (reading_pieces source)
  rw [pieces_flatMap_text] at hfew
  have hroom : (([] ++ pieces source).flatMap Piece.text).length + 1 < limit := by
    rwa [List.nil_append, pieces_flatMap_text]
  rw [start_eq, rounds_between (reading_pieces source) hroom,
    List.take_of_length_le (by omega), List.drop_of_length_le (by omega), List.nil_append]

/-- A pass that has read all pieces has found what the text amounts to. -/
lemma outcome_between (source : Text) : (between (pieces source) []).outcome = lex source := rfl

/-- A pass that has read all pieces has logged the events of the text. -/
lemma log_between (source : Text) : (between (pieces source) []).log = Log.events source := by
  rw [log, position_between, pieces_flatMap_text]
  rfl

end Lexical.Pass
