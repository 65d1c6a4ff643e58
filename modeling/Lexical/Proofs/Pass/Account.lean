import Lexical.Proofs.Pass.Progress

/-!
The log of a pass is an account of it.

* `Log.Stretch`: the longest part of a text without a boundary that begins at an offset.
* `Log.Account`: records that tell of issues, one after the other, each followed by what recovery
  skips after it.
* `Log.account_of_reading`: the records of pieces tell of the issues of the pieces.
* `Log.account`: **the records of a text tell of its issues in order, and then of the numbers of
  characters, tokens and issues.** They are what a pass over the text logs.
-/

namespace Lexical.Log

open Character Grammar

/-! ### What recovery skips -/

/-- The longest part of a text without a boundary that begins at an offset. -/
structure Stretch (source : Text) (first : Nat) (text : Text) : Prop where
  stands : text <+: source.drop first
  within : ∀ c ∈ text, isBoundary c = false
  longest : ∀ other, other <+: source.drop first → (∀ c ∈ other, isBoundary c = false) →
    other.length ≤ text.length

/-- What recovery passes over is such a part. -/
lemma stretch_of_recovers {skipped rest : Text} (h : Recovers skipped rest) (before : Text) :
    Stretch (before ++ (skipped ++ rest)) before.length skipped := by
  refine ⟨?_, h.within, ?_⟩
  · rw [List.drop_left]
    exact List.prefix_append _ _
  · intro other hother hw
    rw [List.drop_left] at hother
    by_contra hlong
    -- the character after what is skipped is a boundary, and a longer part would contain it
    obtain ⟨more, rfl⟩ := List.prefix_of_prefix_length_le (List.prefix_append skipped rest) hother
      (by omega)
    cases more with
    | nil => exact hlong (by rw [List.append_nil])
    | cons c more =>
        obtain ⟨later, rfl⟩ := (List.prefix_append_right_inj skipped).1 hother
        have hno := hw c (List.mem_append_right _ (List.mem_cons_self ..))
        have hstop := stops_cons.1 h.stops
        rw [hno] at hstop
        cases hstop

/-! ### Accounts -/

/-- Records that tell of issues, one after the other. An issue after which there is a character that
is no boundary is followed by a record of the stretch that begins there, and no other issue is. -/
inductive Account (source : Text) : List Issue → List Record → Prop
  | nil : Account source [] []
  | plain {i : Issue} {is : List Issue} {rs : List Record}
      (ended : ∀ c, source[i.interval.last + 1]? = some c → isBoundary c = true)
      (rest : Account source is rs) :
      Account source (i :: is)
        (⟨.trace, "Issue at ".toList ++ Text.decimal i.interval.first ++ "..=".toList ++
          Text.decimal i.interval.last ++ ": ".toList ++ i.message⟩ :: rs)
  | skipping {i : Issue} {is : List Issue} {rs : List Record} {c : Char} {text : Text}
      (next : source[i.interval.last + 1]? = some c) (inner : isBoundary c = false)
      (closed : ¬ i.kind.Unclosed) (stretch : Stretch source (i.interval.last + 1) text)
      (rest : Account source is rs) :
      Account source (i :: is)
        (⟨.trace, "Issue at ".toList ++ Text.decimal i.interval.first ++ "..=".toList ++
          Text.decimal i.interval.last ++ ": ".toList ++ i.message⟩ ::
        ⟨.trace, "Skipped ".toList ++ Text.quote text ++ " at ".toList ++
          Text.decimal (i.interval.last + 1) ++ " while recovering".toList⟩ :: rs)

lemma record_issue (i : Issue) :
    (Event.issue i).record = ⟨.trace, "Issue at ".toList ++ Text.decimal i.interval.first ++
      "..=".toList ++ Text.decimal i.interval.last ++ ": ".toList ++ i.message⟩ := by
  simp only [Event.record, Interval.display, List.append_assoc]

/-- A fault is told of before what follows it. -/
lemma account_cons_of_fault {kind : Issue.Kind} {lead covered skipped rest : Text}
    (h : Fault kind lead covered skipped rest) {before source : Text} {i : Issue} {is : List Issue}
    {rs : List Record} (hs : source = before ++ (lead ++ covered ++ skipped ++ rest))
    (hi : i = ⟨kind, .ofLength (before.length + lead.length) covered.length⟩)
    (hrest : Account source is rs) :
    Account source (i :: is) ((ofFinding (.issue i skipped)).map Event.record ++ rs) := by
  have hpos := List.length_pos_iff.2 h.covered_ne_nil
  have hlast : i.interval.last + 1 = (before ++ (lead ++ covered)).length := by
    simp only [hi, Interval.last_ofLength, List.length_append]
    omega
  have hsplit : source = (before ++ (lead ++ covered)) ++ (skipped ++ rest) := by
    rw [hs]
    simp only [List.append_assoc]
  have hnext : source[i.interval.last + 1]? = (skipped ++ rest).head? := by
    rw [hlast, hsplit, List.getElem?_append_right (Nat.le_refl _), Nat.sub_self,
      List.head?_eq_getElem?]
  cases skipped with
  | nil =>
      rw [ofFinding, List.map_singleton, record_issue]
      refine .plain ?_ hrest
      intro c hc
      have hstop := h.recovers.stops c (hnext ▸ hc)
      rwa [Bool.not_eq_false'] at hstop
  | cons c more =>
      rw [ofFinding, List.map_cons, List.map_singleton, record_issue]
      refine .skipping hnext (h.recovers.within c (List.mem_cons_self ..)) ?_ ?_ hrest
      · intro hu
        rw [hi] at hu
        cases (h.eq_nil_of_unclosed hu).1
      · rw [hlast, hsplit]
        exact stretch_of_recovers h.recovers _

/-- **The records of pieces tell of the issues of the pieces**, whatever precedes them. -/
theorem account_of_reading {ps : List Piece} (h : Reading ps) : ∀ before : Text,
    Account (before ++ ps.flatMap Piece.text) (issuesFrom before.length ps)
      (((findingsFrom before.length ps).flatMap ofFinding).map Event.record) := by
  induction ps with
  | nil => exact fun before => .nil
  | cons p ps ih =>
      intro before
      have hrest := ih h.2 (before ++ p.text)
      rw [List.append_assoc, List.length_append, ← List.flatMap_cons] at hrest
      rw [findingsFrom, List.flatMap_append, List.map_append]
      cases p with
      | trivia text => exact hrest
      | token kind text => exact hrest
      | fault kind lead covered skipped =>
          rw [issuesFrom_fault, Piece.finding?, Option.toList_some, List.flatMap_singleton]
          exact account_cons_of_fault h.1 rfl rfl hrest

/-- **The log of a pass is a faithful account of it.** The records of a text tell of its issues, in
the order in which these stand in the text, and of what recovery skips after each. A single record
follows, with the numbers of characters, tokens and issues; there are no more tokens and issues than
characters. These are the records that a pass over the text sends, whatever number of rounds it is
given beyond the number of characters. -/
theorem account (source : Text) :
    ∃ told count, (events source).map Event.record = told ++
        [⟨.debug, "Lexed ".toList ++ Text.decimal source.length ++ " characters into ".toList ++
          Text.decimal count ++ " tokens with ".toList ++
          Text.decimal (reported (lex source)).length ++ " issues".toList⟩] ∧
      Account source (reported (lex source)) told ∧
      ((reported (lex source)).Pairwise fun i j => i.interval.last < j.interval.first) ∧
      (∀ ts, lex source = .ok ts → count = ts.length) ∧
      count + (reported (lex source)).length ≤ source.length ∧
      ∀ limit n, source.length + 1 < limit → source.length ≤ n →
        ∃ p, Pass.rounds limit n (Pass.start source) = .ok p ∧ p.atEnd ∧ p.log = events source ∧
          p.outcome = lex source := by
  rw [reported_lex]
  refine ⟨((findings source).flatMap ofFinding).map Event.record, (tokens source).length, ?_, ?_,
    issues_pairwise source, ?_, length_tokens_add_length_issues_le source, ?_⟩
  · rw [events, List.map_append]
    rfl
  · have h := account_of_reading (reading_pieces source) []
    rwa [List.nil_append, pieces_flatMap_text] at h
  · intro ts hts
    rw [(lex_eq_ok_iff.1 hts).2]
  · intro limit n hl hn
    exact ⟨_, Pass.rounds_start hl hn, Pass.atEnd_between_nil _, Pass.log_between source,
      Pass.outcome_between source⟩

/-- Of the two issues only the first is followed by characters that are no boundary. -/
example : (events "1ab+\"".toList).map Event.record =
    [⟨.trace, "Issue at 1..=1: Invalid character \"a\" in decimal literal".toList⟩,
      ⟨.trace, "Skipped \"b\" at 2 while recovering".toList⟩,
      ⟨.trace, "Issue at 4..=4: Unclosed string".toList⟩,
      ⟨.debug, "Lexed 5 characters into 1 tokens with 2 issues".toList⟩] := by
  decide +kernel

end Lexical.Log
