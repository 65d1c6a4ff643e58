import Lexical.Proofs.Reading

/-!
Where the findings of a text stand.

* `findingsFrom_within`, `findingsFrom_pairwise`: each finding lies on the text of its own piece,
  so that findings are in order and apart.
* `lookup_of_mem_tokens`: a token stands in the text at its interval.
* `issuesFrom`: the issues of pieces of which the first begins at an offset; it is additive in the
  pieces and moves with the offset.
* `exists_fault_of_issuesFrom_eq`: each issue comes from a fault, the issues before it from the
  pieces before the fault, and the issues after it from those after the fault.
-/

namespace Lexical

open Grammar

/-! ### Findings lie on their pieces -/

/-- The interval of a finding. -/
def Finding.interval : Finding → Interval
  | token t => t.interval
  | issue i _ => i.interval

lemma Finding.token?_shift (k : Nat) (f : Finding) :
    (f.shift k).token? = f.token?.map (Token.shift k) := by
  cases f <;> rfl

lemma Finding.issue?_shift (k : Nat) (f : Finding) :
    (f.shift k).issue? = f.issue?.map (Issue.shift k) := by
  cases f <;> rfl

lemma Finding.interval_of_token? {f : Finding} {t : Token} (h : f.token? = some t) :
    f.interval = t.interval := by
  cases f with
  | token u => exact congrArg Token.interval (Option.some.inj h)
  | issue i skipped => cases h

lemma Finding.interval_of_issue? {f : Finding} {i : Issue} (h : f.issue? = some i) :
    f.interval = i.interval := by
  cases f with
  | token t => cases h
  | issue j skipped => exact congrArg Issue.interval (Option.some.inj h)

lemma Grammar.Fault.covered_ne_nil {kind : Issue.Kind} {lead covered skipped rest : Text}
    (h : Fault kind lead covered skipped rest) : covered ≠ [] := by
  cases h <;> exact List.cons_ne_nil _ _

/-- A finding lies on the text of its piece. -/
lemma Piece.Stands.finding_within {p : Piece} {rest : Text} {position : Nat} {f : Finding}
    (h : p.Stands rest) (hf : p.finding? position = some f) :
    position ≤ f.interval.first ∧ f.interval.last < position + p.text.length := by
  cases p with
  | trivia text => cases hf
  | token kind text =>
      obtain rfl := Option.some.inj hf
      have hpos := List.length_pos_iff.2 h.text_ne_nil
      simp only [Finding.interval, Interval.first_ofLength, Interval.last_ofLength, Piece.text] at *
      omega
  | fault kind lead covered skipped =>
      obtain rfl := Option.some.inj hf
      have hpos := List.length_pos_iff.2 (Fault.covered_ne_nil h)
      simp only [Finding.interval, Interval.first_ofLength, Interval.last_ofLength, Piece.text,
        List.length_append]
      omega

/-- Every finding lies on the text of the pieces. -/
lemma findingsFrom_within {position : Nat} {ps : List Piece} (h : Reading ps) :
    ∀ f ∈ findingsFrom position ps, position ≤ f.interval.first ∧
      f.interval.last < position + (ps.flatMap Piece.text).length := by
  induction ps generalizing position with
  | nil =>
      intro f hf
      cases hf
  | cons p ps ih =>
      intro f hf
      rw [List.flatMap_cons, List.length_append]
      rw [findingsFrom, List.mem_append, Option.mem_toList] at hf
      rcases hf with hf | hf
      · have hp := h.1.finding_within hf
        omega
      · have hps := ih h.2 f hf
        omega

/-- **Findings are in order and apart**: each ends before the next begins. -/
lemma findingsFrom_pairwise {position : Nat} {ps : List Piece} (h : Reading ps) :
    (findingsFrom position ps).Pairwise fun f g => f.interval.last < g.interval.first := by
  induction ps generalizing position with
  | nil => exact List.Pairwise.nil
  | cons p ps ih =>
      rw [findingsFrom, List.pairwise_append]
      refine ⟨?_, ih h.2, ?_⟩
      · cases p.finding? position with
        | none => exact List.Pairwise.nil
        | some f => exact List.pairwise_singleton _ f
      · intro f hf g hg
        rw [Option.mem_toList] at hf
        have hp := h.1.finding_within hf
        have hps := findingsFrom_within h.2 g hg
        omega

/-- A token stands at its interval, whatever precedes the pieces. -/
lemma lookup_of_mem_findingsFrom {ps : List Piece} {t : Token} (h : Reading ps) :
    ∀ before : Text, .token t ∈ findingsFrom before.length ps →
      t.interval.lookup (before ++ ps.flatMap Piece.text) = t.raw := by
  induction ps with
  | nil =>
      intro before ht
      cases ht
  | cons p ps ih =>
      intro before ht
      rw [findingsFrom, List.mem_append, Option.mem_toList] at ht
      rw [List.flatMap_cons]
      rcases ht with ht | ht
      · cases p with
        | trivia text => cases ht
        | token kind text =>
            cases ht
            exact Interval.lookup_ofLength before text _ h.1.text_ne_nil
        | fault kind lead covered skipped => cases ht
      · rw [← List.append_assoc]
        refine ih h.2 (before ++ p.text) ?_
        rwa [List.length_append]

lemma mem_tokens {source : Text} {t : Token} : t ∈ tokens source ↔ .token t ∈ findings source := by
  rw [tokens, List.mem_filterMap]
  constructor
  · rintro ⟨f, hf, ht⟩
    cases f with
    | token u =>
        obtain rfl := Option.some.inj ht
        exact hf
    | issue i skipped => cases ht
  · intro h
    exact ⟨_, h, rfl⟩

/-- **A token stands in the text at its interval.** -/
theorem lookup_of_mem_tokens {source : Text} {t : Token} (h : t ∈ tokens source) :
    t.interval.lookup source = t.raw := by
  have hl := lookup_of_mem_findingsFrom (reading_pieces source) [] (mem_tokens.1 h)
  rwa [pieces_flatMap_text] at hl

lemma mem_issues {source : Text} {i : Issue} :
    i ∈ issues source ↔ ∃ skipped, .issue i skipped ∈ findings source := by
  rw [issues, List.mem_filterMap]
  constructor
  · rintro ⟨f, hf, hi⟩
    cases f with
    | token t => cases hi
    | issue j skipped =>
        obtain rfl := Option.some.inj hi
        exact ⟨skipped, hf⟩
  · rintro ⟨skipped, h⟩
    exact ⟨_, h, rfl⟩

/-- What is selected from the findings, and stands where they stand, is in order and apart. -/
lemma filterMap_findings_pairwise {α : Type} {part : Finding → Option α} {place : α → Interval}
    (hp : ∀ f a, part f = some a → f.interval = place a) (source : Text) :
    ((findings source).filterMap part).Pairwise fun a b => (place a).last < (place b).first := by
  refine (findingsFrom_pairwise (reading_pieces source)).filterMap part ?_
  intro f g hfg a ha b hb
  rwa [← hp f a ha, ← hp g b hb]

/-- **Tokens are in order and apart.** -/
theorem tokens_pairwise (source : Text) :
    (tokens source).Pairwise fun t u => t.interval.last < u.interval.first :=
  filterMap_findings_pairwise (fun _ _ => Finding.interval_of_token?) source

/-- **Issues are in order and apart.** -/
theorem issues_pairwise (source : Text) :
    (issues source).Pairwise fun i j => i.interval.last < j.interval.first :=
  filterMap_findings_pairwise (fun _ _ => Finding.interval_of_issue?) source

/-- Issues lie within the text. -/
theorem last_lt_length_of_mem_issues {source : Text} {i : Issue} (h : i ∈ issues source) :
    i.interval.last < source.length := by
  obtain ⟨skipped, hf⟩ := mem_issues.1 h
  have hw := (findingsFrom_within (reading_pieces source) _ hf).2
  rwa [pieces_flatMap_text, Nat.zero_add] at hw

/-- Tokens lie within the text. -/
theorem last_lt_length_of_mem_tokens {source : Text} {t : Token} (h : t ∈ tokens source) :
    t.interval.last < source.length := by
  have hw := (findingsFrom_within (reading_pieces source) _ (mem_tokens.1 h)).2
  rwa [pieces_flatMap_text, Nat.zero_add] at hw

/-! ### The pieces that issues come from -/

/-- The issues of pieces of which the first begins at an offset. -/
def issuesFrom (position : Nat) (ps : List Piece) : List Issue :=
  (findingsFrom position ps).filterMap Finding.issue?

lemma issues_eq (source : Text) : issues source = issuesFrom 0 (pieces source) := rfl

lemma issuesFrom_fault (position : Nat) (kind : Issue.Kind) (lead covered skipped : Text)
    (ps : List Piece) :
    issuesFrom position (.fault kind lead covered skipped :: ps) =
      ⟨kind, .ofLength (position + lead.length) covered.length⟩ ::
        issuesFrom (position + (Piece.fault kind lead covered skipped).text.length) ps := rfl

/-- Pieces that begin `k` characters later have the same issues, `k` characters later. -/
lemma issuesFrom_add (k position : Nat) (ps : List Piece) :
    issuesFrom (position + k) ps = (issuesFrom position ps).map (Issue.shift k) := by
  rw [issuesFrom, findingsFrom_add, List.filterMap_map, issuesFrom, List.map_filterMap,
    show Finding.issue? ∘ Finding.shift k = fun f => f.issue?.map (Issue.shift k) from
      funext (Finding.issue?_shift k)]

lemma issuesFrom_append (position : Nat) (ps qs : List Piece) :
    issuesFrom position (ps ++ qs) =
      issuesFrom position ps ++ issuesFrom (position + (ps.flatMap Piece.text).length) qs := by
  rw [issuesFrom, findingsFrom_append, List.filterMap_append, issuesFrom, issuesFrom]

/-- A piece that is no fault has no issue. -/
lemma issuesFrom_cons_of_not_fault {p : Piece} {position : Nat} {ps : List Piece}
    (h : ∀ kind lead covered skipped, p ≠ .fault kind lead covered skipped) :
    issuesFrom position (p :: ps) = issuesFrom (position + p.text.length) ps := by
  cases p with
  | trivia text => rfl
  | token kind text => rfl
  | fault kind lead covered skipped => exact absurd rfl (h kind lead covered skipped)

/-- **Each issue comes from a fault**, the issues before it from the pieces before that fault, and
the issues after it from the pieces after it. -/
theorem exists_fault_of_issuesFrom_eq {position : Nat} {ps : List Piece} {is js : List Issue}
    {i : Issue} (h : issuesFrom position ps = is ++ i :: js) :
    ∃ ps₁ ps₂ lead covered skipped, ps = ps₁ ++ .fault i.kind lead covered skipped :: ps₂ ∧
      issuesFrom position ps₁ = is ∧
      i.interval = .ofLength (position + (ps₁.flatMap Piece.text).length + lead.length)
        covered.length := by
  induction ps generalizing position is with
  | nil => cases is <;> cases h
  | cons p ps ih =>
      by_cases hp : ∃ kind lead covered skipped, p = .fault kind lead covered skipped
      · obtain ⟨kind, lead, covered, skipped, rfl⟩ := hp
        rw [issuesFrom_fault] at h
        cases is with
        | nil =>
            obtain ⟨rfl, -⟩ := List.cons.inj h
            exact ⟨[], ps, lead, covered, skipped, rfl, rfl, rfl⟩
        | cons j is =>
            obtain ⟨rfl, htail⟩ := List.cons.inj h
            obtain ⟨ps₁, ps₂, l, c, s, rfl, hbefore, hi⟩ := ih htail
            refine ⟨_ :: ps₁, ps₂, l, c, s, rfl, ?_, ?_⟩
            · rw [issuesFrom_fault, hbefore]
            · rw [hi, List.flatMap_cons, List.length_append, ← Nat.add_assoc]
      · have hnot : ∀ kind lead covered skipped, p ≠ .fault kind lead covered skipped :=
          fun kind lead covered skipped hq => hp ⟨kind, lead, covered, skipped, hq⟩
        rw [issuesFrom_cons_of_not_fault hnot] at h
        obtain ⟨ps₁, ps₂, l, c, s, rfl, hbefore, hi⟩ := ih h
        refine ⟨p :: ps₁, ps₂, l, c, s, rfl, ?_, ?_⟩
        · rw [issuesFrom_cons_of_not_fault hnot, hbefore]
        · rw [hi, List.flatMap_cons, List.length_append, ← Nat.add_assoc]

/-- The issues after one that comes from a known fault come from the pieces after that fault. -/
lemma issuesFrom_after {position : Nat} {ps₁ ps₂ : List Piece} {is js : List Issue} {i : Issue}
    {lead covered skipped : Text}
    (h : issuesFrom position (ps₁ ++ .fault i.kind lead covered skipped :: ps₂) = is ++ i :: js)
    (hbefore : issuesFrom position ps₁ = is) :
    js = issuesFrom (position + (ps₁.flatMap Piece.text).length +
      (Piece.fault i.kind lead covered skipped).text.length) ps₂ := by
  rw [issuesFrom_append, hbefore, List.append_cancel_left_eq, issuesFrom_fault] at h
  exact (List.cons.inj h).2.symm

/-- A fault among the pieces gives an issue of its kind. -/
lemma exists_issue_of_mem {position : Nat} {ps : List Piece} {kind : Issue.Kind}
    {lead covered skipped : Text} (h : .fault kind lead covered skipped ∈ ps) :
    ∃ i ∈ issuesFrom position ps, i.kind = kind := by
  obtain ⟨ps₁, ps₂, rfl⟩ := List.append_of_mem h
  rw [issuesFrom_append, issuesFrom_fault]
  exact ⟨_, List.mem_append_right _ (List.mem_cons_self ..), rfl⟩

/-! ### Outcomes -/

/-- The issues that an outcome reports; beside tokens there are none. -/
def reported : Except (List Issue) (List Token) → List Issue
  | .ok _ => []
  | .error is => is

lemma reported_lex (source : Text) : reported (lex source) = issues source := by
  by_cases h : issues source = []
  · rw [lex, if_pos h, h, reported]
  · rw [lex, if_neg h, reported]

end Lexical
