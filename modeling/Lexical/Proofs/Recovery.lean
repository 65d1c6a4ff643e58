import Lexical.Proofs.Placement
import Mathlib.Order.Bounds.Basic

/-!
Reading after an issue.

* `resumptions`: the places after an issue at which reading may go on, the boundaries and the end.
* `Grammar.Recovers.isLeast_resumptions`: recovery stops at the first of them.
* `lex_resumes`: **an issue hides nothing beyond what recovery skips.** Up to the place where it
  stops a text has the issues up to this one, and from there on it is read like a text of its own.
-/

namespace Lexical

open Character Grammar

/-! ### Where recovery stops -/

/-- The places after an issue that ends at the offset `last` at which reading may go on: those of a
blank, a quote or an operator of one character, and the end of the text. -/
def resumptions (source : Text) (last : Nat) : Set Nat :=
  {r | last < r ∧ (r = source.length ∨ ∃ c, source[r]? = some c ∧
    (isBlank c = true ∨ c = '"' ∨ (Operator.ofChar? c).isSome = true))}

/-- Recovery stops at the first place at which reading may go on. -/
lemma Grammar.Recovers.isLeast_resumptions {before skipped rest : Text} {last : Nat}
    (h : Recovers skipped rest) (hl : last + 1 = before.length) :
    IsLeast (resumptions (before ++ (skipped ++ rest)) last)
      (before.length + skipped.length) := by
  constructor
  · refine ⟨by omega, ?_⟩
    cases rest with
    | nil =>
        left
        rw [List.append_nil, List.length_append]
    | cons c more =>
        right
        refine ⟨c, ?_, isBoundary_eq_true_iff.1 ?_⟩
        · rw [← List.append_assoc, ← List.length_append, List.getElem?_append_right (Nat.le_refl _),
            Nat.sub_self]
          rfl
        · have hc := stops_cons.1 h.stops
          rwa [Bool.not_eq_false'] at hc
  · rintro j ⟨hj, hplace⟩
    by_contra hlt
    rcases hplace with rfl | ⟨c, hc, hboundary⟩
    · rw [List.length_append, List.length_append] at hlt
      omega
    · -- the character at `j` has been skipped, so it is no boundary
      rw [List.getElem?_append_right (by omega), List.getElem?_append_left (by omega)] at hc
      have hno := h.within c (List.mem_of_getElem? hc)
      rw [isBoundary_eq_true_iff.2 hboundary] at hno
      cases hno

/-! ### What recovery leaves -/

/-- At the end of a text there is nothing to recover from. -/
lemma Grammar.Recovers.nil : Recovers [] [] := ⟨List.forall_mem_nil _, stops_nil _⟩

lemma Grammar.Fault.recovers {kind : Issue.Kind} {lead covered skipped rest : Text}
    (h : Fault kind lead covered skipped rest) : Recovers skipped rest := by
  cases h with
  | unclosedString _ => exact .nil
  | unclosedComment _ => exact .nil
  | missingValue _ _ recovers => exact recovers
  | strayInMarked _ _ _ _ _ recovers => exact recovers
  | strayInDecimal _ _ _ _ _ recovers => exact recovers
  | manyPoints _ _ _ _ recovers => exact recovers

/-- **Each issue parts its text**: it comes from a fault, the text up to the end of the fault has
the issues up to this one, and the issues after it are those of the text after the fault. -/
theorem exists_fault_of_issues_eq {source : Text} {is js : List Issue} {i : Issue}
    (h : issues source = is ++ i :: js) :
    ∃ before lead covered skipped rest, source = before ++ (lead ++ covered ++ skipped) ++ rest ∧
      Fault i.kind lead covered skipped rest ∧
      i.interval = .ofLength (before.length + lead.length) covered.length ∧
      issues (before ++ (lead ++ covered ++ skipped)) = is ++ [i] ∧
      (issues rest).map (Issue.shift (before ++ (lead ++ covered ++ skipped)).length) = js := by
  rw [issues_eq] at h
  obtain ⟨ps₁, ps₂, lead, covered, skipped, hps, hbefore, hplace⟩ :=
    exists_fault_of_issuesFrom_eq h
  have hr := reading_pieces source
  have ht := pieces_flatMap_text source
  rw [hps] at h hr ht
  have hafter := issuesFrom_after h hbefore
  rw [List.flatMap_append, List.flatMap_cons, ← List.append_assoc] at ht
  rw [Nat.zero_add] at hplace hafter
  refine ⟨ps₁.flatMap Piece.text, lead, covered, skipped, ps₂.flatMap Piece.text, ht.symm,
    hr.right.1, hplace, ?_, ?_⟩
  · -- the pieces up to the fault are read alike without those after it
    have hleft : Reading (ps₁ ++ [.fault i.kind lead covered skipped]) := by
      rw [← List.singleton_append, ← List.append_assoc] at hr
      exact hr.left
    have htext : (ps₁ ++ [Piece.fault i.kind lead covered skipped]).flatMap Piece.text =
        ps₁.flatMap Piece.text ++ (lead ++ covered ++ skipped) := by
      rw [List.flatMap_append, List.flatMap_singleton]
      rfl
    rw [← htext, issues_eq, hleft.pieces_flatMap, issuesFrom_append, hbefore, issuesFrom_fault,
      Nat.zero_add, ← hplace]
    rfl
  · rw [hafter, issues_eq, hr.right.2.pieces_flatMap, ← issuesFrom_add, Nat.zero_add,
      List.length_append]
    rfl

/-- **An issue hides nothing beyond what recovery skips.** Reading goes on at the first boundary
after the issue, or at the end of the text if there is none. Up to that place the text has the
issues up to this one, and the issues after it are those of the rest, read as a text of its own. -/
theorem lex_resumes {source : Text} {is : List Issue} (h : lex source = .error is) {k : Nat}
    {i : Issue} (hk : is[k]? = some i) :
    ∃ r, IsLeast (resumptions source i.interval.last) r ∧
      lex (source.take r) = .error (is.take (k + 1)) ∧
      (reported (lex (source.drop r))).map (Issue.shift r) = is.drop (k + 1) := by
  obtain ⟨-, hi⟩ := lex_eq_error_iff.1 h
  obtain ⟨hlt, hget⟩ := List.getElem?_eq_some_iff.1 hk
  have hsplit : issues source = is.take k ++ i :: is.drop (k + 1) := by
    rw [← hget, ← List.drop_eq_getElem_cons hlt, List.take_append_drop, hi]
  obtain ⟨before, lead, covered, skipped, rest, rfl, hfault, hplace, hleft, hright⟩ :=
    exists_fault_of_issues_eq hsplit
  refine ⟨(before ++ (lead ++ covered ++ skipped)).length, ?_, ?_, ?_⟩
  · have hpos := List.length_pos_iff.2 hfault.covered_ne_nil
    have hlast : i.interval.last + 1 = (before ++ (lead ++ covered)).length := by
      rw [hplace, Interval.last_ofLength, List.length_append, List.length_append]
      omega
    have hleast := hfault.recovers.isLeast_resumptions hlast
    simpa only [List.append_assoc, List.length_append, Nat.add_assoc] using hleast
  · rw [List.take_left]
    refine lex_eq_error_iff.2 ⟨?_, ?_⟩
    · rw [List.take_add_one, hk]
      exact List.append_ne_nil_of_right_ne_nil _ (List.cons_ne_nil i [])
    · rw [hleft, List.take_add_one, hk]
      rfl
  · rw [List.drop_left, reported_lex, hright]

/-- Reading goes on at the operator after a stray letter. -/
theorem lex_resumes_after_letter :
    lex "1a.b 0x".toList = .error [⟨.invalidCharacter .decimal 'a', .single 1⟩,
        ⟨.missingValue .hexadecimal, .ofLength 5 2⟩] ∧
      ∃ r, IsLeast (resumptions "1a.b 0x".toList 1) r ∧
        lex ("1a.b 0x".toList.take r) = .error [⟨.invalidCharacter .decimal 'a', .single 1⟩] ∧
        (reported (lex ("1a.b 0x".toList.drop r))).map (Issue.shift r) =
          [⟨.missingValue .hexadecimal, .ofLength 5 2⟩] := by
  have h : lex "1a.b 0x".toList = .error [⟨.invalidCharacter .decimal 'a', .single 1⟩,
      ⟨.missingValue .hexadecimal, .ofLength 5 2⟩] := by
    decide +kernel
  exact ⟨h, lex_resumes (k := 0) (i := ⟨.invalidCharacter .decimal 'a', .single 1⟩) h rfl⟩

end Lexical
