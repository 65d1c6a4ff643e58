import Lexical.Pass.Classify
import Lexical.Piece.Read
import Lexical.Grammar.Runs
import Mathlib.Tactic.Common

/-!
The loops of a pass, on a text that is short enough for all offsets to be below the limit.

* `Cursor.between`: the cursor between two parts of a text. The lemmas after it say to what the
  checked moves and places amount there.
* `Pass.token_between`, `Pass.issue_between`, `Pass.strayCharacter_between`: the verdicts.
* `Pass.stringBody_eq`, `Pass.commentBody_eq`, `Pass.markedRun_eq`, `Pass.decimalRun_eq`: **each
  loop leads to the place where the text is cut.**
-/

namespace Lexical

open Character Checked

/-! ### The cursor between two parts of a text -/

namespace Cursor

/-- The cursor between two parts of a text. -/
def between (before rest : Text) : Cursor := ⟨before.reverse, rest⟩

@[simp] lemma position_between (before rest : Text) :
    (between before rest).position = before.length :=
  List.length_reverse

@[simp] lemma source_between (before rest : Text) :
    (between before rest).source = before ++ rest := by
  rw [source, between, List.reverse_reverse]

lemma advance_between (before text after : Text) :
    (between before (text ++ after)).advance text.length = between (before ++ text) after := by
  simp [advance, between]

lemma since_between (before text after : Text) :
    (between (before ++ text) after).since before.length = text := by
  rw [since, between, List.reverse_reverse, List.drop_left]

lemma interval_eq {k : Cursor} {first last : Nat} (h : first ≤ last)
    (hlast : last < k.source.length) : k.interval first last = .ok ⟨first, last, h⟩ :=
  interval_eq_ok_iff.2 ⟨rfl, rfl, hlast⟩

section

variable {limit : Nat} {before text after : Text}

lemma forward_between (text : Text) (hl : before.length + text.length < limit) :
    (between before (text ++ after)).forward limit text.length =
      .ok (between (before ++ text) after) := by
  rw [forward, consumeMany, advance_between, position_between, List.length_append, fit_bind hl]
  rfl

lemma forward_one (c : Char) (hl : before.length + 1 < limit) :
    (between before (c :: after)).forward limit 1 = .ok (between (before ++ [c]) after) :=
  forward_between [c] hl

lemma forward_two (c d : Char) (hl : before.length + 2 < limit) :
    (between before (c :: d :: after)).forward limit 2 = .ok (between (before ++ [c, d]) after) :=
  forward_between [c, d] hl

lemma run_between (p : Char → Bool) {rest : Text} (hl : before.length + rest.length < limit) :
    (between before rest).run limit p =
      .ok (rest.takeWhile p, between (before ++ rest.takeWhile p) (rest.dropWhile p)) := by
  have hlen := Grammar.length_takeWhile_add_length_dropWhile p rest
  have hmove : (between before rest).consumeWhile p =
      (rest.takeWhile p, between (before ++ rest.takeWhile p) (rest.dropWhile p)) := by
    have hadv := advance_between before (rest.takeWhile p) (rest.dropWhile p)
    rw [List.takeWhile_append_dropWhile] at hadv
    rw [consumeWhile]
    exact congrArg (Prod.mk _) hadv
  rw [run, hmove, position_between, List.length_append, fit_bind (by omega)]
  rfl

lemma ahead?_between (c : Char) {rest : Text} (hl : before.length + 1 < limit) :
    (between before (c :: rest)).ahead? limit = .ok rest.head? := by
  rw [ahead?, position_between, fit_bind hl]
  rfl

lemma slice_between : (between (before ++ text) after).slice before.length = .ok text := by
  rw [slice, position_between, source_between, since_between]
  refine if_pos ⟨?_, ?_⟩ <;> simp only [List.length_append] <;> omega

lemma intervalSince_between (ht : text ≠ [])
    (hl : before.length + text.length + after.length + 1 < limit) :
    (between (before ++ text) after).intervalSince limit before.length =
      .ok (.ofLength before.length text.length) := by
  have hpos := List.length_pos_iff.2 ht
  rw [intervalSince, fit_bind (by omega), position_between, List.length_append,
    show max (before.length + text.length) (before.length + 1) =
      before.length + (text.length - 1) + 1 by omega, pred_bind]
  refine interval_eq (Nat.le_add_right _ _) ?_
  simp only [source_between, List.length_append]
  omega

end

end Cursor

namespace Pass

open Cursor Piece

variable {limit : Nat}

section

variable {before text after : Text}

lemma token_between (ht : text ≠ [])
    (hl : before.length + text.length + after.length + 1 < limit) (kind : Token.Kind) :
    token limit before.length kind (between (before ++ text) after) =
      .ok (.ok (some ⟨kind, text, .ofLength before.length text.length⟩),
        between (before ++ text) after) := by
  rw [token, tokenSince, slice_between, intervalSince_between ht hl]
  rfl

lemma issue_between (ht : text ≠ [])
    (hl : before.length + text.length + after.length + 1 < limit) (kind : Issue.Kind) :
    issue limit before.length kind (between (before ++ text) after) =
      .ok (.error ⟨kind, .ofLength before.length text.length⟩, between (before ++ text) after) := by
  rw [issue, issueSince, intervalSince_between ht hl]
  rfl

lemma strayCharacter_between (radix : Radix) (c : Char)
    (hl : before.length + after.length + 1 < limit) :
    strayCharacter limit radix c (between before (c :: after)) =
      .ok (.error ⟨.invalidCharacter radix c, .ofLength before.length 1⟩,
        between (before ++ [c]) after) := by
  have hplace : (between (before ++ [c]) after).interval before.length before.length =
      .ok ⟨before.length, before.length, Nat.le_refl _⟩ := by
    refine interval_eq _ ?_
    simp only [source_between, List.length_append, List.length_singleton]
    omega
  rw [strayCharacter, forward_one c (by omega), ok_bind, position_between, hplace]
  rfl

end

/-! ### Loops -/

section

variable {start : Nat} {passed rest : Text}

/-- The loop over a string literal leads to where the text splits. -/
lemma stringBody_eq (value : Text) (hl : passed.length + rest.length + 1 < limit) :
    stringBody limit start value ⟨passed, rest⟩ =
      match StringLiteral.split? rest with
      | some (body, after) =>
        token limit start (.string (value ++ body)) ⟨'"' :: (body.reverse ++ passed), after⟩
      | none => issue limit start .unclosedString ⟨rest.reverse ++ passed, []⟩ := by
  fun_induction StringLiteral.split? rest generalizing value passed with
  | case1 =>
      rw [stringBody]
      rfl
  | case2 after =>
      rw [List.length_cons] at hl
      rw [stringBody, fit_bind (by omega)]
      simp
  | case3 c rest ih =>
      simp only [List.length_cons] at hl
      rw [stringBody, fit_bind (by omega), ih _ (by simp only [List.length_cons]; omega)]
      cases StringLiteral.split? rest <;> simp
  | case4 c rest not_quote not_escape ih =>
      rw [List.length_cons] at hl
      by_cases hc : c = '\\' ∧ rest = []
      · -- a backslash at the end protects nothing
        obtain ⟨rfl, rfl⟩ := hc
        rw [stringBody, fit_bind (by omega)]
        rfl
      · rw [stringBody, fit_bind (by omega), ih _ (by simp only [List.length_cons]; omega)]
        · cases StringLiteral.split? rest <;> simp
        · exact not_quote
        · exact fun h h' => hc ⟨h, h'⟩
        · exact not_escape

/-- The loop over block comments leads to where the outermost one is closed. As many comments can
be open as characters have been passed. -/
lemma commentBody_eq (depth : Nat) (hl : passed.length + rest.length + 1 < limit)
    (hd : depth < passed.length) :
    commentBody limit start (depth + 1) ⟨passed, rest⟩ =
      match Comment.close? depth rest with
      | some (inside, after) => .ok (.ok none, ⟨inside.reverse ++ passed, after⟩)
      | none => issue limit start .unclosedComment ⟨rest.reverse ++ passed, []⟩ := by
  fun_induction Comment.close? depth rest generalizing passed with
  | case1 =>
      rw [commentBody, fit_bind (by omega)]
      rfl
  | case2 depth rest ih =>
      simp only [List.length_cons] at hl
      rw [commentBody, fit_bind (by omega), fit_bind (by omega),
        ih (by simp only [List.length_cons]; omega) (by simp only [List.length_cons]; omega)]
      cases Comment.close? (depth + 1) rest <;> simp
  | case3 after =>
      simp only [List.length_cons] at hl
      rw [commentBody, fit_bind (by omega), pred_bind]
      rfl
  | case4 depth rest ih =>
      simp only [List.length_cons] at hl
      rw [commentBody, fit_bind (by omega), pred_bind, if_neg (Nat.succ_ne_zero depth),
        ih (by simp only [List.length_cons]; omega) (by simp only [List.length_cons]; omega)]
      cases Comment.close? depth rest <;> simp
  | case5 depth c rest not_open not_close₀ not_close ih =>
      rw [List.length_cons] at hl
      rw [commentBody, fit_bind (by omega),
        ih (by simp only [List.length_cons]; omega) (by simp only [List.length_cons]; omega)]
      · cases Comment.close? depth rest <;> simp
      · exact not_open
      · intro r hc hr
        cases depth with
        | zero => exact not_close₀ r rfl hc hr
        | succ d => exact not_close d r rfl hc hr

/-- The loop over a literal with an announced base leads to the end of its run. -/
lemma markedRun_eq (radix : Radix) (hl : passed.length + rest.length + 1 < limit) :
    markedRun limit radix start ⟨passed, rest⟩ =
      match stray? (rest.dropWhile radix.isRun) with
      | some (c, _) =>
        strayCharacter limit radix c
          ⟨(rest.takeWhile radix.isRun).reverse ++ passed, rest.dropWhile radix.isRun⟩
      | none =>
        token limit start .number
          ⟨(rest.takeWhile radix.isRun).reverse ++ passed, rest.dropWhile radix.isRun⟩ := by
  induction rest generalizing passed with
  | nil => rw [markedRun]; rfl
  | cons c rest ih =>
      rw [List.length_cons] at hl
      have hrun : radix.isRun c = true ↔ c = '_' ∨ radix.isDigit c = true := by
        rw [Radix.isRun, Bool.or_eq_true, beq_iff_eq]
      rw [markedRun]
      by_cases hc : radix.isRun c = true
      · rw [if_pos (hrun.1 hc), fit_bind (by omega), ih (by simp only [List.length_cons]; omega),
          List.takeWhile_cons_of_pos hc, List.dropWhile_cons_of_pos hc, List.reverse_cons,
          List.append_assoc, List.singleton_append]
      · rw [if_neg (fun h => hc (hrun.2 h)), List.takeWhile_cons_of_neg hc,
          List.dropWhile_cons_of_neg hc]
        by_cases ha : c.isAlphanum = true <;> simp [stray?, ha]

/-- The loop over a literal in base ten leads to the end of its run, with its points counted. No
more points are counted than characters have been passed. -/
lemma decimalRun_eq (points : Nat) (hl : passed.length + rest.length + 1 < limit)
    (hp : points ≤ passed.length) :
    decimalRun limit start points ⟨passed, rest⟩ =
      match stray? (rest.dropWhile isPointedRun) with
      | some (c, _) =>
        strayCharacter limit .decimal c
          ⟨(rest.takeWhile isPointedRun).reverse ++ passed, rest.dropWhile isPointedRun⟩
      | none =>
        decimalEnd limit start (points + (rest.takeWhile isPointedRun).count '.')
          ⟨(rest.takeWhile isPointedRun).reverse ++ passed, rest.dropWhile isPointedRun⟩ := by
  induction rest generalizing passed points with
  | nil => rw [decimalRun]; rfl
  | cons c rest ih =>
      rw [List.length_cons] at hl
      rw [decimalRun]
      by_cases hc : isPointedRun c = true
      · rw [if_pos (Grammar.isDecimalRun_of_isPointedRun c hc), List.takeWhile_cons_of_pos hc,
          List.dropWhile_cons_of_pos hc, List.reverse_cons, List.append_assoc,
          List.singleton_append]
        by_cases hpoint : c = '.'
        · subst hpoint
          rw [if_pos rfl, fit_bind (by omega), fit_bind (by omega),
            ih _ (by simp only [List.length_cons]; omega) (by simp only [List.length_cons]; omega),
            List.count_cons_self, Nat.add_assoc, Nat.add_comm 1]
        · have hdigit : c = '_' ∨ c.isDigit = true := by
            simpa [isPointedRun, hpoint, or_comm] using hc
          rw [if_neg hpoint, if_pos hdigit, fit_bind (by omega),
            ih _ (by simp only [List.length_cons]; omega) (by simp only [List.length_cons]; omega),
            List.count_cons_of_ne hpoint]
      · have hnot : ¬ c.isDigit = true ∧ ¬ c = '_' ∧ ¬ c = '.' := by
          simpa [isPointedRun, and_assoc] using hc
        rw [List.takeWhile_cons_of_neg hc, List.dropWhile_cons_of_neg hc]
        by_cases ha : c.isAlphanum = true
        · rw [if_pos (Grammar.isDecimalRun_of_isAlphanum c ha), if_neg hnot.2.2,
            if_neg (fun h => h.elim hnot.2.1 hnot.1)]
          simp [stray?, ha]
        · have hend : ¬ isDecimalRun c = true := by
            simp [isDecimalRun, ha, hnot]
          rw [if_neg hend]
          simp [stray?, ha]

end

end Pass

end Lexical
