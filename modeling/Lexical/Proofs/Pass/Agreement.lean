import Lexical.Proofs.Pass.Loops

/-!
A pass tells what the pieces of a text are.

* `Pass.telling`: what telling a piece amounts to: the verdict on it, and the cursor before what
  recovery skips.
* `Pass.string_eq` and the lemmas after it: every way to go on tells the piece that is read there.
* `Pass.classify_eq`: **what comes next is told without a breach, and as the piece that is read.**
-/

namespace Lexical.Pass

open Character Checked Cursor Piece

variable {limit : Nat}

/-! ### Telling a piece -/

/-- The verdict on a piece that begins at an offset. -/
def verdict (position : Nat) : Piece → Verdict
  | .trivia _ => .ok none
  | .token kind text => .ok (some ⟨kind, text, .ofLength position text.length⟩)
  | .fault kind lead covered _ => .error ⟨kind, .ofLength (position + lead.length) covered.length⟩

/-- The part of a piece that a verdict is about. -/
def told : Piece → Text
  | .trivia text => text
  | .token _ text => text
  | .fault _ lead covered _ => lead ++ covered

/-- The part of a piece that recovery skips. -/
def skipped : Piece → Text
  | .trivia _ => []
  | .token _ _ => []
  | .fault _ _ _ skipped => skipped

/-- What telling a piece amounts to: the verdict on it, with the cursor before what recovery
skips. -/
def telling (before : Text) (read : Piece × Text) : Verdict × Cursor :=
  (verdict before.length read.1, between (before ++ told read.1) (skipped read.1 ++ read.2))

lemma telling_trivia (before text rest : Text) :
    telling before (.trivia text, rest) = (.ok none, between (before ++ text) rest) :=
  rfl

lemma telling_token (before : Text) (kind : Token.Kind) (text rest : Text) :
    telling before (.token kind text, rest) =
      (.ok (some ⟨kind, text, .ofLength before.length text.length⟩),
        between (before ++ text) rest) :=
  rfl

lemma telling_malformed (before : Text) (kind : Issue.Kind) (lead covered rest : Text) :
    telling before (malformed kind lead covered rest) =
      (.error ⟨kind, .ofLength (before.length + lead.length) covered.length⟩,
        between (before ++ (lead ++ covered)) rest) := by
  rw [telling, malformed, verdict, told, skipped, List.takeWhile_append_dropWhile]

section

variable {before rest : Text}

lemma string_eq (hl : before.length + ('"' :: rest).length + 1 < limit) :
    string limit (between before ('"' :: rest)) = .ok (telling before (ofString rest)) := by
  rw [List.length_cons] at hl
  rw [string, forward_one '"' (by omega), ok_bind, position_between, between,
    stringBody_eq [] (by simp; omega), ofString]
  cases found : StringLiteral.split? rest with
  | none =>
      have hk : (⟨rest.reverse ++ (before ++ ['"']).reverse, []⟩ : Cursor) =
          between (before ++ '"' :: rest) [] := by
        simp [between]
      dsimp only
      rw [hk, issue_between (List.cons_ne_nil _ _) (by simp; omega), telling_malformed]
      rfl
  | some cut =>
      obtain ⟨body, after⟩ := cut
      obtain ⟨-, rfl⟩ := StringLiteral.split?_eq_some_iff.1 found
      have hk : (⟨'"' :: (body.reverse ++ (before ++ ['"']).reverse), after⟩ : Cursor) =
          between (before ++ '"' :: (body ++ ['"'])) after := by
        simp [between]
      dsimp only
      rw [hk, token_between (List.cons_ne_nil _ _) (by simp at hl ⊢; omega), telling_token]
      rfl

lemma blockComment_eq (hl : before.length + ('/' :: '*' :: rest).length + 1 < limit) :
    blockComment limit (between before ('/' :: '*' :: rest)) =
      .ok (telling before (ofBlockComment rest)) := by
  simp only [List.length_cons] at hl
  rw [blockComment, forward_two '/' '*' (by omega), ok_bind, position_between, between,
    commentBody_eq 0 (by simp; omega) (by simp), ofBlockComment]
  cases found : Comment.close? 0 rest with
  | none =>
      have hk : (⟨rest.reverse ++ (before ++ ['/', '*']).reverse, []⟩ : Cursor) =
          between (before ++ '/' :: '*' :: rest) [] := by
        simp [between]
      dsimp only
      rw [hk, issue_between (List.cons_ne_nil _ _) (by simp; omega), telling_malformed]
      rfl
  | some cut =>
      obtain ⟨inside, after⟩ := cut
      dsimp only
      rw [telling_trivia]
      simp [between]

lemma lineComment_eq {source : Text} (hl : before.length + source.length + 1 < limit) :
    lineComment limit (between before source) = .ok (telling before (ofLineComment source)) := by
  rw [lineComment, run_between isWithinLine (by omega)]
  rfl

lemma name_eq {source : Text} (hl : before.length + source.length + 1 < limit)
    (hn : source.takeWhile isNameRest ≠ []) :
    name limit (between before source) = .ok (telling before (ofName source)) := by
  have hsplit := Grammar.length_takeWhile_add_length_dropWhile isNameRest source
  rw [name, run_between isNameRest (by omega), ok_bind, position_between]
  exact token_between hn (by omega) _

/-- After the run of a literal either a stray character is blamed, or there is none. -/
lemma stray_eq {radix : Radix} {lead after : Text} {other : Classified} {read : Piece × Text}
    (hl : before.length + lead.length + after.length + 1 < limit)
    (ho : other = .ok (telling before read)) :
    (match stray? after with
      | some (c, _) => strayCharacter limit radix c (between (before ++ lead) after)
      | none => other) =
      .ok (telling before
        (match stray? after with
          | some (c, beyond) => malformed (.invalidCharacter radix c) lead [c] beyond
          | none => read)) := by
  cases found : stray? after with
  | none => exact ho
  | some cut =>
      obtain ⟨c, beyond⟩ := cut
      obtain rfl := eq_cons_of_stray? found
      rw [List.length_cons] at hl
      dsimp only
      rw [strayCharacter_between radix c (by rw [List.length_append]; omega), telling_malformed,
        List.append_assoc, List.length_append]
      rfl

lemma decimal_eq {source : Text} (hl : before.length + source.length + 1 < limit)
    (hn : source.takeWhile isPointedRun ≠ []) :
    decimalRun limit before.length 0 (between before source) =
      .ok (telling before (ofDecimal source)) := by
  have hsplit := Grammar.length_takeWhile_add_length_dropWhile isPointedRun source
  have hk : (⟨(source.takeWhile isPointedRun).reverse ++ before.reverse,
      source.dropWhile isPointedRun⟩ : Cursor) =
        between (before ++ source.takeWhile isPointedRun) (source.dropWhile isPointedRun) := by
    simp [between]
  rw [between, decimalRun_eq 0 (by simpa using hl) (Nat.zero_le _), hk, ofDecimal]
  refine stray_eq (by omega) ?_
  rw [decimalEnd, Nat.zero_add]
  split
  · rw [issue_between hn (by omega), telling_malformed]
    rfl
  · rw [token_between hn (by omega), telling_token]

lemma isSome_filter_head? (rest : Text) :
    (rest.head?.filter Char.isAlphanum).isSome = (stray? rest).isSome := by
  cases rest with
  | nil => rfl
  | cons c after => by_cases h : c.isAlphanum = true <;> simp [stray?, Option.filter, h]

lemma marked_eq (radix : Radix) (mark : Char)
    (hl : before.length + ('0' :: mark :: rest).length + 1 < limit) :
    marked limit radix (between before ('0' :: mark :: rest)) =
      .ok (telling before (ofMarked radix mark rest)) := by
  simp only [List.length_cons] at hl
  rw [marked, forward_two '0' mark (by omega), ok_bind, position_between, current?, show
    (between (before ++ ['0', mark]) rest).rest = rest from rfl, isSome_filter_head?, ofMarked]
  split
  · have hsplit := Grammar.length_takeWhile_add_length_dropWhile radix.isRun rest
    have hk : (⟨(rest.takeWhile radix.isRun).reverse ++ (before ++ ['0', mark]).reverse,
        rest.dropWhile radix.isRun⟩ : Cursor) =
          between (before ++ '0' :: mark :: rest.takeWhile radix.isRun)
            (rest.dropWhile radix.isRun) := by
      simp [between]
    rw [between, markedRun_eq radix (by simp; omega), hk]
    refine stray_eq (by simp; omega) ?_
    rw [token_between (List.cons_ne_nil _ _) (by simp; omega), telling_token]
  · rw [fit_bind (by omega), interval_eq (Nat.le_succ _) (by simp), telling_malformed]
    rfl

/-- A character that makes up no operator with the next one is told alone. -/
lemma single_eq (c : Char) (hl : before.length + rest.length + 2 < limit) :
    (do
      let after ← (between before (c :: rest)).forward limit 1
      match Operator.ofChar? c with
      | some op => token limit before.length (.operator op) after
      | none => token limit before.length .other after) =
      .ok (telling before (ofSingle c, rest)) := by
  rw [forward_one c (by omega), ok_bind, ofSingle]
  cases Operator.ofChar? c <;>
    exact token_between (List.cons_ne_nil _ _) (by simp; omega) _

lemma mark_eq (c : Char) (hl : before.length + (c :: rest).length + 1 < limit) :
    mark limit (between before (c :: rest)) = .ok (telling before (ofMark c rest)) := by
  rw [List.length_cons] at hl
  rw [mark, ahead?_between c (by omega), ok_bind, position_between]
  change (match rest.head?.bind fun d => Operator.ofPair? c d with
    | some op => _
    | none => _) = _
  cases rest with
  | nil => exact single_eq c hl
  | cons d after =>
      rw [ofMark, List.head?_cons, Option.bind_some]
      cases Operator.ofPair? c d with
      | none => exact single_eq c hl
      | some op =>
          rw [List.length_cons] at hl
          dsimp only
          rw [forward_two c d (by omega), ok_bind,
            token_between (List.cons_ne_nil _ _) (by simp; omega), telling_token]

/-- A digit begins a literal, whose base the next character may announce. -/
lemma number_eq {c : Char} (hc : c.isDigit = true)
    (hl : before.length + (c :: rest).length + 1 < limit) :
    (if c = '0' ∧ rest.head? = some 'x' then marked limit .hexadecimal (between before (c :: rest))
      else if c = '0' ∧ rest.head? = some 'b' then marked limit .binary (between before (c :: rest))
      else decimalRun limit before.length 0 (between before (c :: rest))) =
      .ok (telling before (ofNumber c rest)) := by
  have hrun : (c :: rest).takeWhile isPointedRun ≠ [] := by
    rw [List.takeWhile_cons_of_pos (by simp [isPointedRun, hc])]
    exact List.cons_ne_nil _ _
  cases rest with
  | nil => simpa [ofNumber] using decimal_eq hl hrun
  | cons mark after =>
      simp only [List.head?_cons, Option.some_inj, ofNumber]
      split
      · next h =>
        obtain ⟨rfl, rfl⟩ := h
        exact marked_eq .hexadecimal 'x' hl
      · next hx =>
        split
        · next h =>
          obtain ⟨rfl, rfl⟩ := h
          exact marked_eq .binary 'b' hl
        · next hb =>
          have hnone : (if c = '0' then Radix.ofMark? mark else none) = none := by
            split
            · next hz =>
              rw [Radix.ofMark?]
              · exact fun h => hx ⟨hz, h⟩
              · exact fun h => hb ⟨hz, h⟩
            · rfl
          rw [hnone]
          exact decimal_eq hl hrun

/-- **What comes next is told without a breach, and as the piece that is read there.** -/
theorem classify_eq (c : Char) (hl : before.length + (c :: rest).length + 1 < limit) :
    classify limit (between before (c :: rest)) = .ok (telling before (Piece.read c rest)) := by
  have hroom : before.length + 1 < limit := by
    rw [List.length_cons] at hl
    omega
  have hahead : (between before (c :: rest)).ahead? limit = .ok rest.head? := ahead?_between c hroom
  rw [classify, show (between before (c :: rest)).current? = some c from rfl]
  dsimp only
  rw [hahead, ok_bind, forward_one c hroom, ok_bind, Piece.read]
  split
  · rfl
  split
  · next h =>
    subst h
    exact string_eq hl
  by_cases hd : c.isDigit = true
  · have hnumber := number_eq hd hl
    rw [if_pos hd, if_pos hd, position_between]
    exact hnumber
  · have hzero : c ≠ '0' := by
      rintro rfl
      exact hd rfl
    rw [if_neg fun h => hzero h.1, if_neg fun h => hzero h.1, if_neg hd, if_neg hd]
    split
    · exact lineComment_eq hl
    split
    · next h =>
      obtain ⟨rfl, hstar⟩ := h
      obtain ⟨after, rfl⟩ : ∃ after, rest = '*' :: after := by
        cases rest with
        | nil => cases hstar
        | cons d after => exact ⟨after, by rw [Option.some.inj hstar]⟩
      exact blockComment_eq hl
    split
    · next h =>
      refine name_eq hl ?_
      rw [List.takeWhile_cons_of_pos (isNameRest_of_isNameStart h)]
      exact List.cons_ne_nil _ _
    · exact mark_eq c hl

end

end Lexical.Pass
