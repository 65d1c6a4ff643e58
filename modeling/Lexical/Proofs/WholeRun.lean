import Lexical.Proofs.Pass.Run

/-!
Number literals, judged by their whole runs.

* `NumberLiteral.judge`: what a literal amounts to, in view of the longest run of letters and digits
  that it may belong to; the run is searched for the first character out of place.
* `NumberLiteral.Parts`: how the whole run is parted by the first character out of place.
* `NumberLiteral.finding?_ofNumber`: reading a number comes to the same judgement.
* `Pass.step_tells`: a round of a pass records what is read where it begins.
* `step_number`: **every number literal is judged by its whole run**, wherever it stands.
-/

namespace Lexical

open Character Grammar Piece

namespace NumberLiteral

/-! ### The judgement on a whole run -/

/-- The first character of a run that is out of place in a literal of a base; it is blamed where it
stands. The run begins at the given offset. -/
def firstStray? (radix : Radix) (isStray : Char → Bool) (position : Nat) (run : Text) :
    Option Issue :=
  ((run.zipIdx position).find? fun e => isStray e.1).map fun e =>
    ⟨.invalidCharacter radix e.1, .single e.2⟩

/-- The judgement on a literal that begins with a zero and the mark of a base, before `rest`. Its
run takes in letters, digits and underscores. -/
def judgeMarked (radix : Radix) (mark : Char) (position : Nat) (rest : Text) :
    Except Issue Token :=
  let run := rest.takeWhile isNameRest
  if run = [] ∨ run.head? = some '_' then
    .error ⟨.missingValue radix, ⟨position, position + 1, Nat.le_succ position⟩⟩
  else
    match firstStray? radix (fun c => c != '_' && !radix.isDigit c) (position + 2) run with
    | some stray => .error stray
    | none => .ok ⟨.number, '0' :: mark :: run, .ofLength position (run.length + 2)⟩

/-- The judgement on a literal in base ten. Its run takes in letters, digits, underscores and
points. -/
def judgeDecimal (position : Nat) (source : Text) : Except Issue Token :=
  let run := source.takeWhile isDecimalRun
  match firstStray? .decimal Char.isAlpha position run with
  | some stray => .error stray
  | none =>
    if 2 ≤ run.count '.' then .error ⟨.manyPoints (run.count '.'), .ofLength position run.length⟩
    else .ok ⟨.number, run, .ofLength position run.length⟩

/-- The judgement on the literal at the head of a text that begins at the given offset: it is a
token, or there is something wrong with it. -/
def judge (position : Nat) : Text → Except Issue Token
  | '0' :: 'x' :: rest => judgeMarked .hexadecimal 'x' position rest
  | '0' :: 'b' :: rest => judgeMarked .binary 'b' position rest
  | source => judgeDecimal position source

/-! ### The whole run and its first part -/

/-- A whole run goes on with accepted characters up to the first stray one, which is a letter or
digit. -/
structure Parts (accepted whole isStray : Char → Bool) : Prop where
  whole_of_accepted : ∀ c, accepted c = true → whole c = true
  whole_of_alphanum : ∀ c, c.isAlphanum = true → whole c = true
  alphanum_of_refused : ∀ c, whole c = true → accepted c = false → c.isAlphanum = true
  stray_eq : ∀ c, whole c = true → isStray c = !accepted c

lemma parts_marked (radix : Radix) :
    Parts radix.isRun isNameRest fun c => c != '_' && !radix.isDigit c where
  whole_of_accepted := isNameRest_of_isRun
  whole_of_alphanum := isNameRest_of_isAlphanum
  alphanum_of_refused c hw ha := by
    rw [Radix.isRun, Bool.or_eq_false_iff] at ha
    simpa [isNameRest, ha.1] using hw
  stray_eq c _ := by simp [Radix.isRun, bne]

lemma parts_decimal : Parts isPointedRun isDecimalRun Char.isAlpha where
  whole_of_accepted := isDecimalRun_of_isPointedRun
  whole_of_alphanum := isDecimalRun_of_isAlphanum
  alphanum_of_refused c hw ha := by
    simp only [isPointedRun, Bool.or_eq_false_iff] at ha
    simpa [isDecimalRun, ha.1.2, ha.2] using hw
  stray_eq c hw := by
    have honly := of_isAscii (p := fun c => !isDecimalRun c || (c.isAlpha == !isPointedRun c))
      (by decide) (isAscii_of_isDecimalRun hw)
    simpa [hw] using honly

lemma firstStray?_cons (radix : Radix) (isStray : Char → Bool) (position : Nat) (c : Char)
    (run : Text) :
    firstStray? radix isStray position (c :: run) =
      if isStray c then some ⟨.invalidCharacter radix c, .single position⟩
      else firstStray? radix isStray (position + 1) run := by
  rw [firstStray?, List.zipIdx_cons, List.find?_cons]
  cases isStray c <;> rfl

section

variable {accepted whole isStray : Char → Bool} (h : Parts accepted whole isStray)
include h

/-- A character that is refused is a stray one if the whole run goes on with it. -/
lemma Parts.stray?_eq {c : Char} (ha : accepted c = false) (rest : Text) :
    stray? (c :: rest) = if whole c then some (c, rest) else none := by
  cases hw : whole c with
  | true =>
      rw [stray?_cons (h.alphanum_of_refused c hw ha)]
      rfl
  | false =>
      refine stray?_eq_none_iff.2 (stops_cons.2 ?_)
      cases halnum : c.isAlphanum with
      | false => rfl
      | true =>
          rw [h.whole_of_alphanum c halnum] at hw
          cases hw

/-- The first character out of place stands directly after the accepted ones. -/
lemma Parts.firstStray?_eq (radix : Radix) (position : Nat) (source : Text) :
    firstStray? radix isStray position (source.takeWhile whole) =
      (stray? (source.dropWhile accepted)).map fun e =>
        ⟨.invalidCharacter radix e.1, .single (position + (source.takeWhile accepted).length)⟩ := by
  induction source generalizing position with
  | nil => rfl
  | cons c rest ih =>
      cases ha : accepted c with
      | true =>
          have hw := h.whole_of_accepted c ha
          have hs : isStray c = false := by rw [h.stray_eq c hw, ha, Bool.not_true]
          have hplace : position + ((rest.takeWhile accepted).length + 1) =
              position + 1 + (rest.takeWhile accepted).length := by
            omega
          rw [List.takeWhile_cons_of_pos hw, List.takeWhile_cons_of_pos ha,
            List.dropWhile_cons_of_pos ha, firstStray?_cons, hs, if_neg Bool.false_ne_true,
            List.length_cons, hplace, ih]
      | false =>
          have hna : ¬ accepted c = true := by simp [ha]
          rw [List.dropWhile_cons_of_neg hna, List.takeWhile_cons_of_neg (p := accepted) hna,
            h.stray?_eq ha]
          cases hw : whole c with
          | true =>
              have hs : isStray c = true := by rw [h.stray_eq c hw, ha, Bool.not_false]
              rw [List.takeWhile_cons_of_pos hw, firstStray?_cons, if_pos hs]
              rfl
          | false =>
              rw [List.takeWhile_cons_of_neg (by simp [hw])]
              rfl

/-- A run with no character out of place is accepted as a whole. -/
lemma Parts.takeWhile_eq {source : Text} (hs : stray? (source.dropWhile accepted) = none) :
    source.takeWhile whole = source.takeWhile accepted := by
  have hstops : Stops whole (source.dropWhile accepted) := by
    intro c hc
    cases hw : whole c with
    | false => rfl
    | true =>
        have halnum := h.alphanum_of_refused c hw (stops_dropWhile accepted source c hc)
        rw [stray?_eq_none_iff.1 hs c hc] at halnum
        cases halnum
  calc source.takeWhile whole
      = (source.takeWhile accepted ++ source.dropWhile accepted).takeWhile whole := by
        rw [List.takeWhile_append_dropWhile]
    _ = source.takeWhile accepted :=
        Stops.takeWhile_append
          (fun c hc => h.whole_of_accepted c (List.mem_takeWhile_imp hc)) hstops

end

/-! ### Reading a number -/

/-- The judgement that a finding amounts to. -/
def judgement : Finding → Except Issue Token
  | .token t => .ok t
  | .issue i _ => .error i

/-- A value follows the mark of a base unless its run is empty or begins with an underscore. -/
lemma isSome_stray?_iff (rest : Text) :
    (stray? rest).isSome = true ↔
      ¬ (rest.takeWhile isNameRest = [] ∨ (rest.takeWhile isNameRest).head? = some '_') := by
  cases rest with
  | nil => simp [stray?]
  | cons c more =>
      cases halnum : c.isAlphanum with
      | true =>
          have hne : c ≠ '_' := by
            rintro rfl
            cases halnum
          simp [stray?, halnum, isNameRest, hne]
      | false =>
          by_cases hu : c = '_'
          · simp [stray?, isNameRest, hu]
          · simp [stray?, halnum, isNameRest, hu]

/-- A stray character is blamed where it stands, behind what precedes it. -/
lemma finding?_stray (radix : Radix) (c : Char) (lead beyond : Text) (position : Nat) :
    ((malformed (.invalidCharacter radix c) lead [c] beyond).1.finding? position).map judgement =
      some (.error ⟨.invalidCharacter radix c, .single (position + lead.length)⟩) :=
  rfl

/-- A literal with the mark of a base is judged by its whole run. -/
lemma finding?_ofMarked (radix : Radix) (mark : Char) (position : Nat) (rest : Text) :
    ((ofMarked radix mark rest).1.finding? position).map judgement =
      some (judgeMarked radix mark position rest) := by
  by_cases hvalue : (stray? rest).isSome = true
  · rw [ofMarked, if_pos hvalue, judgeMarked, if_neg ((isSome_stray?_iff rest).1 hvalue),
      (parts_marked radix).firstStray?_eq]
    dsimp only
    cases hs : stray? (rest.dropWhile radix.isRun) with
    | some e =>
        have hplace : position + ('0' :: mark :: rest.takeWhile radix.isRun).length =
            position + 2 + (rest.takeWhile radix.isRun).length := by
          simp only [List.length_cons]
          omega
        rw [← hplace]
        exact finding?_stray radix e.1 _ e.2 position
    | none =>
        rw [(parts_marked radix).takeWhile_eq hs]
        rfl
  · rw [ofMarked, if_neg hvalue, judgeMarked, if_pos]
    · rfl
    · rwa [isSome_stray?_iff, not_not] at hvalue

/-- A literal in base ten is judged by its whole run. -/
lemma finding?_ofDecimal (position : Nat) (source : Text) :
    ((ofDecimal source).1.finding? position).map judgement =
      some (judgeDecimal position source) := by
  rw [ofDecimal, judgeDecimal, parts_decimal.firstStray?_eq]
  cases hs : stray? (source.dropWhile isPointedRun) with
  | some e => exact finding?_stray .decimal e.1 _ e.2 position
  | none =>
      rw [parts_decimal.takeWhile_eq hs]
      dsimp only [Option.map_none]
      split
      · next many =>
        rw [if_pos (Nat.succ_le_of_lt many)]
        rfl
      · next few =>
        rw [if_neg fun many => few (Nat.lt_of_succ_le many)]
        rfl

/-- A number literal is judged by its whole run, whatever its form. -/
theorem finding?_ofNumber (position : Nat) (c : Char) (rest : Text) :
    ((ofNumber c rest).1.finding? position).map judgement = some (judge position (c :: rest)) := by
  unfold judge
  split
  · next run heq =>
    obtain ⟨rfl, rfl⟩ := List.cons.inj heq
    exact finding?_ofMarked .hexadecimal 'x' position run
  · next run heq =>
    obtain ⟨rfl, rfl⟩ := List.cons.inj heq
    exact finding?_ofMarked .binary 'b' position run
  · next hx hb =>
    rw [ofNumber_decimal]
    · exact finding?_ofDecimal position _
    · rintro rfl d hd
      obtain ⟨more, rfl⟩ := List.head?_eq_some_iff.1 hd
      rw [Radix.ofMark?]
      · rintro rfl
        exact hx more rfl
      · rintro rfl
        exact hb more rfl

end NumberLiteral

/-! ### One round -/

namespace Pass

/-- A round records what is read where it begins, whatever has been recorded before. -/
lemma step_tells {limit : Nat} {before rest : Text} {c : Char}
    (hl : before.length + (c :: rest).length + 1 < limit) (ts : List Token) (is : List Issue)
    (es : List Log.Event) :
    ∃ q, step limit ⟨.between before (c :: rest), ts, is, es⟩ = .ok q ∧
      q.tokens = ts ++
        (((Piece.read c rest).1.finding? before.length).bind Finding.token?).toList ∧
      q.issues = is ++
        (((Piece.read c rest).1.finding? before.length).bind Finding.issue?).toList := by
  cases hread : Piece.read c rest with
  | mk p after =>
      have hheads := heads_read c rest
      rw [hread] at hheads
      have hclassify := classify_eq c hl
      rw [hread] at hclassify
      rw [step, hclassify, Checked.ok_bind]
      cases p with
      | trivia text => exact ⟨_, rfl, (List.append_nil ts).symm, (List.append_nil is).symm⟩
      | token kind text => exact ⟨_, rfl, rfl, (List.append_nil is).symm⟩
      | fault kind lead covered skipped =>
          have hr := (stands_of_read hread).recovers
          have hlength : (lead ++ covered ++ skipped ++ after).length = (c :: rest).length :=
            congrArg List.length hheads
          simp only [List.length_append] at hlength
          refine ⟨_, recover_eq hr rfl ?_, (List.append_nil ts).symm, rfl⟩
          simp only [told, List.length_append]
          omega

end Pass

/-! ### Every literal -/

/-- **Every number literal is judged by its whole run.** Where a digit stands in a text, what is
read is the token or the issue that the judgement gives, and a round of a pass that begins there
records just that, whatever it has recorded before. -/
theorem step_number {source : Text} {i : Nat} {c : Char} (here : source[i]? = some c)
    (digit : c.isDigit = true) :
    ((Piece.read c (source.drop (i + 1))).1.finding? i).map NumberLiteral.judgement =
        some (NumberLiteral.judge i (source.drop i)) ∧
      ∀ limit ts is es, source.length + 1 < limit →
        ∃ q, Pass.step limit ⟨(Cursor.ofText source).advance i, ts, is, es⟩ = .ok q ∧
          match NumberLiteral.judge i (source.drop i) with
          | .ok t => q.tokens = ts ++ [t] ∧ q.issues = is
          | .error stray => q.tokens = ts ∧ q.issues = is ++ [stray] := by
  obtain ⟨hi, rfl⟩ := List.getElem?_eq_some_iff.1 here
  have hdrop := List.drop_eq_getElem_cons hi
  have hbefore : (source.take i).length = i := List.length_take_of_le (Nat.le_of_lt hi)
  have hfinding := NumberLiteral.finding?_ofNumber i source[i] (source.drop (i + 1))
  rw [← read_digit digit, ← hdrop] at hfinding
  refine ⟨hfinding, fun limit ts is es hl => ?_⟩
  have hcursor : (Cursor.ofText source).advance i =
      .between (source.take i) (source[i] :: source.drop (i + 1)) := by
    rw [← hdrop]
    exact congrArg (Cursor.mk · _) (List.append_nil _)
  have hroom : (source.take i).length + (source[i] :: source.drop (i + 1)).length + 1 < limit := by
    rw [← hdrop, hbefore, List.length_drop]
    omega
  obtain ⟨q, hstep, htokens, hissues⟩ := Pass.step_tells hroom ts is es
  refine ⟨q, hcursor ▸ hstep, ?_⟩
  rw [hbefore] at htokens hissues
  obtain ⟨f, hf, hjudge⟩ := Option.map_eq_some_iff.1 hfinding
  rw [hf] at htokens hissues
  rw [← hjudge]
  cases f with
  | token t => exact ⟨htokens, hissues.trans (List.append_nil is)⟩
  | issue stray skipped => exact ⟨htokens.trans (List.append_nil ts), hissues⟩

/-- A letter is blamed before the points on either side of it, at its own place. -/
theorem step_number_before_letter :
    "a=1..2a.3 ".toList[2]? = some '1' ∧
      NumberLiteral.judge 2 ("a=1..2a.3 ".toList.drop 2) =
        .error ⟨.invalidCharacter .decimal 'a', .single 6⟩ ∧
      ∃ q, Pass.step 20 ⟨(Cursor.ofText "a=1..2a.3 ".toList).advance 2, [], [], []⟩ = .ok q ∧
        q.tokens = [] ∧ q.issues = [⟨.invalidCharacter .decimal 'a', .single 6⟩] := by
  have hjudge : NumberLiteral.judge 2 ("a=1..2a.3 ".toList.drop 2) =
      .error ⟨.invalidCharacter .decimal 'a', .single 6⟩ := by
    decide
  have here : "a=1..2a.3 ".toList[2]? = some '1' := rfl
  obtain ⟨q, hstep, hq⟩ := (step_number here (by decide)).2 20 [] [] [] (by decide)
  rw [hjudge] at hq
  exact ⟨here, hjudge, q, hstep, hq⟩

end Lexical
