import Lexical.Grammar.Runs
import Lexical.Line
import Mathlib.Data.Nat.Count

/-!
The lines of a text, and the line at an offset.

* `Line.Terminator`: what ends a line in view of the text after it; `Line.EndsAt`: the offset of
  its last character.
* `Line.induction`: a text is one line without a break, or such a line with its terminator before
  another text.
* `lineAt_line_append`: the line at an offset is the first one or a line of the text after it.
* `Line.exists_cut`: **what the line at an offset is**: the text between two terminators, with the
  one that ends it, numbered by the terminators that end before the offset.
* `Line.columns_eq`: the columns of an interval that begins on the visible part of a line.
-/

namespace Lexical

namespace Line

/-! ### Terminators -/

/-- A text without breaks, as it is visible on one line. -/
def Unbroken (body : Text) : Prop := ∀ c ∈ body, isBreak c = false

/-- What ends a line when `rest` follows: a line feed, a carriage return and a line feed, or a
carriage return that no line feed follows. -/
inductive Terminator : Text → Text → Prop
  | lineFeed (rest : Text) : Terminator ['\n'] rest
  | pair (rest : Text) : Terminator ['\r', '\n'] rest
  | carriageReturn {rest : Text} (alone : rest.head? ≠ some '\n') : Terminator ['\r'] rest

/-- The character at an offset is the last one of a terminator: a line feed, or a carriage return
that no line feed follows. -/
def EndsAt (source : Text) (j : Nat) : Prop :=
  source[j]? = some '\n' ∨ source[j]? = some '\r' ∧ source[j + 1]? ≠ some '\n'

instance (source : Text) : DecidablePred (EndsAt source) := fun _ =>
  inferInstanceAs (Decidable (_ ∨ _))

/-- The number of terminators whose last character has an offset below `p`. -/
def endsBefore (source : Text) (p : Nat) : Nat := Nat.count (EndsAt source) p

lemma isBreak_eq_true_iff {c : Char} : isBreak c = true ↔ c = '\n' ∨ c = '\r' := by
  simp [isBreak]

lemma Unbroken.of_subset {part body : Text} (h : Unbroken body) (hp : part ⊆ body) :
    Unbroken part := fun c hc => h c (hp hc)

lemma Unbroken.tail {c : Char} {body : Text} (h : Unbroken (c :: body)) : Unbroken body :=
  h.of_subset (List.subset_cons_self c body)

/-- Where a text has no break, no line ends. -/
lemma Unbroken.not_endsAt {body : Text} (h : Unbroken body) (rest : Text) {j : Nat}
    (hj : j < body.length) : ¬ EndsAt (body ++ rest) j := by
  have hget : (body ++ rest)[j]? = some body[j] := by
    rw [List.getElem?_append_left hj, List.getElem?_eq_getElem hj]
  have hc := h body[j] (List.getElem_mem hj)
  rintro (hlf | ⟨hcr, -⟩)
  · rw [hget, Option.some.injEq] at hlf
    rw [hlf] at hc
    cases hc
  · rw [hget, Option.some.injEq] at hcr
    rw [hcr] at hc
    cases hc

/-- Terminators of the second part of a text. -/
lemma endsAt_append (a b : Text) (k : Nat) : EndsAt (a ++ b) (a.length + k) ↔ EndsAt b k := by
  rw [EndsAt, EndsAt, List.getElem?_append_right (Nat.le_add_right _ _),
    List.getElem?_append_right (by omega), Nat.add_sub_cancel_left, Nat.add_assoc,
    Nat.add_sub_cancel_left]

lemma not_endsAt_of_length_le {source : Text} {j : Nat} (h : source.length ≤ j) :
    ¬ EndsAt source j := by
  rw [EndsAt, List.getElem?_eq_none h]
  rintro (hlf | ⟨hcr, -⟩)
  · cases hlf
  · cases hcr

/-- A terminator ends with its last character and nowhere else. -/
lemma Terminator.endsAt_iff {ending rest : Text} (h : Terminator ending rest) {j : Nat}
    (hj : j < ending.length) : EndsAt (ending ++ rest) j ↔ j + 1 = ending.length := by
  cases h with
  | lineFeed _ =>
      obtain rfl : j = 0 := by simpa using hj
      simp [EndsAt]
  | pair _ =>
      obtain rfl | rfl : j = 0 ∨ j = 1 := by
        simp only [List.length_cons, List.length_nil] at hj
        omega
      · simp [EndsAt]
      · simp [EndsAt]
  | carriageReturn alone =>
      obtain rfl : j = 0 := by simpa using hj
      rw [List.head?_eq_getElem?] at alone
      simp [EndsAt, alone]

lemma Terminator.ne_nil {ending rest : Text} (h : Terminator ending rest) : ending ≠ [] := by
  cases h <;> exact List.cons_ne_nil _ _

/-- A terminator consists of breaks. -/
lemma Terminator.isBreak_of_mem {ending rest : Text} (h : Terminator ending rest) :
    ∀ c ∈ ending, isBreak c = true := by
  cases h <;> simp [isBreak]

/-- A line ends with the last character of its terminator and nowhere else. -/
lemma endsAt_line_iff {body ending rest : Text} (hb : Unbroken body) (he : Terminator ending rest)
    {j : Nat} (hj : j < (body ++ ending).length) :
    EndsAt ((body ++ ending) ++ rest) j ↔ j + 1 = (body ++ ending).length := by
  rw [List.length_append] at hj ⊢
  rw [List.append_assoc]
  by_cases hlt : j < body.length
  · have hno := hb.not_endsAt (ending ++ rest) hlt
    have hpos := List.length_pos_iff.2 he.ne_nil
    constructor
    · exact fun h => absurd h hno
    · omega
  · obtain ⟨k, rfl⟩ := Nat.exists_eq_add_of_le (Nat.le_of_not_lt hlt)
    rw [endsAt_append, he.endsAt_iff (by omega)]
    omega

/-! ### Line by line -/

/-- **A text is one line without a break, or such a line with its terminator before another
text.** -/
theorem induction {motive : Text → Prop} (last : ∀ body, Unbroken body → motive body)
    (line : ∀ body ending rest, Unbroken body → Terminator ending rest → motive rest →
      motive ((body ++ ending) ++ rest)) (source : Text) : motive source := by
  induction hn : source.length using Nat.strong_induction_on generalizing source with
  | _ n ih =>
      have hsplit := List.takeWhile_append_dropWhile (p := fun c => !isBreak c) (l := source)
      have hbody : Unbroken (source.takeWhile fun c => !isBreak c) := by
        intro c hc
        have hnot := List.mem_takeWhile_imp hc
        rwa [Bool.not_eq_true'] at hnot
      have hlen := congrArg List.length hsplit
      rw [List.length_append] at hlen
      cases hrest : source.dropWhile fun c => !isBreak c with
      | nil =>
          rw [hrest, List.append_nil] at hsplit
          rw [← hsplit]
          exact last _ hbody
      | cons c more =>
          rw [hrest] at hsplit
          rw [hrest, List.length_cons] at hlen
          have hc : isBreak c = true := by
            have hstop := Grammar.stops_dropWhile (fun c => !isBreak c) source
            rw [hrest, Grammar.stops_cons] at hstop
            rwa [Bool.not_eq_false'] at hstop
          rcases isBreak_eq_true_iff.1 hc with rfl | rfl
          · have hline := line _ _ more hbody (.lineFeed more) (ih _ (by omega) more rfl)
            rw [List.append_assoc] at hline
            rwa [← hsplit]
          · by_cases hlf : more.head? = some '\n'
            · obtain ⟨rest, rfl⟩ := List.head?_eq_some_iff.1 hlf
              rw [List.length_cons] at hlen
              have hline := line _ _ rest hbody (.pair rest) (ih _ (by omega) rest rfl)
              rw [List.append_assoc] at hline
              rwa [← hsplit]
            · have hline := line _ _ more hbody (.carriageReturn hlf) (ih _ (by omega) more rfl)
              rw [List.append_assoc] at hline
              rwa [← hsplit]

/-- A character that is no break goes to the head of the first line. -/
lemma split_plain {c : Char} (h : isBreak c = false) (rest : Text) :
    split (c :: rest) = (split rest).modifyHead (c :: ·) := by
  have hlf : c ≠ '\n' := by
    rintro rfl
    cases h
  have hcr : c ≠ '\r' := by
    rintro rfl
    cases h
  rw [split] <;> grind

lemma split_unbroken_append {body : Text} (h : Unbroken body) (rest : Text) :
    split (body ++ rest) = (split rest).modifyHead (body ++ ·) := by
  induction body with
  | nil =>
      rw [List.nil_append]
      cases split rest <;> rfl
  | cons c body ih =>
      rw [List.cons_append, split_plain (h c (List.mem_cons_self ..)), ih h.tail]
      cases split rest <;> rfl

/-- A text without breaks is one line. -/
lemma split_unbroken {body : Text} (h : Unbroken body) : split body = [body] := by
  have hsplit := split_unbroken_append h []
  rwa [List.append_nil, split, List.modifyHead_cons, List.append_nil] at hsplit

lemma Terminator.split_append {ending rest : Text} (h : Terminator ending rest) :
    split (ending ++ rest) = ending :: split rest := by
  cases h with
  | lineFeed _ => rw [List.singleton_append, split]
  | pair _ => rw [List.cons_append, List.singleton_append, split]
  | carriageReturn alone =>
      rw [List.singleton_append, split]
      rintro rest rfl
      exact alone rfl

/-- A line with its terminator is cut off from the text after it. -/
lemma split_line_append {body ending rest : Text} (hb : Unbroken body)
    (he : Terminator ending rest) :
    split ((body ++ ending) ++ rest) = (body ++ ending) :: split rest := by
  rw [List.append_assoc, split_unbroken_append hb, he.split_append, List.modifyHead_cons]

/-! ### The line at an offset -/

/-- The same line in a text with one more line of `k` characters in front. -/
def after (k : Nat) (line : Line) : Line := ⟨line.number + 1, line.start + k, line.text⟩

lemma numberFrom_after (k number start : Nat) (texts : List Text) :
    numberFrom (number + 1) (start + k) texts = (numberFrom number start texts).map (after k) := by
  induction texts generalizing number start with
  | nil => rfl
  | cons text rest ih =>
      rw [numberFrom, numberFrom, List.map_cons, ← ih, Nat.add_right_comm start]
      rfl

lemma covers_after (k p : Nat) (line : Line) :
    (line.after k).covers (p + k) = line.covers p := by
  simp only [covers, after]
  congr 1
  · exact decide_eq_decide.2 (by omega)
  · exact decide_eq_decide.2 (by omega)

lemma covers_first (number : Nat) (text : Text) (p : Nat) :
    (⟨number, 0, text⟩ : Line).covers p = decide (p < text.length) := by
  rw [covers, Nat.zero_add, decide_eq_true (Nat.zero_le p), Bool.true_and]

end Line

open Line

/-- A text without breaks is the line at every offset. -/
lemma lineAt_unbroken {body : Text} (h : Unbroken body) (p : Nat) :
    lineAt body p = ⟨1, 0, body⟩ := by
  have hall : Line.all body = [⟨1, 0, body⟩] := by
    rw [Line.all, split_unbroken h]
    rfl
  simp only [lineAt, hall, List.getLast_singleton, List.find?_cons, List.find?_nil]
  cases (⟨1, 0, body⟩ : Line).covers p <;> rfl

/-- The lines of a text whose first line has a terminator. -/
lemma all_line_append {body ending rest : Text} (hb : Unbroken body) (he : Terminator ending rest) :
    Line.all ((body ++ ending) ++ rest) =
      ⟨1, 0, body ++ ending⟩ :: (Line.all rest).map (Line.after (body ++ ending).length) := by
  rw [Line.all, split_line_append hb he, numberFrom, Line.all, ← numberFrom_after, Nat.zero_add]

/-- The line at an offset is the first one, or a line of the text after it. -/
lemma lineAt_line_append {body ending rest : Text} (hb : Unbroken body)
    (he : Terminator ending rest) (p : Nat) :
    lineAt ((body ++ ending) ++ rest) p =
      if p < (body ++ ending).length then ⟨1, 0, body ++ ending⟩
      else (lineAt rest (p - (body ++ ending).length)).after (body ++ ending).length := by
  have hall := all_line_append hb he
  have hlast : (Line.all ((body ++ ending) ++ rest)).getLast (all_ne_nil _) =
      ((Line.all rest).getLast (all_ne_nil rest)).after (body ++ ending).length := by
    simp only [hall]
    rw [List.getLast_cons (by simpa using all_ne_nil rest), List.getLast_map]
  rw [lineAt, hlast, hall, List.find?_cons]
  by_cases hp : p < (body ++ ending).length
  · rw [covers_first, decide_eq_true hp, if_pos hp]
    rfl
  · rw [covers_first, decide_eq_false hp, if_neg hp]
    obtain ⟨q, rfl⟩ := Nat.exists_eq_add_of_le' (Nat.le_of_not_lt hp)
    rw [List.find?_map, Nat.add_sub_cancel, lineAt,
      show (Line.covers · (q + (body ++ ending).length)) ∘ Line.after (body ++ ending).length =
        (Line.covers · q) from funext (covers_after _ q)]
    cases (Line.all rest).find? (Line.covers · q) <;> rfl

namespace Line

/-- How the line at the offset `p` is cut out of a text: the text before it, its visible part, what
ends it, and the text after it. The line covers the offset, unless that lies past the end of the
text, where it is the last line, which nothing ends. -/
structure Cut (source : Text) (p : Nat) (before body ending rest : Text) : Prop where
  whole : source = before ++ ((body ++ ending) ++ rest)
  unbroken : Unbroken body
  ended : Terminator ending rest ∨ ending = [] ∧ rest = []
  begins : before = [] ∨ EndsAt source (before.length - 1)
  covers : before.length ≤ p ∧ p < before.length + (body ++ ending).length ∨
    source.length ≤ p ∧ ending = []

/-- A cut stays one behind one more line. -/
lemma Cut.after {source before body ending rest line : Text} {p : Nat}
    (h : Cut source p before body ending rest) (hl : EndsAt (line ++ source) (line.length - 1)) :
    Cut (line ++ source) (line.length + p) (line ++ before) body ending rest := by
  refine ⟨?_, h.unbroken, h.ended, .inr ?_, ?_⟩
  · rw [List.append_assoc line before, ← h.whole]
  · rcases h.begins with rfl | hends
    · rwa [List.append_nil]
    · cases before with
      | nil => rwa [List.append_nil]
      | cons c more =>
          rw [List.length_append, Nat.add_sub_assoc (by simp), endsAt_append]
          exact hends
  · refine h.covers.imp (fun hp => ?_) fun ⟨hp, hnil⟩ => ⟨?_, hnil⟩
    · rw [List.length_append]
      omega
    · rw [List.length_append]
      omega

/-- The line that follows a number of terminators. -/
lemma endsBefore_line_append {body ending rest : Text} (hb : Unbroken body)
    (he : Terminator ending rest) (p : Nat) :
    endsBefore ((body ++ ending) ++ rest) p =
      if p < (body ++ ending).length then 0
      else endsBefore rest (p - (body ++ ending).length) + 1 := by
  have hpos : 0 < (body ++ ending).length := by
    have hne := List.length_pos_iff.2 he.ne_nil
    rw [List.length_append]
    omega
  have hnone : ∀ n < (body ++ ending).length,
      Nat.count (EndsAt ((body ++ ending) ++ rest)) n = 0 := by
    intro n hn
    refine Nat.count_of_forall_not fun j hj hends => ?_
    rw [endsAt_line_iff hb he (by omega)] at hends
    omega
  split
  · next hp => exact hnone p hp
  · next hp =>
    obtain ⟨q, rfl⟩ := Nat.exists_eq_add_of_le (Nat.le_of_not_lt hp)
    obtain ⟨n, hn⟩ := Nat.exists_eq_add_of_lt hpos
    have hlast : EndsAt ((body ++ ending) ++ rest) n := (endsAt_line_iff hb he (by omega)).2 (by omega)
    calc Nat.count (EndsAt ((body ++ ending) ++ rest)) ((body ++ ending).length + q)
        = Nat.count (EndsAt ((body ++ ending) ++ rest)) (n + 1) +
            Nat.count (fun k => EndsAt ((body ++ ending) ++ rest) ((body ++ ending).length + k)) q := by
          rw [Nat.count_add]
          congr 2
          omega
      _ = 1 + endsBefore rest q := by
          rw [Nat.count_succ, hnone n (by omega), if_pos hlast, endsBefore]
          simp only [endsAt_append]
      _ = endsBefore rest ((body ++ ending).length + q - (body ++ ending).length) + 1 := by
          rw [Nat.add_sub_cancel_left, Nat.add_comm]

lemma endsBefore_unbroken {body : Text} (h : Unbroken body) (p : Nat) : endsBefore body p = 0 := by
  refine Nat.count_of_forall_not fun j _ => ?_
  by_cases hj : j < body.length
  · have hno := h.not_endsAt [] hj
    rwa [List.append_nil] at hno
  · exact not_endsAt_of_length_le (Nat.le_of_not_lt hj)

/-- **The line at an offset** lies between two terminators and is numbered by those that end before
the offset. -/
theorem exists_cut (source : Text) (p : Nat) :
    ∃ before body ending rest, Cut source p before body ending rest ∧
      lineAt source p = ⟨endsBefore source p + 1, before.length, body ++ ending⟩ := by
  induction source using Line.induction generalizing p with
  | last body hb =>
      refine ⟨[], body, [], [], ⟨by simp, hb, .inr ⟨rfl, rfl⟩, .inl rfl, ?_⟩, ?_⟩
      · rw [List.append_nil, List.length_nil, Nat.zero_add]
        exact (Nat.lt_or_ge p body.length).imp (⟨Nat.zero_le p, ·⟩) (⟨·, rfl⟩)
      · rw [lineAt_unbroken hb, endsBefore_unbroken hb, List.append_nil]
        rfl
  | line body ending rest hb he ih =>
      rw [lineAt_line_append hb he, endsBefore_line_append hb he]
      split
      · next hp =>
        refine ⟨[], body, ending, rest, ⟨rfl, hb, .inl he, .inl rfl, .inl ⟨Nat.zero_le p, ?_⟩⟩, rfl⟩
        rwa [List.length_nil, Nat.zero_add]
      · next hp =>
        obtain ⟨q, rfl⟩ := Nat.exists_eq_add_of_le (Nat.le_of_not_lt hp)
        obtain ⟨before, b, e, r, hcut, heq⟩ := ih q
        have hpos := List.length_pos_iff.2 he.ne_nil
        have hlen : (body ++ ending).length = body.length + ending.length := List.length_append
        have hlast : EndsAt ((body ++ ending) ++ rest) ((body ++ ending).length - 1) :=
          (endsAt_line_iff hb he (by omega)).2 (by omega)
        refine ⟨_, b, e, r, hcut.after hlast, ?_⟩
        have hstart : ((body ++ ending) ++ before).length = before.length + (body ++ ending).length := by
          rw [List.length_append, Nat.add_comm]
        rw [Nat.add_sub_cancel_left, heq, Line.after, hstart]

/-! ### The visible part of a line -/

/-- What is visible of a line is its text without the breaks at its end. -/
lemma visible_append {body ending : Text} (hb : Unbroken body)
    (he : ∀ c ∈ ending, isBreak c = true) (number start : Nat) :
    (⟨number, start, body ++ ending⟩ : Line).visible = body := by
  have hbody : body.filter (fun c => !isBreak c) = body := by
    refine List.filter_eq_self.2 fun c hc => ?_
    rw [hb c hc]
    rfl
  have hnone : ending.filter (fun c => !isBreak c) = [] := by
    refine List.filter_eq_nil_iff.2 fun c hc => ?_
    rw [he c hc]
    exact Bool.false_ne_true
  rw [visible, List.filter_append, hbody, hnone, List.append_nil]

lemma Cut.visible_eq {source before body ending rest : Text} {p : Nat}
    (h : Cut source p before body ending rest) (number start : Nat) :
    (⟨number, start, body ++ ending⟩ : Line).visible = body := by
  refine visible_append h.unbroken ?_ number start
  rcases h.ended with hterm | ⟨rfl, -⟩
  · exact hterm.isBreak_of_mem
  · exact List.forall_mem_nil _

/-- The columns of an interval that begins on the visible part of a line: they end with it. -/
lemma columns_eq {line : Line} {i : Interval} (hstart : line.start ≤ i.first)
    (hend : i.first < line.start + line.visible.length) :
    line.columns i = ⟨i.first - line.start,
      min i.last (line.start + line.visible.length - 1) + 1 - i.first⟩ := by
  have hle := i.first_le_last
  rw [columns, Columns.mk.injEq]
  omega

end Line

end Lexical
