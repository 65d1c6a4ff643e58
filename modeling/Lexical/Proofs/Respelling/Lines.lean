import Lexical.Proofs.Quotation
import Lexical.Proofs.Respelling.Findings

/-!
The lines of respelled texts, and where issues stand on them.

* `Respelling.lineAt_text`: the line at the place that becomes of an offset is what becomes of the
  line at the offset, and has the same number.
* `Respelling.columns_text`: **an issue takes up the same columns**, as carriage returns are dropped
  at the ends of lines only.
-/

namespace Lexical.Respelling

open Character Grammar Line

variable {r : Respelling}

/-! ### Breaks -/

lemma asciiOnly_isBreak : AsciiOnly isBreak := by
  refine asciiOnly_of_class fun c h => ?_
  rcases isBreak_eq_true_iff.1 h with rfl | rfl <;> rfl

lemma isBreak_of_spell {c d : Char} (h : r.spell c = some d) : isBreak d = isBreak c :=
  asciiOnly_isBreak.eq_of_spell h

lemma exists_spell_of_isBreak {c : Char} (h : isBreak c = false) : ∃ d, r.spell c = some d := by
  rcases r.spell_cases c with ⟨d, hd, -⟩ | ⟨-, rfl⟩
  · exact ⟨d, hd⟩
  · cases h

/-- A text without breaks stays one, and keeps its length. -/
lemma unbroken_text {body : Text} (h : Unbroken body) :
    Unbroken (r.text body) ∧ (r.text body).length = body.length := by
  induction body with
  | nil => exact ⟨h, rfl⟩
  | cons c body ih =>
      obtain ⟨hbody, hlen⟩ := ih h.tail
      have hc := h c (List.mem_cons_self ..)
      obtain ⟨d, hd⟩ := exists_spell_of_isBreak (r := r) hc
      rw [text_cons hd, List.length_cons, hlen]
      refine ⟨?_, rfl⟩
      intro e he
      rcases List.mem_cons.1 he with rfl | he
      · rw [isBreak_of_spell hd, hc]
      · exact hbody e he

/-- A terminator stays one; its last character is not dropped. -/
lemma terminator_text {ending rest : Text} (ht : Terminator ending rest)
    (h : r.Fits (ending ++ rest)) :
    Terminator (r.text ending) (r.text rest) ∧
      ∃ init last d, ending = init ++ [last] ∧ r.spell last = some d := by
  have hfeed : r.spell '\n' = some '\n' := r.spell_ascii rfl (by decide)
  cases ht with
  | lineFeed _ =>
      rw [text_cons hfeed, text_nil]
      exact ⟨.lineFeed _, [], '\n', '\n', rfl, hfeed⟩
  | pair _ =>
      refine ⟨?_, ['\r'], '\n', '\n', rfl, hfeed⟩
      cases hspell : r.spell '\r' with
      | none =>
          rw [text_cons_none hspell, text_cons hfeed, text_nil]
          exact .lineFeed _
      | some d =>
          obtain rfl : d = '\r' := eq_of_spell_ascii hspell (.inr rfl)
          rw [text_cons hspell, text_cons hfeed, text_nil]
          exact .pair _
  | carriageReturn alone =>
      cases hspell : r.spell '\r' with
      | none =>
          obtain ⟨more, rfl⟩ := h.exists_lineFeed hspell
          exact absurd rfl alone
      | some d =>
          obtain rfl : d = '\r' := eq_of_spell_ascii hspell (.inr rfl)
          rw [text_cons hspell, text_nil]
          refine ⟨.carriageReturn fun hhead => alone ?_, [], '\r', '\r', rfl, hspell⟩
          cases rest with
          | nil => cases hhead
          | cons c more =>
              obtain ⟨e, he⟩ : ∃ e, r.spell c = some e := by
                rcases r.spell_cases c with ⟨e, he, -⟩ | ⟨-, rfl⟩
                · exact ⟨e, he⟩
                · exact ⟨_, hspell⟩
              rw [text_cons he, List.head?_cons, Option.some.injEq] at hhead
              rw [List.head?_cons, (eq_iff_of_spell he rfl).1 hhead]

/-! ### The line at an offset -/

/-- What becomes of a line of a text. -/
def line (r : Respelling) (source : Text) (l : Line) : Line :=
  ⟨l.number, (r.text (source.take l.start)).length, r.text l.text⟩

/-- What is visible of a line is respelled by itself. -/
lemma visible_line (source : Text) (l : Line) : (r.line source l).visible = r.text l.visible := by
  rw [visible, visible, line]
  induction l.text with
  | nil => rfl
  | cons c more ih =>
      rcases r.spell_cases c with ⟨d, hd, -⟩ | ⟨hnone, rfl⟩
      · rw [text_cons hd, List.filter_cons, List.filter_cons, isBreak_of_spell hd, ih]
        cases isBreak c with
        | true => rfl
        | false => exact (text_cons hd _).symm
      · rw [text_cons_none hnone, ih, List.filter_cons_of_neg (by decide)]

lemma line_after (a b : Text) (l : Line) :
    (r.line b l).after (r.text a).length = r.line (a ++ b) (l.after a.length) := by
  rw [line, Line.after, line, Line.after, Line.mk.injEq]
  refine ⟨rfl, ?_, rfl⟩
  rw [Nat.add_comm l.start, List.take_length_add_append, text_append, List.length_append,
    Nat.add_comm]

/-- **The line at an offset** becomes the line at what becomes of the offset. -/
theorem lineAt_text {source : Text} (h : r.Fits source) (p : Nat) :
    lineAt (r.text source) (r.text (source.take p)).length = r.line source (lineAt source p) := by
  induction source using Line.induction generalizing p with
  | last body hb =>
      rw [lineAt_unbroken hb, lineAt_unbroken (unbroken_text hb).1]
      rfl
  | line body ending rest hb he ih =>
      have hrest : r.Fits rest := h.right
      rw [List.append_assoc] at h
      obtain ⟨hterm, init, last, d, hlast, hspell⟩ := terminator_text he h.right
      rw [text_append, text_append, lineAt_line_append (unbroken_text hb).1 hterm,
        lineAt_line_append hb he, ← text_append]
      by_cases hp : p < (body ++ ending).length
      · -- what ends the line is not dropped as a whole, so that the offset stays on the line
        have hsplit : r.text (body ++ ending) =
            r.text ((body ++ ending).take p) ++ r.text ((body ++ ending).drop p) := by
          rw [← text_append, List.take_append_drop]
        have hmem : d ∈ r.text ((body ++ ending).drop p) := by
          rw [hlast, ← List.append_assoc, List.length_append, List.length_singleton] at hp
          rw [hlast, ← List.append_assoc, List.drop_append_of_le_length (by omega), text_append,
            text_cons hspell]
          exact List.mem_append_right _ (List.mem_cons_self ..)
        have hpos := List.length_pos_of_mem hmem
        rw [if_pos hp, List.take_append_of_le_length (Nat.le_of_lt hp), if_pos]
        · rfl
        · rw [hsplit, List.length_append]
          omega
      · obtain ⟨q, rfl⟩ := Nat.exists_eq_add_of_le (Nat.le_of_not_lt hp)
        rw [if_neg hp, Nat.add_sub_cancel_left, List.take_length_add_append, text_append,
          List.length_append, if_neg (by omega), Nat.add_sub_cancel_left, ih hrest q, line_after]

/-! ### Issues on their lines -/

/-- The line that an issue begins on. -/
lemma lineAt_issue {source : Text} (h : r.Fits source) (i : Issue) :
    lineAt (r.text source) (r.issue source i).interval.first =
      r.line source (lineAt source i.interval.first) :=
  lineAt_text h i.interval.first

/-- Of the first `n` characters of a text, those before the first break stay. -/
lemma min_length_text_take {body : Text} (h : Unbroken body) (rest : Text) (n : Nat) :
    min (r.text ((body ++ rest).take n)).length body.length = min n body.length := by
  have htake := h.of_subset (List.take_subset n body)
  rw [List.take_append, text_append, List.length_append, (unbroken_text htake).2, List.length_take]
  by_cases hn : n ≤ body.length
  · rw [Nat.sub_eq_zero_of_le hn, List.take_zero, text_nil, List.length_nil]
    omega
  · omega

section Cut

variable {source before body ending rest : Text} {i : Interval} {k : Nat}
  (hcut : Cut source i.first before body ending rest) (hk : i.first = before.length + k)
  (hle : k ≤ body.length)
include hcut hk hle

/-- An interval begins as far behind the beginning of its line as before. -/
lemma first_interval : (r.interval source i).first = (r.text before).length + k := by
  have htake := hcut.unbroken.of_subset (List.take_subset k body)
  rw [interval, Interval.first_ofLength, hk, hcut.whole, List.take_length_add_append,
    List.append_assoc, List.take_append_of_le_length hle, text_append, List.length_append,
    (unbroken_text htake).2, List.length_take_of_le hle]

/-- It covers as many of the visible characters of the line. -/
lemma min_length_text_lookup :
    min (r.text (i.lookup source)).length (body.length - k) = min i.length (body.length - k) := by
  have hdrop := hcut.unbroken.of_subset (List.drop_subset k body)
  have hlookup : i.lookup source = (body.drop k ++ (ending ++ rest)).take i.length := by
    rw [Interval.lookup, hk, hcut.whole, List.drop_length_add_append, List.append_assoc,
      List.drop_append_of_le_length hle]
  rw [hlookup, ← List.length_drop]
  exact min_length_text_take hdrop (ending ++ rest) i.length

end Cut

/-- The columns of an interval that begins in the column `k`. -/
lemma columns_of_first {l : Line} {i : Interval} {k : Nat} (hk : i.first = l.start + k)
    (hlt : k < l.visible.length) : l.columns i = ⟨k, min i.length (l.visible.length - k)⟩ := by
  have hle := i.first_le_last
  rw [columns_eq (by omega) (by omega), Columns.mk.injEq, Interval.length]
  omega

/-- **An issue takes up the same columns of its line.** -/
theorem columns_text {source : Text} (h : r.Fits source) {i : Issue} (hi : i ∈ issues source) :
    (lineAt (r.text source) (r.issue source i).interval.first).columns
        (r.issue source i).interval =
      (lineAt source i.interval.first).columns i.interval := by
  obtain ⟨before, body, ending, rest, hcut, hline, hstart, hend⟩ := exists_cut_of_mem_issues hi
  obtain ⟨k, hk⟩ := Nat.exists_eq_add_of_le hstart
  have hlt : k < body.length := by omega
  have hvisible : (lineAt source i.interval.first).visible = body := by
    rw [hline, hcut.visible_eq]
  have hvisible' : (r.line source (lineAt source i.interval.first)).visible.length =
      body.length := by
    rw [visible_line, hvisible, (unbroken_text hcut.unbroken).2]
  have hfirst : (r.issue source i).interval.first =
      (r.line source (lineAt source i.interval.first)).start + k := by
    rw [line, hline, hcut.whole, List.take_left, ← hcut.whole]
    exact first_interval hcut hk (Nat.le_of_lt hlt)
  have hcovered := min_length_text_lookup (r := r) hcut hk (Nat.le_of_lt hlt)
  have hpos : 0 < (r.text (i.interval.lookup source)).length := by
    rw [Interval.length] at hcovered
    omega
  have hlen : (r.issue source i).interval.length = (r.text (i.interval.lookup source)).length :=
    Interval.length_ofLength _ hpos
  rw [lineAt_issue h, columns_of_first hfirst (by rwa [hvisible']), hvisible', hlen, hcovered,
    columns_of_first (by rw [hline, hk]) (by rwa [hvisible]), hvisible]

end Lexical.Respelling
