import Lexical.Program
import Lexical.Proofs.Diagnosis
import Lexical.Proofs.Lines
import Lexical.Proofs.Writing

/-!
Reports point at the right characters.

* `Report.LineText`, `Report.PointsAt`: what the two lines of a report on an issue have to show,
  in terms of the offsets of the source.
* `exists_first`: an issue begins on a character that is visible.
* `Report.Row.pointsAt`: so its row shows it.
* `output_points`: **what is printed for a text with issues**: two lines for each issue and one with
  their number, with carets under the characters to blame.
-/

namespace Lexical

open Character Grammar Line

/-! ### What a report has to show -/

namespace Report

/-- `text` begins at the offset `start` and is the line that the offset `p` lies on, without its
terminator: it has no break, and the text or another line ends before it, and the text or a
terminator begins after it. -/
structure LineText (source : Text) (p start : Nat) (text : Text) : Prop where
  stands : (source.drop start).take text.length = text
  holds : start ≤ p ∧ p < start + text.length
  unbroken : ∀ c ∈ text, c ≠ '\n' ∧ c ≠ '\r'
  begins : start = 0 ∨ EndsAt source (start - 1)
  ends : ∀ c, source[start + text.length]? = some c → c = '\n' ∨ c = '\r'

/-- Two lines of a report point at an issue. The first is the number and the text of the line that
the issue begins on. In the second there are carets from below the first character to blame on; the
characters above them are those to blame, up to the end of that line. -/
structure PointsAt (source : Text) (i : Issue) (quotation pointer : Text) (start : Nat) (text : Text)
    (column width : Nat) : Prop where
  line : LineText source i.interval.first start text
  quotation_eq : quotation =
    Nat.toDigits 10 (endsBefore source i.interval.first + 1) ++ "| ".toList ++ text
  pointer_eq : ∃ padding, padding.length = column ∧ '^' ∉ padding ∧
    pointer = padding ++ List.replicate width '^' ++ "--- ".toList ++ i.message
  column_eq : column = quotation.length - text.length + (i.interval.first - start)
  width_pos : 0 < width
  within : column + width ≤ quotation.length
  above : (quotation.drop column).take width =
    (source.drop i.interval.first).take
      (min i.interval.last (start + text.length - 1) + 1 - i.interval.first)

end Report

/-! ### Issues begin on visible characters -/

lemma isBreak_of_isAlphanum {c : Char} (h : c.isAlphanum = true) : isBreak c = false := by
  cases hb : isBreak c with
  | false => rfl
  | true => rcases isBreak_eq_true_iff.1 hb with rfl | rfl <;> cases h

/-- A character to blame first is no break. -/
lemma Grammar.Fault.exists_first {kind : Issue.Kind} {lead covered skipped rest : Text}
    (h : Fault kind lead covered skipped rest) :
    ∃ c, covered.head? = some c ∧ isBreak c = false := by
  cases h with
  | unclosedString _ => exact ⟨_, rfl, rfl⟩
  | unclosedComment _ => exact ⟨_, rfl, rfl⟩
  | missingValue _ _ _ => exact ⟨_, rfl, rfl⟩
  | strayInMarked _ _ _ stray _ _ => exact ⟨_, rfl, isBreak_of_isAlphanum stray⟩
  | strayInDecimal _ _ stray _ _ _ => exact ⟨_, rfl, isBreak_of_isAlphanum stray⟩
  | manyPoints is_digit _ _ _ _ =>
      have hdecimal : Radix.decimal.isDigit _ = true := is_digit
      exact ⟨_, rfl, isBreak_of_isAlphanum (isAlphanum_of_isDigit hdecimal)⟩

/-- **An issue begins on a character that is no break.** -/
lemma exists_first {source : Text} {i : Issue} (h : i ∈ issues source) :
    ∃ c, source[i.interval.first]? = some c ∧ isBreak c = false := by
  obtain ⟨is, js, hsplit⟩ := List.append_of_mem h
  obtain ⟨before, lead, covered, skipped, rest, rfl, hfault, hplace, -, -⟩ :=
    exists_fault_of_issues_eq hsplit
  obtain ⟨c, hc, hbreak⟩ := hfault.exists_first
  refine ⟨c, ?_, hbreak⟩
  have hget := getElem?_at before lead covered skipped rest 0
  rw [Nat.add_zero] at hget
  rw [hplace, Interval.first_ofLength, hget, ← List.head?_eq_getElem?, List.head?_append, hc]
  rfl

/-- The wording of an issue is one line. -/
lemma lineFeed_not_mem_message {source : Text} {i : Issue} (h : i ∈ issues source) :
    '\n' ∉ i.message := by
  have hj := justified_of_mem_issues h
  rw [Issue.Justified] at hj
  rw [Issue.message]
  cases hk : i.kind with
  | unclosedString => decide +kernel
  | unclosedComment => decide +kernel
  | manyPoints count =>
      have hhead : '\n' ∉ "Number literal has multiple (".toList := by decide +kernel
      have htail : '\n' ∉ ") decimal points".toList := by decide +kernel
      exact List.not_mem_append
        (List.not_mem_append hhead (Text.lineFeed_not_mem_decimal count)) htail
  | missingValue radix => cases radix <;> decide +kernel
  | invalidCharacter radix c =>
      rw [hk] at hj
      have hc : '\n' ∉ [c] := by
        rw [List.mem_singleton]
        rintro rfl
        cases hj.2.2.1
      have hhead : '\n' ∉ "Invalid character \"".toList := by decide +kernel
      have hmiddle : '\n' ∉ "\" in ".toList := by decide +kernel
      have hname : '\n' ∉ radix.name := by cases radix <;> decide +kernel
      have htail : '\n' ∉ " literal".toList := by decide +kernel
      exact List.not_mem_append (List.not_mem_append (List.not_mem_append
        (List.not_mem_append hhead hc) hmiddle) hname) htail

/-! ### The rows of a report -/

/-- The cut of a text at the beginning of an issue, which stands on the visible part of its line. -/
lemma exists_cut_of_mem_issues {source : Text} {i : Issue} (h : i ∈ issues source) :
    ∃ before body ending rest, Cut source i.interval.first before body ending rest ∧
      lineAt source i.interval.first =
        ⟨endsBefore source i.interval.first + 1, before.length, body ++ ending⟩ ∧
      before.length ≤ i.interval.first ∧ i.interval.first < before.length + body.length := by
  obtain ⟨before, body, ending, rest, hcut, hline⟩ := exists_cut source i.interval.first
  obtain ⟨c, hc, hbreak⟩ := exists_first h
  have hlt := (List.getElem?_eq_some_iff.1 hc).1
  refine ⟨before, body, ending, rest, hcut, hline, ?_⟩
  rcases hcut.covers with ⟨hstart, hend⟩ | ⟨hpast, -⟩
  · refine ⟨hstart, ?_⟩
    by_contra hge
    rw [List.length_append] at hend
    -- the first character to blame would belong to what ends the line
    rw [hcut.whole, List.getElem?_append_right hstart, List.append_assoc,
      List.getElem?_append_right (by omega), List.getElem?_append_left (by omega)] at hc
    have hmem := List.mem_of_getElem? hc
    rcases hcut.ended with hterm | ⟨rfl, -⟩
    · rw [hterm.isBreak_of_mem c hmem] at hbreak
      cases hbreak
    · cases hmem
  · omega

/-- The visible part of the line that an issue begins on. -/
lemma Line.Cut.lineText {source before body ending rest : Text} {p : Nat}
    (h : Cut source p before body ending rest) (hstart : before.length ≤ p)
    (hend : p < before.length + body.length) :
    Report.LineText source p before.length body := by
  refine ⟨?_, ⟨hstart, hend⟩, fun c hc => ?_, ?_, fun c hc => ?_⟩
  · rw [h.whole, List.drop_left, List.append_assoc, List.take_left]
  · have hno := h.unbroken c hc
    refine ⟨?_, ?_⟩ <;>
      · rintro rfl
        cases hno
  · exact h.begins.imp_left fun hnil => by rw [hnil, List.length_nil]
  · rw [h.whole, List.getElem?_append_right (Nat.le_add_right _ _), Nat.add_sub_cancel_left,
      List.append_assoc, List.getElem?_append_right (Nat.le_refl _), Nat.sub_self] at hc
    rcases h.ended with hterm | ⟨rfl, rfl⟩
    · obtain ⟨d, more, hd⟩ := List.exists_cons_of_ne_nil hterm.ne_nil
      rw [hd] at hc hterm
      obtain rfl := Option.some.inj hc
      exact isBreak_eq_true_iff.1 (hterm.isBreak_of_mem d (List.mem_cons_self ..))
    · cases hc

/-- The two lines of a row, from the cut of the text at the beginning of its issue. -/
lemma Report.Row.lines_eq {source before body ending rest : Text} {i : Issue}
    (hcut : Cut source i.interval.first before body ending rest)
    (hline : lineAt source i.interval.first =
      ⟨endsBefore source i.interval.first + 1, before.length, body ++ ending⟩)
    (hstart : before.length ≤ i.interval.first)
    (hend : i.interval.first < before.length + body.length) :
    (Row.ofIssue source i).quotation =
        Text.decimal (endsBefore source i.interval.first + 1) ++ "| ".toList ++ body ∧
      (Row.ofIssue source i).pointer =
        List.replicate (Text.decimal (endsBefore source i.interval.first + 1)).length ' ' ++
          "| ".toList ++ List.replicate (i.interval.first - before.length) ' ' ++
          List.replicate (min i.interval.last (before.length + body.length - 1) + 1 -
            i.interval.first) '^' ++ "--- ".toList ++ i.message := by
  have hvisible : (lineAt source i.interval.first).visible = body := by
    rw [hline, hcut.visible_eq]
  have hcolumns := @columns_eq (lineAt source i.interval.first) i.interval
  rw [hvisible, hline] at hcolumns
  refine ⟨?_, ?_⟩
  · rw [quotation, gutter, ofIssue, hvisible, hline]
  · rw [pointer, gutter, ofIssue, hline, hcolumns hstart hend]

/-- The row of an issue points at it. -/
lemma Report.Row.pointsAt {source : Text} {i : Issue} (h : i ∈ issues source) :
    ∃ start text column width, Report.PointsAt source i (Row.ofIssue source i).quotation
      (Row.ofIssue source i).pointer start text column width := by
  obtain ⟨before, body, ending, rest, hcut, hline, hstart, hend⟩ := exists_cut_of_mem_issues h
  obtain ⟨hquotation, hpointer⟩ := Row.lines_eq hcut hline hstart hend
  have hle := i.interval.first_le_last
  obtain ⟨k, hk⟩ := Nat.exists_eq_add_of_le hstart
  rw [hquotation, hpointer, hk, Nat.add_sub_cancel_left]
  generalize hgutter : Text.decimal (endsBefore source (before.length + k) + 1) = gutter
  have hcaret : '^' ∉ "| ".toList := by decide +kernel
  generalize hbar : "| ".toList = bar at hcaret
  have hspaces : ∀ n, '^' ∉ List.replicate n ' ' := fun n hmem =>
    absurd (List.eq_of_mem_replicate hmem) (by decide)
  refine ⟨before.length, body, (gutter ++ bar).length + k,
    min i.interval.last (before.length + body.length - 1) + 1 - (before.length + k), ?_⟩
  exact {
    line := hcut.lineText hstart hend
    quotation_eq := by rw [hk, ← Text.decimal, hgutter, hbar]
    pointer_eq := by
      refine ⟨_, ?_, List.not_mem_append (List.not_mem_append (hspaces _) hcaret) (hspaces k), rfl⟩
      simp only [List.length_append, List.length_replicate]
    column_eq := by
      rw [hk]
      simp only [List.length_append]
      omega
    width_pos := by omega
    within := by
      simp only [List.length_append]
      omega
    above := by
      rw [List.drop_length_add_append, hk, hcut.whole, List.drop_length_add_append,
        List.append_assoc, List.drop_append_of_le_length (by omega),
        List.take_append_of_le_length (by rw [List.length_drop]; omega)] }

/-- The two lines of a row are lines. -/
lemma Report.Row.lineFeed_not_mem {source : Text} {i : Issue} (h : i ∈ issues source) :
    '\n' ∉ (Row.ofIssue source i).quotation ∧ '\n' ∉ (Row.ofIssue source i).pointer := by
  obtain ⟨before, body, ending, rest, hcut, hline, hstart, hend⟩ := exists_cut_of_mem_issues h
  obtain ⟨hquotation, hpointer⟩ := Row.lines_eq hcut hline hstart hend
  have hbody : '\n' ∉ body := fun hmem => by cases hcut.unbroken '\n' hmem
  have hgutter := Text.lineFeed_not_mem_decimal (endsBefore source i.interval.first + 1)
  have hbar : '\n' ∉ "| ".toList := by decide +kernel
  have hdashes : '\n' ∉ "--- ".toList := by decide +kernel
  have hspaces : ∀ n, '\n' ∉ List.replicate n ' ' := fun n hmem =>
    absurd (List.eq_of_mem_replicate hmem) (by decide)
  have hcarets : ∀ n, '\n' ∉ List.replicate n '^' := fun n hmem =>
    absurd (List.eq_of_mem_replicate hmem) (by decide)
  rw [hquotation, hpointer]
  refine ⟨List.not_mem_append (List.not_mem_append hgutter hbar) hbody, ?_⟩
  exact List.not_mem_append (List.not_mem_append (List.not_mem_append (List.not_mem_append
    (List.not_mem_append (hspaces _) hbar) (hspaces _)) (hcarets _)) hdashes)
    (lineFeed_not_mem_message h)

/-! ### A whole report -/

section Pairs

variable {α β : Type} (f g : α → β)

/-- Two lines for every element of a list: those of the element `k` are the lines `2 k` and
`2 k + 1`. -/
lemma getElem?_flatMap_two (l : List α) (k : Nat) :
    (l.flatMap fun a => [f a, g a])[2 * k]? = l[k]?.map f ∧
      (l.flatMap fun a => [f a, g a])[2 * k + 1]? = l[k]?.map g := by
  induction l generalizing k with
  | nil => exact ⟨rfl, rfl⟩
  | cons a l ih =>
      cases k with
      | zero => exact ⟨rfl, rfl⟩
      | succ k =>
          rw [Nat.mul_succ]
          exact ih k

lemma length_flatMap_two (l : List α) : (l.flatMap fun a => [f a, g a]).length = 2 * l.length := by
  simp [List.length_flatMap, Nat.mul_comm]

end Pairs

lemma Report.lines_eq (source : Text) (is : List Issue) :
    Report.lines source is =
      (is.flatMap fun i => [(Row.ofIssue source i).quotation, (Row.ofIssue source i).pointer]) ++
        [summary is.length] := rfl

/-- **What is printed for a text with issues.** The output consists of lines, each with a line feed
behind it: two for each issue, in order, and one more with their number. The two lines of an issue
are the line of the text that it begins on, with its number, and carets below the characters to
blame on that line. -/
theorem output_points (options : CommandLine.Options) {source : Text} {is : List Issue}
    (h : lex source = .error is) :
    ∃ ls : List Text, (Program.process options source).output = ls.flatMap (· ++ ['\n']) ∧
      ls.length = 2 * is.length + 1 ∧ (∀ l ∈ ls, '\n' ∉ l) ∧
      ls[2 * is.length]? = some ("Lexing failed with ".toList ++ Nat.toDigits 10 is.length ++
        " issue(s)".toList) ∧
      ∀ (k : Nat) (i : Issue), is[k]? = some i → ∃ quotation pointer start text column width,
        ls[2 * k]? = some quotation ∧ ls[2 * k + 1]? = some pointer ∧
          Report.PointsAt source i quotation pointer start text column width := by
  obtain ⟨-, rfl⟩ := lex_eq_error_iff.1 h
  have hprinted : (Program.process options source).output =
      (Report.lines source (issues source)).flatMap (· ++ ['\n']) := by
    rw [← Program.unlines, Program.process, Program.printed, h]
    -- what is left is the case in which a report is printed
    exact h
  have hlen := length_flatMap_two (fun i => (Report.Row.ofIssue source i).quotation)
    (fun i => (Report.Row.ofIssue source i).pointer) (issues source)
  refine ⟨_, hprinted, ?_, ?_, ?_, ?_⟩
  · rw [Report.lines_eq, List.length_append, hlen, List.length_singleton]
  · intro l hl
    rw [Report.lines_eq, List.mem_append, List.mem_singleton] at hl
    rcases hl with hl | rfl
    · obtain ⟨i, hi, hmem⟩ := List.mem_flatMap.1 hl
      obtain ⟨hquotation, hpointer⟩ := Report.Row.lineFeed_not_mem hi
      rcases List.mem_pair.1 hmem with rfl | rfl
      · exact hquotation
      · exact hpointer
    · have hhead : '\n' ∉ "Lexing failed with ".toList := by decide +kernel
      have htail : '\n' ∉ " issue(s)".toList := by decide +kernel
      exact List.not_mem_append (List.not_mem_append hhead (Text.lineFeed_not_mem_decimal _)) htail
  · rw [Report.lines_eq, List.getElem?_append_right (Nat.le_of_eq hlen), hlen, Nat.sub_self]
    rfl
  · intro k i hk
    obtain ⟨start, text, column, width, hpoints⟩ :=
      Report.Row.pointsAt (List.mem_of_getElem? hk)
    have hlt := (List.getElem?_eq_some_iff.1 hk).1
    have hrow := getElem?_flatMap_two (fun i => (Report.Row.ofIssue source i).quotation)
      (fun i => (Report.Row.ofIssue source i).pointer) (issues source) k
    rw [hk] at hrow
    refine ⟨_, _, start, text, column, width, ?_, ?_, hpoints⟩
    · rw [Report.lines_eq, List.getElem?_append_left (by omega)]
      exact hrow.1
    · rw [Report.lines_eq, List.getElem?_append_left (by omega)]
      exact hrow.2

/-- The third issue of a text, a string that is still open at the end of its second line. -/
theorem output_points_of_lines :
    lex "1a\r\n 0b \"x\ry".toList = .error [⟨.invalidCharacter .decimal 'a', .single 1⟩,
        ⟨.missingValue .binary, .ofLength 5 2⟩, ⟨.unclosedString, .ofLength 8 4⟩] ∧
      ∃ ls : List Text, (Program.process ⟨.check, ['z'], 1⟩ "1a\r\n 0b \"x\ry".toList).output =
          ls.flatMap (· ++ ['\n']) ∧ ls.length = 7 ∧
        ∃ quotation pointer start text column width, ls[4]? = some quotation ∧
          ls[5]? = some pointer ∧ Report.PointsAt "1a\r\n 0b \"x\ry".toList
            ⟨.unclosedString, .ofLength 8 4⟩ quotation pointer start text column width := by
  have h : lex "1a\r\n 0b \"x\ry".toList = .error [⟨.invalidCharacter .decimal 'a', .single 1⟩,
      ⟨.missingValue .binary, .ofLength 5 2⟩, ⟨.unclosedString, .ofLength 8 4⟩] := by
    decide +kernel
  obtain ⟨ls, houtput, hlen, -, -, hpoints⟩ := output_points ⟨.check, ['z'], 1⟩ h
  exact ⟨h, ls, houtput, hlen, hpoints 2 _ rfl⟩

end Lexical
