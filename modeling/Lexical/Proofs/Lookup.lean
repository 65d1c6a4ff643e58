import Lexical.Proofs.Lines

/-!
Looking up the line at an offset.

* `Line.Terminated`: lines one after the other, each but the last with its terminator;
  `Line.terminated_split` says that a text is cut into such lines.
* `Line.Spans`: whether a line covers an offset, behind the lines before it; at most one line of a
  text does (`Line.Spans.unique`).
* `Line.exists_among`: the line at an offset is one of these lines, the one that covers the offset
  or else the last one.
* `lineAt_exact`: **the lines of a text and the line at any offset are exactly these.**
-/

namespace Lexical

namespace Line

/-! ### The lines of a text -/

/-- Lines one after the other. The last one has no break; every other one has a single terminator in
view of the text after it, and no other break. -/
inductive Terminated : List Text → Prop
  | last {body : Text} (unbroken : Unbroken body) : Terminated [body]
  | line {body ending : Text} {rest : List Text} (unbroken : Unbroken body)
      (ended : Terminator ending rest.flatten) :
      Terminated rest → Terminated ((body ++ ending) :: rest)

/-- A text is cut into lines that are terminated, except for the last one. -/
lemma terminated_split (source : Text) : Terminated (split source) := by
  induction source using Line.induction with
  | last body hb =>
      rw [split_unbroken hb]
      exact .last hb
  | line body ending rest hb he ih =>
      rw [split_line_append hb he]
      exact .line hb (by rwa [flatten_split]) ih

lemma Terminated.ne_nil {ls : List Text} (h : Terminated ls) : ls ≠ [] := by
  cases h <;> exact List.cons_ne_nil _ _

/-- Each line is a part without breaks and what ends it; nothing ends the last line. -/
lemma Terminated.exists_ending {ls : List Text} (h : Terminated ls) {before after : List Text}
    {text : Text} (hls : ls = before ++ text :: after) :
    ∃ body ending, text = body ++ ending ∧ Unbroken body ∧
      (after ≠ [] ∧ Terminator ending after.flatten ∨ after = [] ∧ ending = []) := by
  induction h generalizing before with
  | @last body hb =>
      cases before with
      | nil =>
          obtain ⟨rfl, rfl⟩ := List.cons.inj hls
          exact ⟨body, [], (List.append_nil body).symm, hb, .inr ⟨rfl, rfl⟩⟩
      | cons first more =>
          have hnil := (List.cons.inj hls).2
          exact absurd hnil.symm (by simp)
  | @line body ending rest hb he hrest ih =>
      cases before with
      | nil =>
          obtain ⟨rfl, rfl⟩ := List.cons.inj hls
          exact ⟨body, ending, rfl, hb, .inl ⟨hrest.ne_nil, he⟩⟩
      | cons first more => exact ih (List.cons.inj hls).2

/-- The last line has no break. It is empty exactly if the text is, or ends in a break. -/
lemma exists_last (source : Text) :
    ∃ before last, split source = before ++ [last] ∧ Unbroken last ∧
      (last = [] ↔ ∀ c, source.getLast? = some c → isBreak c = true) := by
  induction source using Line.induction with
  | last body hb =>
      refine ⟨[], body, split_unbroken hb, hb, ?_, fun hbreak => ?_⟩
      · rintro rfl c hc
        cases hc
      · by_contra hne
        have hlast := hbreak _ (List.getLast?_eq_some_getLast hne)
        rw [hb _ (List.getLast_mem hne)] at hlast
        cases hlast
  | line body ending rest hb he ih =>
      obtain ⟨before, last, hsplit, hlast, hiff⟩ := ih
      refine ⟨(body ++ ending) :: before, last, ?_, hlast, ?_⟩
      · rw [split_line_append hb he, hsplit, List.cons_append]
      · rw [hiff, List.getLast?_append]
        cases hrest : rest.getLast? with
        | some d => rfl
        | none =>
            -- the text ends with the terminator
            have hending : ∀ c, (body ++ ending).getLast? = some c → isBreak c = true := by
              intro c hc
              rw [List.getLast?_append_of_ne_nil _ he.ne_nil] at hc
              exact he.isBreak_of_mem c (List.mem_of_getLast? hc)
            simpa using hending

/-! ### The line that covers an offset -/

/-- A line covers an offset, behind the lines before it. -/
def Spans (before : List Text) (text : Text) (p : Nat) : Prop :=
  before.flatten.length ≤ p ∧ p < before.flatten.length + text.length

/-- No line behind one that covers an offset covers it as well. -/
lemma Spans.eq_of_later {before more after after' : List Text} {text text' : Text} {p : Nat}
    (h : Spans before text p) (h' : Spans (before ++ more) text' p)
    (heq : text :: after = more ++ text' :: after') :
    more = [] ∧ text' = text ∧ after' = after := by
  cases more with
  | nil =>
      obtain ⟨rfl, rfl⟩ := List.cons.inj heq
      exact ⟨rfl, rfl, rfl⟩
  | cons first more =>
      obtain ⟨rfl, -⟩ := List.cons.inj heq
      -- the later line begins where the covering one ends, or further on
      have hend := h.2
      have hstart := h'.1
      simp only [List.flatten_append, List.flatten_cons, List.length_append] at hstart
      omega

/-- At most one of the lines covers an offset. -/
lemma Spans.unique {before before' after after' : List Text} {text text' : Text} {p : Nat}
    (h : Spans before text p) (h' : Spans before' text' p)
    (heq : before' ++ text' :: after' = before ++ text :: after) :
    before' = before ∧ text' = text ∧ after' = after := by
  rcases List.append_eq_append_iff.1 heq with ⟨more, rfl, hmore⟩ | ⟨more, rfl, hmore⟩
  · obtain ⟨rfl, rfl, rfl⟩ := h'.eq_of_later h hmore
    exact ⟨(List.append_nil before').symm, rfl, rfl⟩
  · obtain ⟨rfl, rfl, rfl⟩ := h.eq_of_later h' hmore
    exact ⟨List.append_nil before, rfl, rfl⟩

/-- The line at an offset is the line that covers it, or the last one if the offset lies past the
end of the text. It is numbered by its place among the lines, and begins where those before it
end. -/
lemma exists_among (source : Text) (p : Nat) :
    ∃ before text after, split source = before ++ text :: after ∧
      lineAt source p = ⟨before.length + 1, before.flatten.length, text⟩ ∧
      (Spans before text p ∨ source.length ≤ p ∧ after = []) := by
  induction source using Line.induction generalizing p with
  | last body hb =>
      refine ⟨[], body, [], split_unbroken hb, lineAt_unbroken hb p, ?_⟩
      rcases Nat.lt_or_ge p body.length with hlt | hge
      · exact .inl ⟨Nat.zero_le p, by simpa using hlt⟩
      · exact .inr ⟨hge, rfl⟩
  | line body ending rest hb he ih =>
      rw [lineAt_line_append hb he, split_line_append hb he]
      split
      · next hlt =>
        refine ⟨[], body ++ ending, split rest, rfl, rfl, .inl ⟨Nat.zero_le p, ?_⟩⟩
        simpa using hlt
      · next hge =>
        obtain ⟨q, rfl⟩ := Nat.exists_eq_add_of_le (Nat.le_of_not_lt hge)
        obtain ⟨before, text, after, hsplit, hline, hplace⟩ := ih q
        have hstart : ((body ++ ending) :: before).flatten.length =
            before.flatten.length + (body ++ ending).length := by
          rw [List.flatten_cons, List.length_append, Nat.add_comm]
        refine ⟨(body ++ ending) :: before, text, after, ?_, ?_, hplace.imp ?_ ?_⟩
        · rw [hsplit, List.cons_append]
        · rw [Nat.add_sub_cancel_left, hline, Line.after, List.length_cons, hstart]
        · rintro ⟨hfirst, hlast⟩
          rw [Spans, hstart]
          omega
        · rintro ⟨hpast, hnil⟩
          rw [List.length_append]
          exact ⟨Nat.add_le_add_left hpast _, hnil⟩

/-- What the line at the offset `p` is: the line `text`, between the lines `before` and `after`. It
covers the offset, as no other line does, unless the offset lies past the end of the text, where the
line is the last one. It is numbered by the terminators that end before the offset, and all of it is
visible except for its own terminator. -/
structure At (source : Text) (p : Nat) (before : List Text) (text : Text) (after : List Text) :
    Prop where
  among : split source = before ++ text :: after
  found : lineAt source p = ⟨endsBefore source p + 1, before.flatten.length, text⟩
  covers : p < source.length → Spans before text p
  only : p < source.length → ∀ before' text' after', split source = before' ++ text' :: after' →
    Spans before' text' p → before' = before ∧ text' = text ∧ after' = after
  beyond : source.length ≤ p → after = []
  visible : ∃ ending, text = (lineAt source p).visible ++ ending ∧
    Unbroken (lineAt source p).visible ∧
    (after ≠ [] ∧ Terminator ending after.flatten ∨ after = [] ∧ ending = [])

lemma exists_at (source : Text) (p : Nat) : ∃ before text after, At source p before text after := by
  obtain ⟨before, text, after, hsplit, hline, hplace⟩ := exists_among source p
  obtain ⟨_, _, _, _, -, hcut⟩ := exists_cut source p
  have hnumber : before.length = endsBefore source p := by
    have heq := congrArg Line.number (hline.symm.trans hcut)
    simpa using heq
  have hlength : source.length =
      before.flatten.length + (text.length + after.flatten.length) := by
    rw [← flatten_split source, hsplit]
    simp
  obtain ⟨body, ending, rfl, hbody, hending⟩ := (terminated_split source).exists_ending hsplit
  have hvisible : (lineAt source p).visible = body := by
    rw [hline]
    refine visible_append hbody ?_ _ _
    rcases hending with ⟨-, hterm⟩ | ⟨-, rfl⟩
    · exact hterm.isBreak_of_mem
    · exact List.forall_mem_nil _
  have hcovers : p < source.length → Spans before (body ++ ending) p := by
    intro hlt
    rcases hplace with hspans | ⟨hpast, -⟩
    · exact hspans
    · exact absurd hlt (Nat.not_lt_of_ge hpast)
  refine ⟨before, body ++ ending, after, {
    among := hsplit
    found := hnumber ▸ hline
    covers := hcovers
    only := fun hlt before' text' after' hother hspans =>
      (hcovers hlt).unique hspans (hother.symm.trans hsplit)
    beyond := fun hpast => ?_
    visible := ⟨ending, by rw [hvisible], by rwa [hvisible], hending⟩ }⟩
  rcases hplace with ⟨-, hlast⟩ | ⟨-, hnil⟩
  · omega
  · exact hnil

end Line

open Line

/-- **The lines of a text, and the line at any offset.** The lines together are the text. Every line
but the last is a part without breaks with a single terminator; the last one has no break, and is
empty exactly if the text is empty or ends in a break. The line at an offset is the only one that
covers it, or the last one past the end of the text; it is numbered by the terminators that end
before the offset, and nothing but its terminator is left out of its visible part. -/
theorem lineAt_exact (source : Text) :
    (split source).flatten = source ∧
      (∀ before text after, split source = before ++ text :: after → after ≠ [] →
        ∃ body ending, text = body ++ ending ∧ Unbroken body ∧ Terminator ending after.flatten) ∧
      (∃ before last, split source = before ++ [last] ∧ Unbroken last ∧
        (last = [] ↔ ∀ c, source.getLast? = some c → isBreak c = true)) ∧
      ∀ p, ∃ before text after, Line.At source p before text after := by
  refine ⟨flatten_split source, ?_, exists_last source, exists_at source⟩
  intro before text after hsplit hne
  obtain ⟨body, ending, htext, hbody, hending⟩ := (terminated_split source).exists_ending hsplit
  rcases hending with ⟨-, hterm⟩ | ⟨hnil, -⟩
  · exact ⟨body, ending, htext, hbody, hterm⟩
  · exact absurd hnil hne

/-- Two carriage returns before a line feed end two lines, and the last line is empty. -/
example : split "a\r\r\n\nb\r".toList =
    ["a\r".toList, "\r\n".toList, "\n".toList, "b\r".toList, []] := by
  decide +kernel

end Lexical
