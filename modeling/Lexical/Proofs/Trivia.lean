import Lexical.Proofs.Diagnosis
import Lexical.Proofs.Leading

/-!
Trivia, and where block comments end.

* `Trivium`, `Trivia`: a blank, a line comment or a block comment, and texts made up of them.
* `Trivium.lex_append`: one of them does not change how the text after it is read.
* `Comment.Whole.unique`: a text begins with one block comment at most.
* `lex_trivia`: **trivia are invisible**, and a text that begins with the mark that opens a comment
  begins with exactly one whole comment, or is nothing but an unclosed one.
-/

namespace Lexical

open Character Grammar

/-! ### Trivia -/

/-- A blank, a line comment with the line feed that ends it, or a block comment. -/
inductive Trivium : Text → Prop
  | blank {c : Char} (blank : isBlank c = true) : Trivium [c]
  | lineComment {body : Text} (one_line : '\n' ∉ body) : Trivium ('/' :: '/' :: (body ++ ['\n']))
  | blockComment {comment : Text} (whole : Comment.Whole comment) : Trivium comment

/-- A text made up of blanks, line comments and block comments, in any order. -/
def Trivia (w : Text) : Prop :=
  ∃ parts : List Text, (∀ part ∈ parts, Trivium part) ∧ parts.flatten = w

/-- A blank, a line comment or a block comment does not change how the text after it is read. -/
lemma Trivium.lex_append {part : Text} (h : Trivium part) (t : Text) :
    lex (part ++ t) = shifted part.length (lex t) := by
  cases h with
  | blank blank => exact (Element.blank blank).lex_trivia_append
  | @lineComment body one_line =>
      -- the line feed is a blank of its own, which ends the comment
      have hwithin : ∀ c ∈ body, isWithinLine c = true := by
        intro c hc
        have hne : c ≠ '\n' := fun heq => one_line (heq ▸ hc)
        simp [isWithinLine, hne]
      have hcomment : Element none ('/' :: '/' :: body) (['\n'] ++ t) :=
        .lineComment hwithin (stops_cons.2 rfl)
      have hfeed : Element none ['\n'] t := .blank rfl
      calc lex (('/' :: '/' :: (body ++ ['\n'])) ++ t)
          = lex (('/' :: '/' :: body) ++ (['\n'] ++ t)) := by simp
        _ = shifted ('/' :: '/' :: body).length (shifted 1 (lex t)) := by
            rw [hcomment.lex_trivia_append, hfeed.lex_trivia_append, List.length_singleton]
        _ = shifted ('/' :: '/' :: (body ++ ['\n'])).length (lex t) := by
            rw [shifted_shifted]
            simp [Nat.add_comm]
  | blockComment whole =>
      obtain ⟨inside, hinside, rfl⟩ := whole
      exact (Element.blockComment hinside).lex_trivia_append

/-- **Trivia do not change how the text after them is read.** -/
lemma Trivia.lex_append {w : Text} (h : Trivia w) (t : Text) :
    lex (w ++ t) = shifted w.length (lex t) := by
  obtain ⟨parts, hparts, rfl⟩ := h
  induction parts with
  | nil => exact (shifted_zero (lex t)).symm
  | cons part parts ih =>
      have hpart := hparts part (List.mem_cons_self ..)
      have hrest := ih fun other hother => hparts other (List.mem_cons_of_mem part hother)
      rw [List.flatten_cons, List.append_assoc, hpart.lex_append, hrest, shifted_shifted,
        List.length_append, Nat.add_comm]

/-! ### Where block comments end -/

/-- A text begins with one block comment at most. -/
lemma Comment.Whole.unique {source comment other : Text} (h : Whole comment) (ho : Whole other)
    (hc : comment <+: source) (hoc : other <+: source) : comment = other := by
  obtain ⟨inside, hinside, rfl⟩ := h
  obtain ⟨inside', hinside', rfl⟩ := ho
  obtain ⟨after, rfl⟩ := hc
  obtain ⟨after', heq⟩ := hoc
  have hrest : inside' ++ after' = inside ++ after := by simpa using heq
  have hcut : close? 0 (inside ++ after) = some (inside, after) :=
    close?_zero_eq_some_iff.2 ⟨hinside, rfl⟩
  rw [close?_zero_eq_some_iff.2 ⟨hinside', hrest.symm⟩, Option.some.injEq, Prod.mk.injEq] at hcut
  rw [hcut.1]

/-- A text that begins with the mark that opens a comment, but with no whole comment, is nothing but
an unclosed comment. -/
lemma lex_of_not_whole {source : Text} (h : ['/', '*'] <+: source)
    (hn : ∀ comment, comment <+: source → ¬ Comment.Whole comment) :
    lex source = .error [⟨.unclosedComment, ⟨0, source.length - 1, Nat.zero_le _⟩⟩] := by
  obtain ⟨rest, rfl⟩ := h
  refine Fault.lex_of_unclosed (.unclosedComment fun inside after hinside heq => ?_)
  refine hn ('/' :: '*' :: inside) ⟨after, ?_⟩ ⟨inside, hinside, rfl⟩
  exact congrArg (['/', '*'] ++ ·) heq.symm

/-- **Trivia are invisible.** Behind blanks, line comments and block comments a text is read as by
itself, with its tokens or its issues moved by as many characters. A block comment ends where it is
balanced: a text that begins with the mark that opens one begins with exactly one whole comment, or
with none, and then the unclosed comment up to the end of the text is all there is to report. -/
theorem lex_trivia :
    (∀ w t, Trivia w → lex (w ++ t) = shifted w.length (lex t)) ∧
      ∀ source, ['/', '*'] <+: source →
        (∃! comment, comment <+: source ∧ Comment.Whole comment) ∨
          (∀ comment, comment <+: source → ¬ Comment.Whole comment) ∧
            lex source = .error [⟨.unclosedComment, ⟨0, source.length - 1, Nat.zero_le _⟩⟩] := by
  refine ⟨fun w t h => h.lex_append t, fun source hopen => ?_⟩
  by_cases hwhole : ∃ comment, comment <+: source ∧ Comment.Whole comment
  · obtain ⟨comment, hbegins, hw⟩ := hwhole
    exact .inl ⟨comment, ⟨hbegins, hw⟩, fun other ho => ho.2.unique hw ho.1 hbegins⟩
  · have hnone : ∀ comment, comment <+: source → ¬ Comment.Whole comment :=
      fun comment hbegins hw => hwhole ⟨comment, hbegins, hw⟩
    exact .inr ⟨hnone, lex_of_not_whole hopen hnone⟩

/-- A line comment, a nested comment and a blank in front of a base without a value. In the second
text the slash after the opening mark closes nothing, as its star belongs to that mark. -/
theorem lex_trivia_of_comments :
    Trivia "//*\n/*/**/*/ ".toList ∧
      lex ("//*\n/*/**/*/ ".toList ++ "a 0x".toList) =
        .error [⟨.missingValue .hexadecimal, ⟨15, 16, by decide⟩⟩] ∧
      lex "/*/ a".toList = .error [⟨.unclosedComment, ⟨0, 4, by decide⟩⟩] := by
  have hwhole : Comment.Whole "/*/**/*/".toList := ⟨_, .nested .close .close, rfl⟩
  have htrivia : Trivia "//*\n/*/**/*/ ".toList := by
    refine ⟨["//*\n".toList, "/*/**/*/".toList, [' ']], ?_, rfl⟩
    simp only [List.forall_mem_cons, List.not_mem_nil, false_implies, implies_true, and_true]
    exact ⟨@Trivium.lineComment ['*'] (by decide), .blockComment hwhole, .blank rfl⟩
  obtain ⟨hmoved, hends⟩ := lex_trivia
  have hlex : lex "a 0x".toList = .error [⟨.missingValue .hexadecimal, ⟨2, 3, by decide⟩⟩] := by
    decide +kernel
  have hnone : ∀ comment, comment <+: "/*/ a".toList → ¬ Comment.Whole comment := by
    rintro _ ⟨after, ha⟩ ⟨inside, hinside, rfl⟩
    have hrest : inside ++ after = "/ a".toList := (List.cons.inj (List.cons.inj ha).2).2
    have hcut := Comment.close?_zero_eq_some_iff.2 ⟨hinside, hrest.symm⟩
    cases hcut
  refine ⟨htrivia, ?_, ?_⟩
  · rw [hmoved _ _ htrivia, hlex]
    rfl
  · rcases hends "/*/ a".toList ⟨_, rfl⟩ with ⟨comment, hcomment, -⟩ | ⟨-, hopen⟩
    · exact absurd hcomment.2 (hnone comment hcomment.1)
    · exact hopen

end Lexical
