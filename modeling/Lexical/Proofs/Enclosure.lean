import Lexical.Proofs.Leading

/-!
Where string literals end.

* `StringLiteral.Body.eq_of_append_eq`: a text begins with one body at most that a quote follows.
* `StringLiteral.Body.lex_append`: a body between quotes is one token, and the text after it is read
  as by itself; `StringLiteral.lex_of_not_body` says what becomes of a text without such a body.
* `lex_quote`: **a string literal ends at the first quote that is not escaped**, and is unclosed if
  there is none.
-/

namespace Lexical

open Grammar

namespace StringLiteral

/-- A text begins with one body at most that a quote follows. -/
lemma Body.eq_of_append_eq {body other after after' : Text} (h : Body body) (ho : Body other)
    (heq : body ++ '"' :: after = other ++ '"' :: after') : body = other ∧ after = after' := by
  have hsplit := h.split?_append after
  rw [heq, ho.split?_append, Option.some.injEq, Prod.mk.injEq] at hsplit
  exact ⟨hsplit.1.symm, hsplit.2.symm⟩

/-- A body between quotes is one token, which keeps the body as it is written. -/
lemma Body.lex_append {body : Text} (h : Body body) (after : Text) :
    lex ('"' :: (body ++ '"' :: after)) = (shifted (body.length + 2) (lex after)).map
      (⟨.string body, '"' :: (body ++ ['"']), ⟨0, body.length + 1, Nat.zero_le _⟩⟩ :: ·) := by
  have hlength : ('"' :: (body ++ ['"'])).length = body.length + 2 := by simp
  have helement : Element (some (.string body)) ('"' :: (body ++ ['"'])) after := .string h
  have hlex := helement.lex_append
  simp only [tokensFrom, List.cons_append, List.append_assoc, List.nil_append, hlength] at hlex
  rw [hlex]
  simp [Interval.ofLength]

/-- Without a body that a quote follows, a string is unclosed. -/
lemma lex_of_not_body {text : Text}
    (h : ∀ body after, Body body → text ≠ body ++ '"' :: after) :
    lex ('"' :: text) = .error [⟨.unclosedString, ⟨0, text.length, Nat.zero_le _⟩⟩] :=
  Fault.lex_of_unclosed (.unclosedString h)

/-- A text begins with a body that a quote follows, or it does not; the search for the quote tells
which. -/
lemma exists_body_or (text : Text) :
    (∃ body after, Body body ∧ text = body ++ '"' :: after) ∨
      ∀ body after, Body body → text ≠ body ++ '"' :: after := by
  cases hsplit : split? text with
  | some cut => exact .inl ⟨cut.1, cut.2, split?_eq_some_iff.1 hsplit⟩
  | none =>
      refine .inr fun body after hbody heq => ?_
      rw [heq, hbody.split?_append] at hsplit
      cases hsplit

/-- A text between two quotes that is the value of a single token is a body: the value of the first
token is the body that was found, so that this body is the whole text. -/
lemma body_of_lex_eq {text : Text} {token : Token}
    (hlex : lex ('"' :: (text ++ ['"'])) = .ok [token]) (hkind : token.kind = .string text) :
    Body text := by
  rcases exists_body_or (text ++ ['"']) with ⟨body, after, hbody, heq⟩ | hnone
  · rw [heq, hbody.lex_append] at hlex
    cases hafter : lex after with
    | error is =>
        rw [hafter] at hlex
        cases hlex
    | ok ts =>
        rw [hafter] at hlex
        obtain ⟨rfl, -⟩ := List.cons.inj (Except.ok.inj hlex)
        obtain rfl : body = text := Token.Kind.string.inj hkind
        exact hbody
  · rw [lex_of_not_body hnone] at hlex
    cases hlex

end StringLiteral

open StringLiteral

/-- **A string literal ends at the first quote that is not escaped.** Behind a quote a text either
begins with a body that another quote follows, in one way only; then that body, as it is written, is
the value of the first token, and what follows the quotes is read as by itself, with its tokens or
its issues moved. Or there is no such body, and the unclosed string up to the end of the text is all
there is to report. So a text between two quotes is the value of a single token exactly if it is a
body. -/
theorem lex_quote (u : Text) :
    ((∃ v t, Body v ∧ u = v ++ '"' :: t ∧
        (∀ v' t', Body v' → u = v' ++ '"' :: t' → v' = v ∧ t' = t) ∧
        lex ('"' :: u) = (shifted (v.length + 2) (lex t)).map
          (⟨.string v, '"' :: (v ++ ['"']), ⟨0, v.length + 1, Nat.zero_le _⟩⟩ :: ·)) ∨
      (∀ v t, Body v → u ≠ v ++ '"' :: t) ∧
        lex ('"' :: u) = .error [⟨.unclosedString, ⟨0, u.length, Nat.zero_le _⟩⟩]) ∧
    ∀ v, (∃ t, lex ('"' :: (v ++ ['"'])) = .ok [t] ∧ t.kind = .string v) ↔ Body v := by
  refine ⟨?_, fun v => ⟨?_, fun hv => ?_⟩⟩
  · rcases exists_body_or u with ⟨v, t, hv, rfl⟩ | hnone
    · refine .inl ⟨v, t, hv, rfl, fun v' t' hv' heq => ?_, hv.lex_append t⟩
      exact hv'.eq_of_append_eq hv heq.symm
    · exact .inr ⟨hnone, lex_of_not_body hnone⟩
  · rintro ⟨token, hlex, hkind⟩
    exact body_of_lex_eq hlex hkind
  · have hlex := hv.lex_append []
    rw [lex_nil] at hlex
    exact ⟨_, hlex, rfl⟩

/-- The last of three backslashes escapes the quote after it, so that the slashes belong to the
body. -/
example : lex "\"a\\\\\\\"//\"b".toList =
    .ok [⟨.string "a\\\\\\\"//".toList, "\"a\\\\\\\"//\"".toList, ⟨0, 8, by decide⟩⟩,
      ⟨.name ['b'], ['b'], .single 9⟩] := by
  decide +kernel

end Lexical
