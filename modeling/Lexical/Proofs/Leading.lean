import Lexical.Proofs.LineBreak

/-!
Reading a text behind a part that is known.

* `pieces_text_append`: a piece that stands before a text comes before the pieces of that text.
* `shifted`: what becomes of an outcome when more characters come in front of the text.
* `Grammar.Element.lex_append`: **an element does not change how the text after it is read**; if it
  is a token, it comes first among the tokens.
* `Grammar.Fault.lex_of_unclosed`: a string or comment that is not closed hides all that follows.
-/

namespace Lexical

open Grammar

/-! ### A piece in front -/

/-- A piece that stands before a text is read in front of it, and the text is read as by itself. -/
lemma pieces_text_append {p : Piece} {rest : Text} (h : p.Stands rest) :
    pieces (p.text ++ rest) = p :: pieces rest := by
  refine pieces_eq_iff.2 ⟨⟨?_, reading_pieces rest⟩, ?_⟩
  · rwa [pieces_flatMap_text]
  · rw [List.flatMap_cons, pieces_flatMap_text]

/-- What a piece in front means comes before the findings of the text after it. -/
lemma findings_text_append {p : Piece} {rest : Text} (h : p.Stands rest) :
    findings (p.text ++ rest) =
      (p.finding? 0).toList ++ (findings rest).map (Finding.shift p.text.length) := by
  rw [findings, pieces_text_append h, findingsFrom, findingsFrom_add, findings]

/-! ### Outcomes -/

/-- The empty text has no tokens, and no issues either. -/
lemma lex_nil : lex [] = .ok [] := by
  have hfindings : findings [] = [] := by
    rw [findings, pieces_nil, findingsFrom]
  refine lex_eq_ok_iff.2 ⟨?_, ?_⟩
  · rw [issues, hfindings, List.filterMap_nil]
  · rw [tokens, hfindings, List.filterMap_nil]

/-- What becomes of the outcome of a text when `k` more characters come in front of it. -/
def shifted (k : Nat) : Except (List Issue) (List Token) → Except (List Issue) (List Token)
  | .ok ts => .ok (ts.map (Token.shift k))
  | .error is => .error (is.map (Issue.shift k))

lemma Token.shift_shift (j k : Nat) (t : Token) : (t.shift j).shift k = t.shift (j + k) := by
  rw [shift, shift, shift, Interval.shift_shift]

lemma Issue.shift_shift (j k : Nat) (i : Issue) : (i.shift j).shift k = i.shift (j + k) := by
  rw [shift, shift, shift, Interval.shift_shift]

lemma shifted_zero (outcome : Except (List Issue) (List Token)) : shifted 0 outcome = outcome := by
  cases outcome with
  | ok ts => exact congrArg Except.ok (List.map_id ts)
  | error is => exact congrArg Except.error (List.map_id is)

lemma shifted_shifted (j k : Nat) (outcome : Except (List Issue) (List Token)) :
    shifted k (shifted j outcome) = shifted (j + k) outcome := by
  cases outcome with
  | ok ts => simp [shifted, Function.comp_def, Token.shift_shift]
  | error is => simp [shifted, Function.comp_def, Issue.shift_shift]

/-- Tokens in front of a text come before its tokens, and its issues stay the only ones. -/
lemma lex_of_findings_eq {s t : Text} {k : Nat} {ts : List Token}
    (h : findings s = ts.map .token ++ (findings t).map (Finding.shift k)) :
    lex s = (shifted k (lex t)).map (ts ++ ·) := by
  have hissues : issues s = (issues t).map (Issue.shift k) := by
    have hall := filterMap_of_findings_eq (Finding.issue?_shift k) h
    have hnone : ts.filterMap (Finding.issue? ∘ Finding.token) = [] :=
      List.filterMap_eq_nil_iff.2 fun _ _ => rfl
    rwa [List.filterMap_map, hnone, List.nil_append] at hall
  have htokens : tokens s = ts ++ (tokens t).map (Token.shift k) := by
    have hall := filterMap_of_findings_eq (Finding.token?_shift k) h
    rwa [List.filterMap_map, show Finding.token? ∘ Finding.token = some from rfl,
      List.filterMap_some] at hall
  cases hlex : lex t with
  | ok us =>
      obtain ⟨hnone, rfl⟩ := lex_eq_ok_iff.1 hlex
      exact lex_eq_ok_iff.2 ⟨by rw [hissues, hnone, List.map_nil], htokens⟩
  | error is =>
      obtain ⟨hne, rfl⟩ := lex_eq_error_iff.1 hlex
      exact lex_eq_error_iff.2 ⟨by rwa [Ne, List.map_eq_nil_iff], hissues⟩

/-- **An element does not change how the text after it is read.** If it is a token, it comes first
among the tokens. -/
theorem Grammar.Element.lex_append {kind : Option Token.Kind} {text rest : Text}
    (h : Element kind text rest) :
    lex (text ++ rest) =
      (shifted text.length (lex rest)).map (tokensFrom 0 [(kind, text)] ++ ·) := by
  have hfindings := findings_text_append (Piece.stands_pieceOf.2 h)
  refine lex_of_findings_eq ?_
  cases kind <;> exact hfindings

/-- Trivia do not change how the text after them is read. -/
lemma Grammar.Element.lex_trivia_append {text rest : Text} (h : Element none text rest) :
    lex (text ++ rest) = shifted text.length (lex rest) := by
  rw [h.lex_append]
  cases shifted text.length (lex rest) <;> rfl

/-- A string or comment that is not closed takes in the whole text, so that nothing else is
found. -/
lemma Grammar.Fault.lex_of_unclosed {kind : Issue.Kind} {covered : Text}
    (h : Fault kind [] covered [] []) :
    lex covered = .error [⟨kind, ⟨0, covered.length - 1, Nat.zero_le _⟩⟩] := by
  have hstands : (Piece.fault kind [] covered []).Stands [] := h
  have hfindings := findings_text_append hstands
  simp only [Piece.text, List.nil_append, List.append_nil] at hfindings
  have hissues : issues covered = [⟨kind, .ofLength 0 covered.length⟩] := by
    rw [issues, hfindings, findings, pieces_nil]
    rfl
  refine lex_eq_error_iff.2 ⟨List.cons_ne_nil _ _, ?_⟩
  rw [hissues, Interval.ofLength]
  simp

end Lexical
