import Lexical.Proofs.Placement

/-!
Reading is compositional at line feeds.

* `pieces_append_lineFeed`: no piece reaches across a line feed, except an unclosed string or
  comment.
* `findings_append_lineFeed`: so the findings of a text are those of its two sides.
* `lex_append_lineFeed`: **lines can be read on their own**, for tokens and for issues.
-/

namespace Lexical

/-! ### No piece reaches across -/

lemma not_unclosed_of_mem_pieces {s : Text} (h : ∀ i ∈ issues s, ¬ i.kind.Unclosed) :
    ∀ p ∈ pieces s, ¬ p.Unclosed := by
  intro p hp hu
  cases p with
  | trivia text => exact hu
  | token kind text => exact hu
  | fault kind lead covered skipped =>
      obtain ⟨i, hi, rfl⟩ := exists_issue_of_mem hp
      exact h i hi hu

/-- The pieces on the two sides of a line feed are those of the two sides. -/
lemma pieces_append_lineFeed {s : Text} (h : ∀ p ∈ pieces s, ¬ p.Unclosed) (t : Text) :
    pieces (s ++ '\n' :: t) = pieces s ++ .trivia ['\n'] :: pieces t := by
  refine pieces_eq_iff.2 ⟨?_, ?_⟩
  · refine (reading_pieces s).append ⟨.blank rfl, reading_pieces t⟩ fun p hp hs => ?_
    exact hs.before_lineFeed (h p hp) _
  · rw [List.flatMap_append, List.flatMap_cons, pieces_flatMap_text, pieces_flatMap_text]
    rfl

/-- The findings on the two sides of a line feed are those of the two sides. -/
lemma findings_append_lineFeed {s : Text} (h : ∀ p ∈ pieces s, ¬ p.Unclosed) (t : Text) :
    findings (s ++ '\n' :: t) =
      findings s ++ (findings t).map (Finding.shift (s.length + 1)) := by
  calc findings (s ++ '\n' :: t)
      = findingsFrom 0 (pieces s ++ .trivia ['\n'] :: pieces t) := by
        rw [findings, pieces_append_lineFeed h]
    _ = findings s ++ findingsFrom (0 + s.length) (.trivia ['\n'] :: pieces t) := by
        rw [findingsFrom_append, pieces_flatMap_text, findings]
    _ = findings s ++ findingsFrom (0 + (s.length + 1)) (pieces t) := rfl
    _ = findings s ++ (findings t).map (Finding.shift (s.length + 1)) := by
        rw [findingsFrom_add, findings, findings]

/-! ### Joining outcomes -/

section Joined

variable {s t u : Text} {k : Nat}

/-- What is selected from joined findings is joined, if the selection moves with the findings. -/
lemma filterMap_of_findings_eq {α : Type} {part : Finding → Option α} {move : α → α}
    {fs : List Finding} (hm : ∀ f, part (Finding.shift k f) = (part f).map move)
    (h : findings u = fs ++ (findings t).map (Finding.shift k)) :
    (findings u).filterMap part = fs.filterMap part ++ ((findings t).filterMap part).map move := by
  rw [h, List.filterMap_append, List.filterMap_map, List.map_filterMap,
    show part ∘ Finding.shift k = fun f => (part f).map move from funext hm]

lemma tokens_of_findings_eq (h : findings u = findings s ++ (findings t).map (Finding.shift k)) :
    tokens u = tokens s ++ (tokens t).map (Token.shift k) :=
  filterMap_of_findings_eq (Finding.token?_shift k) h

lemma issues_of_findings_eq (h : findings u = findings s ++ (findings t).map (Finding.shift k)) :
    issues u = issues s ++ (issues t).map (Issue.shift k) :=
  filterMap_of_findings_eq (Finding.issue?_shift k) h

end Joined

/-- **Lines can be read on their own.** Unless a string or comment is left unclosed before the line
feed, the tokens of the whole are those of the two sides, or, if either has issues, the issues of
the whole are those of the two sides. -/
theorem lex_append_lineFeed (s t : Text) (closed : ∀ i ∈ reported (lex s), ¬ i.kind.Unclosed) :
    (∀ ts us, lex s = .ok ts → lex t = .ok us →
        lex (s ++ '\n' :: t) = .ok (ts ++ us.map (Token.shift (s.length + 1)))) ∧
      (¬ (∃ ts us, lex s = .ok ts ∧ lex t = .ok us) →
        lex (s ++ '\n' :: t) =
          .error (reported (lex s) ++ (reported (lex t)).map (Issue.shift (s.length + 1)))) := by
  rw [reported_lex] at closed
  have hf := findings_append_lineFeed (not_unclosed_of_mem_pieces closed) t
  have hi := issues_of_findings_eq hf
  refine ⟨?_, ?_⟩
  · intro ts us hts hus
    obtain ⟨hs, rfl⟩ := lex_eq_ok_iff.1 hts
    obtain ⟨ht, rfl⟩ := lex_eq_ok_iff.1 hus
    refine lex_eq_ok_iff.2 ⟨?_, tokens_of_findings_eq hf⟩
    rw [hi, hs, ht]
    rfl
  · intro hnot
    rw [reported_lex, reported_lex]
    refine lex_eq_error_iff.2 ⟨?_, hi⟩
    intro hnil
    obtain ⟨hs, ht⟩ := List.append_eq_nil_iff.1 hnil
    exact hnot ⟨_, _, lex_eq_ok_iff.2 ⟨hs, rfl⟩, lex_eq_ok_iff.2 ⟨List.map_eq_nil_iff.1 ht, rfl⟩⟩

/-- A malformed number and a slash before the line feed, a base without a value after it. -/
theorem lex_append_lineFeed_of_issues :
    (∀ i ∈ reported (lex "1a /".toList), ¬ i.kind.Unclosed) ∧
      lex ("1a /".toList ++ '\n' :: "0b c".toList) =
        .error [⟨.invalidCharacter .decimal 'a', .single 1⟩,
          ⟨.missingValue .binary, .ofLength 5 2⟩] := by
  have hs : lex "1a /".toList = .error [⟨.invalidCharacter .decimal 'a', .single 1⟩] := by
    decide +kernel
  have closed : ∀ i ∈ reported (lex "1a /".toList), ¬ i.kind.Unclosed := by decide +kernel
  refine ⟨closed, ?_⟩
  rw [(lex_append_lineFeed "1a /".toList "0b c".toList closed).2]
  · decide +kernel
  · rintro ⟨ts, us, hts, -⟩
    rw [hs] at hts
    cases hts

end Lexical
