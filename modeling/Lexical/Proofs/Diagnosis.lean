import Lexical.Proofs.Recovery

/-!
Issues are justified by the text.

* `StringLiteral.HasQuote`, `Comment.Whole`, `Radix.Accepted`: what the text is searched for.
* `Issue.Justified`: what the text shows at the interval of an issue, cause by cause.
* `Grammar.Fault.justified`: every form of a fault shows it.
* `diagnosis_of_lex`: **every issue is justified**, issues are in order and apart and within the
  text, and only the last of them can be an unclosed string or comment.
-/

namespace Lexical

open Character Grammar

/-! ### What the text is searched for -/

/-- A quote stands in the text that is not escaped: the text is read from left to right, and a
backslash protects the character after it. -/
inductive StringLiteral.HasQuote : Text → Prop
  | here (rest : Text) : HasQuote ('"' :: rest)
  | plain {c : Char} {rest : Text} (not_backslash : c ≠ '\\') : HasQuote rest → HasQuote (c :: rest)
  | escaped (c : Char) {rest : Text} : HasQuote rest → HasQuote ('\\' :: c :: rest)

/-- A quote that is not escaped stands in a text exactly when some body ends there. -/
lemma StringLiteral.hasQuote_iff {text : Text} :
    HasQuote text ↔ ∃ body after, Body body ∧ text = body ++ '"' :: after := by
  constructor
  · intro h
    induction h with
    | here rest => exact ⟨[], rest, .nil, rfl⟩
    | @plain c rest not_backslash _ ih =>
        by_cases hc : c = '"'
        · exact ⟨[], rest, .nil, by rw [hc]; rfl⟩
        · obtain ⟨body, after, hb, rfl⟩ := ih
          exact ⟨c :: body, after, .plain hc not_backslash hb, rfl⟩
    | @escaped c rest _ ih =>
        obtain ⟨body, after, hb, rfl⟩ := ih
        exact ⟨'\\' :: c :: body, after, .escaped c hb, rfl⟩
  · rintro ⟨body, after, hb, rfl⟩
    induction hb with
    | nil => exact .here after
    | plain _ not_backslash _ ih => exact .plain not_backslash ih
    | escaped c _ ih => exact .escaped c ih

lemma Radix.ofMark?_eq_some_iff {mark : Char} {radix : Radix} :
    ofMark? mark = some radix ↔
      (radix = .hexadecimal ∧ mark = 'x') ∨ (radix = .binary ∧ mark = 'b') := by
  constructor
  · intro h
    unfold ofMark? at h
    split at h
    · exact .inl ⟨(Option.some.inj h).symm, rfl⟩
    · exact .inr ⟨(Option.some.inj h).symm, rfl⟩
    · cases h
  · rintro (⟨rfl, rfl⟩ | ⟨rfl, rfl⟩) <;> rfl

/-- A block comment from its opening mark to the mark that closes it. -/
def Comment.Whole (text : Text) : Prop := ∃ inside, Inside inside ∧ text = '/' :: '*' :: inside

/-- The part of a number literal up to the character `c`, which may not stand in it: a zero, the
mark of a base and characters of that base, or the characters of a literal in base ten. -/
inductive Radix.Accepted : Radix → Text → Char → Prop
  | marked {radix : Radix} {mark c : Char} {run : Text}
      (announced : Radix.ofMark? mark = some radix)
      (value : ∀ d, run.head? = some d → d.isAlphanum = true)
      (accepted : ∀ d ∈ run, radix.isRun d = true) : Accepted radix ('0' :: mark :: run) c
  | decimal {digit c : Char} {run : Text} (is_digit : digit.isDigit = true)
      (accepted : ∀ d ∈ run, isPointedRun d = true)
      (unannounced : digit = '0' → run = [] → Radix.ofMark? c = none) :
      Accepted .decimal (digit :: run) c

/-- What the text shows at the interval of an issue when its cause is the right one. -/
def Issue.Justified (source : Text) (i : Issue) : Prop :=
  match i.kind with
  | .unclosedString =>
    source[i.interval.first]? = some '"' ∧
      ¬ StringLiteral.HasQuote (source.drop (i.interval.first + 1))
  | .unclosedComment =>
    ['/', '*'] <+: source.drop i.interval.first ∧
      ∀ comment, comment <+: source.drop i.interval.first → ¬ Comment.Whole comment
  | .missingValue radix =>
    i.interval.last = i.interval.first + 1 ∧
      (radix = .hexadecimal ∧ i.interval.lookup source = ['0', 'x'] ∨
        radix = .binary ∧ i.interval.lookup source = ['0', 'b']) ∧
      ∀ c, source[i.interval.first + 2]? = some c → c.isAlphanum = false
  | .invalidCharacter radix c =>
    i.interval.last = i.interval.first ∧ source[i.interval.first]? = some c ∧
      c.isAlphanum = true ∧ radix.isDigit c = false ∧
      ∃ before literal, source.take i.interval.first = before ++ literal ∧ radix.Accepted literal c
  | .manyPoints count =>
    2 ≤ count ∧ (i.interval.lookup source).count '.' = count ∧
      (∃ digit run, i.interval.lookup source = digit :: run ∧ digit.isDigit = true ∧
        ∀ c ∈ run, isPointedRun c = true) ∧
      ∀ c, source[i.interval.last + 1]? = some c → isDecimalRun c = false

/-! ### The text at an issue -/

section At

variable (before lead covered skipped rest : Text)

/-- The text before the characters to blame, and the text from them on. -/
lemma append_at : before ++ (lead ++ covered ++ skipped) ++ rest =
    (before ++ lead) ++ (covered ++ (skipped ++ rest)) := by
  simp only [List.append_assoc]

lemma take_at : (before ++ (lead ++ covered ++ skipped) ++ rest).take (before.length + lead.length) =
    before ++ lead := by
  rw [append_at, ← List.length_append, List.take_left]

lemma getElem?_at (n : Nat) :
    (before ++ (lead ++ covered ++ skipped) ++ rest)[before.length + lead.length + n]? =
      (covered ++ (skipped ++ rest))[n]? := by
  rw [append_at, ← List.length_append, ← List.getElem?_drop, List.drop_left]

lemma drop_at : (before ++ (lead ++ covered ++ skipped) ++ rest).drop (before.length + lead.length) =
    covered ++ (skipped ++ rest) := by
  rw [append_at, ← List.length_append, List.drop_left]

lemma lookup_at (h : covered ≠ []) :
    (Interval.ofLength (before.length + lead.length) covered.length).lookup
      (before ++ (lead ++ covered ++ skipped) ++ rest) = covered := by
  rw [append_at, ← List.length_append]
  exact Interval.lookup_ofLength (before ++ lead) covered (skipped ++ rest) h

end At

/-- A run that stops before some text is not gone on with by the character there. -/
lemma Grammar.Stops.getElem?_zero {p : Char → Bool} {text : Text} (h : Stops p text) :
    ∀ c, text[0]? = some c → p c = false := by
  rwa [← List.head?_eq_getElem?]

/-- **Every form of a fault shows its cause.** -/
theorem Grammar.Fault.justified {kind : Issue.Kind} {lead covered skipped rest : Text}
    (h : Fault kind lead covered skipped rest) (before : Text) :
    Issue.Justified (before ++ (lead ++ covered ++ skipped) ++ rest)
      ⟨kind, .ofLength (before.length + lead.length) covered.length⟩ := by
  have hdrop := drop_at before lead covered skipped rest
  have htake := take_at before lead covered skipped rest
  have hget := getElem?_at before lead covered skipped rest
  have hlookup := lookup_at before lead covered skipped rest h.covered_ne_nil
  have hfirst := hget 0
  generalize hs : before ++ (lead ++ covered ++ skipped) ++ rest = source at *
  cases h with
  | @unclosedString body unended =>
      refine ⟨hfirst, fun hq => ?_⟩
      obtain ⟨inner, after, hb, heq⟩ := StringLiteral.hasQuote_iff.1 hq
      rw [Interval.first_ofLength, ← List.tail_drop, hdrop] at heq
      refine unended inner after hb ?_
      simpa using heq
  | @unclosedComment body unended =>
      refine ⟨⟨body, (List.append_nil _).symm.trans hdrop.symm⟩, ?_⟩
      rintro _ ⟨after, ha⟩ ⟨inside, hi, rfl⟩
      refine unended inside after hi ?_
      simpa using (ha.trans hdrop).symm
  | @missingValue radix mark _ _ announced no_value recovers =>
      refine ⟨rfl, ?_, fun c hc => ?_⟩
      · rw [hlookup]
        rcases Radix.ofMark?_eq_some_iff.1 announced with ⟨rfl, rfl⟩ | ⟨rfl, rfl⟩
        · exact .inl ⟨rfl, rfl⟩
        · exact .inr ⟨rfl, rfl⟩
      · exact no_value.getElem?_zero c ((hget 2).symm.trans hc)
  | @strayInMarked radix mark c run _ _ announced value accepted stray refused recovers =>
      rw [Radix.isRun, Bool.or_eq_false_iff] at refused
      exact ⟨rfl, hfirst, stray, refused.2, before, _, htake, .marked announced value accepted⟩
  | @strayInDecimal digit c run _ _ is_digit accepted stray refused unannounced recovers =>
      rw [isPointedRun, Bool.or_eq_false_iff, Bool.or_eq_false_iff] at refused
      exact ⟨rfl, hfirst, stray, refused.1.1, before, _, htake,
        .decimal is_digit accepted unannounced⟩
  | @manyPoints digit run _ _ is_digit accepted points stops recovers =>
      have hpoint : digit ≠ '.' := by
        rintro rfl
        cases is_digit
      refine ⟨points, ?_, ⟨digit, run, hlookup, is_digit, accepted⟩, fun c hc => ?_⟩
      · rw [hlookup, List.count_cons_of_ne hpoint]
      · have hnext := hget (digit :: run).length
        rw [List.getElem?_append_right (Nat.le_refl _), Nat.sub_self] at hnext
        exact stops.getElem?_zero c (hnext.symm.trans hc)

/-! ### The issues of a text -/

/-- What the issues of a text tell about it: there are some, they lie within the text, in order and
apart, at most one of them is an unclosed string or comment, which is then the last one and reaches
to the end of the text, and each is justified. -/
structure Diagnosis (source : Text) (is : List Issue) : Prop where
  nonempty : is ≠ []
  within : ∀ i ∈ is, i.interval.first ≤ i.interval.last ∧ i.interval.last < source.length
  ordered : is.Pairwise fun i j => i.interval.last < j.interval.first
  unclosed_once : is.countP (fun i => decide i.kind.Unclosed) ≤ 1
  unclosed_last : ∀ before i after, is = before ++ i :: after → i.kind.Unclosed →
    after = [] ∧ i.interval.last + 1 = source.length
  justified : ∀ i ∈ is, i.Justified source

/-- What occurs only at the end of a list occurs at most once. -/
lemma countP_le_one_of_last {α : Type} {p : α → Bool} {l : List α}
    (h : ∀ before a after, l = before ++ a :: after → p a = true → after = []) :
    l.countP p ≤ 1 := by
  induction l with
  | nil => exact Nat.zero_le 1
  | cons a l ih =>
      by_cases ha : p a = true
      · rw [h [] a l rfl ha]
        exact List.countP_le_length
      · rw [List.countP_cons_of_neg ha]
        refine ih fun before b after hl hb => ?_
        exact h (a :: before) b after (by rw [hl, List.cons_append]) hb

/-- An unclosed string or comment is the last issue and reaches to the end of the text. -/
lemma eq_nil_of_unclosed {source : Text} {is js : List Issue} {i : Issue}
    (h : issues source = is ++ i :: js) (hu : i.kind.Unclosed) :
    js = [] ∧ i.interval.last + 1 = source.length := by
  obtain ⟨before, lead, covered, skipped, rest, rfl, hfault, hplace, -, rfl⟩ :=
    exists_fault_of_issues_eq h
  obtain ⟨rfl, rfl⟩ := hfault.eq_nil_of_unclosed hu
  have hpos := List.length_pos_iff.2 hfault.covered_ne_nil
  refine ⟨by rw [issues_eq, pieces_nil]; rfl, ?_⟩
  rw [hplace, Interval.last_ofLength]
  simp only [List.append_nil, List.length_append]
  omega

/-- Every issue is justified. -/
lemma justified_of_mem_issues {source : Text} {i : Issue} (h : i ∈ issues source) :
    i.Justified source := by
  obtain ⟨is, js, hsplit⟩ := List.append_of_mem h
  obtain ⟨before, lead, covered, skipped, rest, rfl, hfault, hplace, -, -⟩ :=
    exists_fault_of_issues_eq hsplit
  have hj := hfault.justified before
  rwa [← hplace] at hj

/-- **Every issue is justified by the text**, and the issues are in order. -/
theorem diagnosis_of_lex {source : Text} {is : List Issue} (h : lex source = .error is) :
    Diagnosis source is := by
  obtain ⟨hne, rfl⟩ := lex_eq_error_iff.1 h
  exact {
    nonempty := hne
    within := fun i hi => ⟨i.interval.first_le_last, last_lt_length_of_mem_issues hi⟩
    ordered := issues_pairwise source
    unclosed_once := countP_le_one_of_last fun before i after hsplit hu =>
      (eq_nil_of_unclosed hsplit (of_decide_eq_true hu)).1
    unclosed_last := fun before i after hsplit hu => eq_nil_of_unclosed hsplit hu
    justified := fun i hi => justified_of_mem_issues hi }

/-- Four issues on one line, the last of them an unclosed string. -/
theorem diagnosis_of_line :
    ∃ is, lex "0b 1..2 0xfg \"a\\\"".toList = .error is ∧ is.length = 4 ∧
      Diagnosis "0b 1..2 0xfg \"a\\\"".toList is := by
  have h : lex "0b 1..2 0xfg \"a\\\"".toList = .error
      [⟨.missingValue .binary, .ofLength 0 2⟩, ⟨.manyPoints 2, .ofLength 3 4⟩,
        ⟨.invalidCharacter .hexadecimal 'g', .single 11⟩, ⟨.unclosedString, .ofLength 13 4⟩] := by
    decide +kernel
  exact ⟨_, h, rfl, diagnosis_of_lex h⟩

end Lexical
