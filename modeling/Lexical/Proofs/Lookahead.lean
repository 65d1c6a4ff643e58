import Lexical.Proofs.Fault

/-!
What elements and faults depend on beyond their own text: one more character at most.

* `Grammar.Element.of_head`, `Grammar.Fault.of_head`: only the first character of what follows
  matters, and only while there is one, so that a text may be cut off after each of its parts.
* `Grammar.Element.before_blank`, `Grammar.Fault.before_blank`: what stands at the end of a text
  stands before a blank as well, apart from line comments and from what the end leaves unclosed.
-/

namespace Lexical

open Character Grammar

/-! ### What follows an element -/

namespace Grammar

lemma Stops.of_head {p : Char → Bool} {rest rest' : Text}
    (hh : ∀ c, rest'.head? = some c → rest.head? = some c) (h : Stops p rest) : Stops p rest' :=
  fun c hc => h c (hh c hc)

/-- Where neither part goes on with a run, the two together do not. -/
lemma Stops.append {p : Char → Bool} {a b : Text} (ha : Stops p a) (hb : Stops p b) :
    Stops p (a ++ b) := by
  cases a with
  | nil => exact hb
  | cons c more => exact stops_cons.2 (stops_cons.1 ha)

lemma StandsAlone.of_head {c : Char} {rest rest' : Text}
    (hh : ∀ d, rest'.head? = some d → rest.head? = some d) (h : StandsAlone c rest) :
    StandsAlone c rest' :=
  fun d hd => h d (hh d hd)

/-- A common first part does not change how two texts compare at their heads. -/
lemma head_append {rest rest' : Text} (hh : ∀ c, rest'.head? = some c → rest.head? = some c)
    (a : Text) : ∀ c, (a ++ rest').head? = some c → (a ++ rest).head? = some c := by
  cases a with
  | nil => exact hh
  | cons d more => exact fun c hc => hc

/-- Of what follows an element only the first character matters, and only while there is one. -/
lemma Element.of_head {kind : Option Token.Kind} {text rest rest' : Text}
    (hh : ∀ c, rest'.head? = some c → rest.head? = some c) (h : Element kind text rest) :
    Element kind text rest' := by
  cases h with
  | blank blank => exact .blank blank
  | lineComment within stops => exact .lineComment within (stops.of_head hh)
  | blockComment inside_ok => exact .blockComment inside_ok
  | string body_ok => exact .string body_ok
  | marked announced is_digit accepted stops =>
      exact .marked announced is_digit accepted (stops.of_head hh)
  | decimal is_digit accepted one_point stops =>
      exact .decimal is_digit accepted one_point (stops.of_head hh)
  | name start accepted stops => exact .name start accepted (stops.of_head hh)
  | pair written => exact .pair written
  | single written alone => exact .single written (alone.of_head hh)
  | other no_boundary no_digit no_start alone =>
      exact .other no_boundary no_digit no_start (alone.of_head hh)

lemma Recovers.of_head {skipped rest rest' : Text}
    (hh : ∀ c, rest'.head? = some c → rest.head? = some c) (h : Recovers skipped rest) :
    Recovers skipped rest' :=
  ⟨h.within, h.stops.of_head hh⟩

/-- Of what follows a fault only the first character matters, and only while there is one. -/
lemma Fault.of_head {kind : Issue.Kind} {lead covered skipped rest rest' : Text}
    (hh : ∀ c, rest'.head? = some c → rest.head? = some c)
    (h : Fault kind lead covered skipped rest) : Fault kind lead covered skipped rest' := by
  have hnil : rest = [] → rest' = [] := by
    rintro rfl
    cases rest' with
    | nil => rfl
    | cons c more => cases hh c rfl
  cases h with
  | unclosedString unended =>
      rw [hnil rfl]
      exact .unclosedString unended
  | unclosedComment unended =>
      rw [hnil rfl]
      exact .unclosedComment unended
  | missingValue announced no_value recovers =>
      exact .missingValue announced (no_value.of_head (head_append hh skipped))
        (recovers.of_head hh)
  | strayInMarked announced value accepted stray refused recovers =>
      exact .strayInMarked announced value accepted stray refused (recovers.of_head hh)
  | strayInDecimal is_digit accepted stray refused unannounced recovers =>
      exact .strayInDecimal is_digit accepted stray refused unannounced (recovers.of_head hh)
  | manyPoints is_digit accepted points stops recovers =>
      exact .manyPoints is_digit accepted points (stops.of_head (head_append hh skipped))
        (recovers.of_head hh)

/-! ### Before a blank -/

/-- A blank is no part of a name or number. -/
lemma not_run_of_isBlank {d : Char} (h : isBlank d = true) :
    isNameRest d = false ∧ isDecimalRun d = false ∧ d.isAlphanum = false := by
  simp only [isBlank, Bool.or_eq_true, beq_iff_eq] at h
  rcases h with ((((rfl | rfl) | rfl) | rfl) | rfl) | rfl <;> exact ⟨rfl, rfl, rfl⟩

lemma isBlank_of_mem_lexeme {op : Operator} {c : Char} (h : c ∈ op.lexeme) :
    isBlank c = false := by
  have hall : op.lexeme.all (fun c => !isBlank c) = true := by
    cases op <;> rfl
  have hc := List.all_eq_true.1 hall c h
  rwa [Bool.not_eq_true'] at hc

/-- Before a blank every character stands alone. -/
lemma standsAlone_of_isBlank {d : Char} (h : isBlank d = true) (c : Char) (rest : Text) :
    StandsAlone c (d :: rest) := by
  intro e he
  obtain rfl := Option.some.inj he
  refine ⟨?_, ?_⟩
  · cases hp : Operator.ofPair? c d with
    | none => rfl
    | some op =>
        have hmem : d ∈ op.lexeme := by
          rw [Operator.ofPair?_eq_some_iff.1 hp]
          exact List.mem_cons_of_mem c (List.mem_singleton_self d)
        rw [isBlank_of_mem_lexeme hmem] at h
        cases h
  · rintro ⟨-, rfl | rfl⟩ <;> cases h

/-- An element at the end of a text is one before a blank as well, except that a line comment is
ended by a line feed only. -/
lemma Element.before_blank {kind : Option Token.Kind} {text : Text} {d : Char}
    (hd : isBlank d = true) (hk : kind = none → d = '\n') (rest : Text)
    (h : Element kind text []) : Element kind text (d :: rest) := by
  obtain ⟨hname, hdecimal, -⟩ := not_run_of_isBlank hd
  cases h with
  | blank blank => exact .blank blank
  | lineComment within stops =>
      rw [hk rfl]
      exact .lineComment within (stops_cons.2 rfl)
  | blockComment inside_ok => exact .blockComment inside_ok
  | string body_ok => exact .string body_ok
  | marked announced is_digit accepted stops =>
      exact .marked announced is_digit accepted (stops_cons.2 hname)
  | decimal is_digit accepted one_point stops =>
      exact .decimal is_digit accepted one_point (stops_cons.2 hdecimal)
  | name start accepted stops => exact .name start accepted (stops_cons.2 hname)
  | pair written => exact .pair written
  | single written alone => exact .single written (standsAlone_of_isBlank hd _ rest)
  | other no_boundary no_digit no_start alone =>
      exact .other no_boundary no_digit no_start (standsAlone_of_isBlank hd _ rest)

end Grammar

/-- The causes that take a whole text to come about: nothing that follows can be read. -/
def Issue.Kind.Unclosed (kind : Issue.Kind) : Prop :=
  kind = .unclosedString ∨ kind = .unclosedComment

instance (kind : Issue.Kind) : Decidable kind.Unclosed :=
  inferInstanceAs (Decidable (_ ∨ _))

namespace Grammar

/-- What is unclosed takes the text up to its end. -/
lemma Fault.eq_nil_of_unclosed {kind : Issue.Kind} {lead covered skipped rest : Text}
    (hk : kind.Unclosed) (h : Fault kind lead covered skipped rest) :
    skipped = [] ∧ rest = [] := by
  cases h with
  | unclosedString _ => exact ⟨rfl, rfl⟩
  | unclosedComment _ => exact ⟨rfl, rfl⟩
  | missingValue _ _ _ => rcases hk with hk | hk <;> cases hk
  | strayInMarked _ _ _ _ _ _ => rcases hk with hk | hk <;> cases hk
  | strayInDecimal _ _ _ _ _ _ => rcases hk with hk | hk <;> cases hk
  | manyPoints _ _ _ _ _ => rcases hk with hk | hk <;> cases hk

/-- Recovery at the end of a text stops before a blank as well. -/
lemma Recovers.before_blank {skipped : Text} {d : Char} (hd : isBlank d = true) (rest : Text)
    (h : Recovers skipped []) : Recovers skipped (d :: rest) := by
  refine ⟨h.within, stops_cons.2 ?_⟩
  rw [isBoundary_eq_true_iff.2 (.inl hd)]
  rfl

/-- A malformed number at the end of a text is the same before a blank. -/
lemma Fault.before_blank {kind : Issue.Kind} {lead covered skipped : Text} {d : Char}
    (hd : isBlank d = true) (hk : ¬ kind.Unclosed) (rest : Text)
    (h : Fault kind lead covered skipped []) : Fault kind lead covered skipped (d :: rest) := by
  obtain ⟨-, hdecimal, halnum⟩ := not_run_of_isBlank hd
  cases h with
  | unclosedString _ => exact absurd (.inl rfl) hk
  | unclosedComment _ => exact absurd (.inr rfl) hk
  | missingValue announced no_value recovers =>
      rw [List.append_nil] at no_value
      exact .missingValue announced (no_value.append (stops_cons.2 halnum))
        (recovers.before_blank hd rest)
  | strayInMarked announced value accepted stray refused recovers =>
      exact .strayInMarked announced value accepted stray refused (recovers.before_blank hd rest)
  | strayInDecimal is_digit accepted stray refused unannounced recovers =>
      exact .strayInDecimal is_digit accepted stray refused unannounced
        (recovers.before_blank hd rest)
  | manyPoints is_digit accepted points stops recovers =>
      rw [List.append_nil] at stops
      exact .manyPoints is_digit accepted points (stops.append (stops_cons.2 hdecimal))
        (recovers.before_blank hd rest)

end Grammar

end Lexical
