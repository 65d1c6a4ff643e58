import Lexical.Text

/-!
String literals, seen from just after the opening quote.

* `StringLiteral.split?`: the body of the literal and the text after its closing quote.
* `StringLiteral.Body`: what a body may be, without reference to the function that finds it.
* `StringLiteral.split?_eq_some_iff`: a text splits exactly where a body is followed by a quote,
  so there is at most one way to split it.
-/

namespace Lexical.StringLiteral

/-- Splits a text at its first quote that is not escaped. A backslash protects the character
after it, whatever that is, and both are kept in the body. -/
def split? : Text → Option (Text × Text)
  | [] => none
  | '"' :: after => some ([], after)
  | '\\' :: c :: rest => (split? rest).map fun (body, after) => ('\\' :: c :: body, after)
  | c :: rest => (split? rest).map fun (body, after) => (c :: body, after)

/-- The bodies of string literals: characters other than the quote and the backslash, and
backslashes followed by any one character. -/
inductive Body : Text → Prop
  | nil : Body []
  | plain {c : Char} {body : Text} (not_quote : c ≠ '"') (not_backslash : c ≠ '\\') :
      Body body → Body (c :: body)
  | escaped (c : Char) {body : Text} : Body body → Body ('\\' :: c :: body)

/-- A character that is neither the quote nor the backslash belongs to the body. -/
theorem split?_plain {c : Char} (not_quote : c ≠ '"') (not_backslash : c ≠ '\\') (rest : Text) :
    split? (c :: rest) = (split? rest).map fun (body, after) => (c :: body, after) := by
  rw [split?] <;> grind

/-- A body followed by a quote splits there. -/
theorem Body.split?_append {body : Text} (h : Body body) (after : Text) :
    split? (body ++ '"' :: after) = some (body, after) := by
  induction h with
  | nil => simp [split?]
  | plain not_quote not_backslash _ ih =>
    rw [List.cons_append, split?_plain not_quote not_backslash, ih]
    rfl
  | escaped c _ ih =>
    rw [List.cons_append, List.cons_append, split?, ih]
    rfl

/-- What comes before the split is a body, and the quote stands right after it. -/
theorem body_of_split? {text body after : Text} (h : split? text = some (body, after)) :
    Body body ∧ text = body ++ '"' :: after := by
  fun_induction split? text generalizing body with
  | case1 => simp at h
  | case2 rest =>
    obtain ⟨rfl, rfl⟩ := Prod.mk.inj (Option.some.inj h)
    exact ⟨.nil, rfl⟩
  | case3 c rest ih =>
    obtain ⟨⟨inner, _⟩, found, eq⟩ := Option.map_eq_some_iff.1 h
    obtain ⟨rfl, rfl⟩ := Prod.mk.inj eq
    obtain ⟨ok, rfl⟩ := ih found
    exact ⟨.escaped c ok, rfl⟩
  | case4 c rest not_quote not_escape ih =>
    obtain ⟨⟨inner, _⟩, found, eq⟩ := Option.map_eq_some_iff.1 h
    obtain ⟨rfl, rfl⟩ := Prod.mk.inj eq
    obtain ⟨ok, rfl⟩ := ih found
    refine ⟨.plain not_quote ?_ ok, rfl⟩
    rintro rfl
    cases inner with
    | nil => exact not_escape _ _ rfl rfl
    | cons => exact not_escape _ _ rfl rfl

/-- A text splits exactly where a body is followed by a quote. -/
theorem split?_eq_some_iff {text body after : Text} :
    split? text = some (body, after) ↔ Body body ∧ text = body ++ '"' :: after :=
  ⟨body_of_split?, fun ⟨ok, eq⟩ => eq ▸ ok.split?_append after⟩

end Lexical.StringLiteral
