import Lexical.Text

/-!
Block comments, which nest, seen from inside.

* `Comment.close?`: the text up to the mark that closes the outermost open comment, and the text
  after it.
* `Comment.Inside`: the texts from just after the opening mark of a comment up to and including
  its closing mark, without reference to the function that finds them.
* `Comment.close?_zero_eq_some_iff`: a text is cut exactly after such a part, so there is at most
  one way to cut it.
-/

namespace Lexical.Comment

/-- Cuts a text that stands inside `depth + 1` open comments after the mark that closes the
outermost one. Marks are read from left to right and do not overlap. -/
def close? : Nat → Text → Option (Text × Text)
  | _, [] => none
  | depth, '/' :: '*' :: rest =>
    (close? (depth + 1) rest).map fun (inside, after) => ('/' :: '*' :: inside, after)
  | 0, '*' :: '/' :: after => some (['*', '/'], after)
  | depth + 1, '*' :: '/' :: rest =>
    (close? depth rest).map fun (inside, after) => ('*' :: '/' :: inside, after)
  | depth, c :: rest => (close? depth rest).map fun (inside, after) => (c :: inside, after)

/-- A mark that opens or closes a comment stands at the head of the text. -/
def StartsMark (text : Text) : Prop := ['/', '*'] <+: text ∨ ['*', '/'] <+: text

/-- The texts from just after the opening mark of a comment up to and including its closing mark:
any sequence of whole comments and of characters at whose place no mark starts, and then the
closing mark. -/
inductive Inside : Text → Prop
  | close : Inside ['*', '/']
  | plain {c : Char} {rest : Text} (no_mark : ¬ StartsMark (c :: rest)) :
      Inside rest → Inside (c :: rest)
  | nested {inner rest : Text} :
      Inside inner → Inside rest → Inside ('/' :: '*' :: (inner ++ rest))

/-- The texts that close `depth + 1` comments, one after the other. -/
def Closes : Nat → Text → Prop
  | 0, text => Inside text
  | depth + 1, text => ∃ inner rest, Inside inner ∧ Closes depth rest ∧ text = inner ++ rest

/-! ### One step of the cut -/

/-- A mark at the head stays there when text is appended. -/
theorem startsMark_append {text : Text} (after : Text) (h : StartsMark text) :
    StartsMark (text ++ after) :=
  h.imp (·.trans (List.prefix_append _ _)) (·.trans (List.prefix_append _ _))

/-- The rest of a comment is never empty. -/
theorem Inside.exists_cons {text : Text} (h : Inside text) : ∃ c rest, text = c :: rest := by
  cases h <;> exact ⟨_, _, rfl⟩

/-- At a character that begins no mark the cut goes on to the next one. -/
theorem close?_plain {c : Char} {rest : Text} (h : ¬ StartsMark (c :: rest)) (depth : Nat) :
    close? depth (c :: rest) =
      (close? depth rest).map fun (inside, after) => (c :: inside, after) := by
  have not_open : ∀ r, c = '/' → rest = '*' :: r → False := by
    rintro r rfl rfl
    exact h (.inl ⟨r, rfl⟩)
  have not_close : ∀ r, c = '*' → rest = '/' :: r → False := by
    rintro r rfl rfl
    exact h (.inr ⟨r, rfl⟩)
  cases depth <;> rw [close?] <;> grind

/-- A mark has two characters, so what follows two characters does not matter to it. -/
theorem startsMark_of_startsMark_append {c : Char} {rest after : Text}
    (nonempty : ∃ d r, rest = d :: r) (h : StartsMark (c :: (rest ++ after))) :
    StartsMark (c :: rest) := by
  obtain ⟨d, r, rfl⟩ := nonempty
  simpa [StartsMark] using h

/-! ### The cut finds what closes -/

/-- The part that closes the innermost comment is passed, and the cut goes on one comment further
out. -/
theorem Inside.close?_append {inner : Text} (h : Inside inner) :
    (∀ after, close? 0 (inner ++ after) = some (inner, after)) ∧
    ∀ depth after, close? (depth + 1) (inner ++ after) =
      (close? depth after).map fun (inside, rest) => (inner ++ inside, rest) := by
  induction h with
  | close => exact ⟨fun _ => rfl, fun _ _ => rfl⟩
  | @plain c rest no_mark ok ih =>
    have next : ∀ after, ¬ StartsMark (c :: (rest ++ after)) := fun after mark =>
      no_mark (startsMark_of_startsMark_append ok.exists_cons mark)
    constructor
    · intro after
      rw [List.cons_append, close?_plain (next after), ih.1]
      rfl
    · intro depth after
      rw [List.cons_append, close?_plain (next after), ih.2, Option.map_map]
      rfl
  | nested _ _ ih_inner ih_rest =>
    constructor
    · intro after
      simp only [List.cons_append, List.append_assoc, close?]
      rw [ih_inner.2, ih_rest.1]
      simp
    · intro depth after
      simp only [List.cons_append, List.append_assoc, close?]
      rw [ih_inner.2, ih_rest.2, Option.map_map, Option.map_map]
      rfl

/-- A whole comment may stand before what closes the open ones. -/
theorem Closes.nested {inner : Text} (h : Inside inner) :
    ∀ {depth : Nat} {rest : Text}, Closes depth rest →
      Closes depth ('/' :: '*' :: (inner ++ rest))
  | 0, _, closed => Inside.nested h closed
  | _ + 1, _, ⟨a, b, closed, outer, eq⟩ =>
    ⟨'/' :: '*' :: (inner ++ a), b, Inside.nested h closed, outer, by simp [eq]⟩

/-- A character that begins no mark may stand before what closes the open comments. -/
theorem Closes.plain {c : Char} :
    ∀ {depth : Nat} {rest : Text}, ¬ StartsMark (c :: rest) → Closes depth rest →
      Closes depth (c :: rest)
  | 0, _, no_mark, closed => Inside.plain no_mark closed
  | _ + 1, _, no_mark, ⟨a, b, closed, outer, eq⟩ => by
    subst eq
    refine ⟨c :: a, b, Inside.plain (fun mark => no_mark ?_) closed, outer, rfl⟩
    exact startsMark_append b mark

/-- What the cut passes closes every open comment. -/
theorem closes_of_close? {depth : Nat} {text inside after : Text}
    (h : close? depth text = some (inside, after)) :
    Closes depth inside ∧ text = inside ++ after := by
  fun_induction close? depth text generalizing inside with
  | case1 => simp at h
  | case2 depth rest ih =>
    obtain ⟨⟨inner, _⟩, found, eq⟩ := Option.map_eq_some_iff.1 h
    obtain ⟨rfl, rfl⟩ := Prod.mk.inj eq
    obtain ⟨⟨a, b, closed, outer, rfl⟩, rfl⟩ := ih found
    exact ⟨.nested closed outer, rfl⟩
  | case3 rest =>
    obtain ⟨rfl, rfl⟩ := Prod.mk.inj (Option.some.inj h)
    exact ⟨Inside.close, rfl⟩
  | case4 depth rest ih =>
    obtain ⟨⟨inner, _⟩, found, eq⟩ := Option.map_eq_some_iff.1 h
    obtain ⟨rfl, rfl⟩ := Prod.mk.inj eq
    obtain ⟨closed, rfl⟩ := ih found
    exact ⟨⟨_, _, .close, closed, rfl⟩, rfl⟩
  | case5 depth c rest not_open not_close₀ not_close ih =>
    obtain ⟨⟨inner, _⟩, found, eq⟩ := Option.map_eq_some_iff.1 h
    obtain ⟨rfl, rfl⟩ := Prod.mk.inj eq
    obtain ⟨closed, rfl⟩ := ih found
    refine ⟨.plain (fun mark => ?_) closed, rfl⟩
    rcases startsMark_append _ mark with ⟨r, head⟩ | ⟨r, head⟩
    · obtain ⟨same, more⟩ := List.cons.inj head
      exact not_open r same.symm more.symm
    · obtain ⟨same, more⟩ := List.cons.inj head
      cases depth with
      | zero => exact not_close₀ r rfl same.symm more.symm
      | succ d => exact not_close d r rfl same.symm more.symm

/-- A text is cut exactly after a part that closes the one open comment. -/
theorem close?_zero_eq_some_iff {text inside after : Text} :
    close? 0 text = some (inside, after) ↔ Inside inside ∧ text = inside ++ after :=
  ⟨closes_of_close?, fun ⟨ok, eq⟩ => eq ▸ ok.close?_append.1 after⟩

end Lexical.Comment
