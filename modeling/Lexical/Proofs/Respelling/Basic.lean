import Lexical.Grammar.Runs
import Lexical.Piece.Read
import Mathlib.Tactic.Common

/-!
Respelled texts.

* `Respelling`: a change of characters that leaves ASCII as it is, except that it may drop carriage
  returns, and keeps all other characters outside ASCII.
* `Respelling.Fits`: the texts it is meant for: where it drops carriage returns, a line feed follows
  each of them.
* `Respelling.takeWhile_text`, `Respelling.dropWhile_text`: runs of a character class are respelled
  as a whole.
* `Respelling.split?_text`, `Respelling.close?_text`: so are string literals and block comments.
-/

namespace Lexical

open Character

/-- A change of the spelling of texts. ASCII characters stay as they are, except that carriage
returns may be dropped; characters outside ASCII may become others outside ASCII. -/
structure Respelling where
  spell : Char → Option Char
  spell_ascii : ∀ {c : Char}, isAscii c = true → c ≠ '\r' → spell c = some c
  spell_return : spell '\r' = none ∨ spell '\r' = some '\r'
  spell_beyond : ∀ {c : Char}, isAscii c = false → ∃ d, spell c = some d ∧ isAscii d = false

/-- Every carriage return of the text is followed directly by a line feed. -/
def ReturnsPaired (source : Text) : Prop :=
  ∀ k : Nat, source[k]? = some '\r' → source[k + 1]? = some '\n'

instance (source : Text) : Decidable (ReturnsPaired source) :=
  decidable_of_iff (∀ k < source.length, source[k]? = some '\r' → source[k + 1]? = some '\n')
    ⟨fun h k hk => h k (List.getElem?_eq_some_iff.1 hk).1 hk, fun h k _ => h k⟩

namespace Respelling

variable {r : Respelling}

/-- The respelled text. -/
def text (r : Respelling) (source : Text) : Text := source.filterMap r.spell

/-- A text is fit for a respelling that drops carriage returns if a line feed follows each of
them. -/
def Fits (r : Respelling) (source : Text) : Prop := r.spell '\r' = none → ReturnsPaired source

/-! ### Characters -/

/-- What becomes of a character: it stays, or it is outside ASCII and becomes another one there, or
it is a carriage return that is dropped. -/
lemma spell_cases (r : Respelling) (c : Char) :
    (∃ d, r.spell c = some d ∧ (d = c ∨ isAscii c = false ∧ isAscii d = false)) ∨
      r.spell c = none ∧ c = '\r' := by
  cases ha : isAscii c with
  | false =>
      obtain ⟨d, hd, hbeyond⟩ := r.spell_beyond ha
      exact .inl ⟨d, hd, .inr ⟨rfl, hbeyond⟩⟩
  | true =>
      by_cases hc : c = '\r'
      · rw [hc]
        exact r.spell_return.symm.imp (fun h => ⟨_, h, .inl rfl⟩) (⟨·, rfl⟩)
      · exact .inl ⟨c, r.spell_ascii ha hc, .inl rfl⟩

/-- A function of characters that does not tell those outside ASCII apart. -/
def AsciiOnly {α : Type} (g : Char → α) : Prop :=
  ∀ c d, isAscii c = false → isAscii d = false → g c = g d

lemma asciiOnly_of_class {p : Char → Bool} (h : ∀ c, p c = true → isAscii c = true) :
    AsciiOnly p := by
  have hfalse : ∀ c, isAscii c = false → p c = false := by
    intro c hc
    rw [← Bool.not_eq_true]
    intro hp
    rw [h c hp] at hc
    cases hc
  intro c d hc hd
  rw [hfalse c hc, hfalse d hd]

lemma asciiOnly_eq {a : Char} (ha : isAscii a = true) : AsciiOnly fun c => decide (c = a) :=
  asciiOnly_of_class fun c hc => by rwa [of_decide_eq_true hc]

lemma AsciiOnly.comp {α β : Type} {g : Char → α} (h : AsciiOnly g) (f : α → β) :
    AsciiOnly fun c => f (g c) :=
  fun c d hc hd => congrArg f (h c d hc hd)

/-- Such a function has the same value at a character and at what becomes of it. -/
lemma AsciiOnly.eq_of_spell {α : Type} {g : Char → α} (hg : AsciiOnly g) {c d : Char}
    (h : r.spell c = some d) : g d = g c := by
  rcases r.spell_cases c with ⟨e, he, hcase⟩ | ⟨hnone, -⟩
  · obtain rfl := Option.some.inj (h.symm.trans he)
    rcases hcase with rfl | ⟨hc, hd⟩
    · rfl
    · exact hg d c hd hc
  · rw [hnone] at h
    cases h

/-- Nothing else becomes an ASCII character. -/
lemma eq_of_spell_ascii {c d : Char} (h : r.spell c = some d) (hd : isAscii d = true ∨ isAscii c = true) :
    d = c := by
  rcases r.spell_cases c with ⟨e, he, rfl | ⟨hc, he'⟩⟩ | ⟨hnone, -⟩
  · exact Option.some.inj (h.symm.trans he)
  · obtain rfl := Option.some.inj (h.symm.trans he)
    rcases hd with hd | hd
    · rw [hd] at he'
      cases he'
    · rw [hd] at hc
      cases hc
  · rw [hnone] at h
    cases h

/-- What becomes of a character is a given ASCII character only if it was before. -/
lemma eq_iff_of_spell {a c d : Char} (h : r.spell c = some d) (ha : isAscii a = true) :
    d = a ↔ c = a := by
  constructor
  · rintro rfl
    exact (eq_of_spell_ascii h (.inl ha)).symm
  · rintro rfl
    exact eq_of_spell_ascii h (.inr ha)

/-! ### Texts -/

@[simp] lemma text_nil (r : Respelling) : r.text [] = [] := rfl

lemma text_cons {c d : Char} (h : r.spell c = some d) (rest : Text) :
    r.text (c :: rest) = d :: r.text rest :=
  List.filterMap_cons_some h

lemma text_cons_none {c : Char} (h : r.spell c = none) (rest : Text) :
    r.text (c :: rest) = r.text rest :=
  List.filterMap_cons_none h

lemma text_cons_ascii {c : Char} (ha : isAscii c = true) (hc : c ≠ '\r') (rest : Text) :
    r.text (c :: rest) = c :: r.text rest :=
  text_cons (r.spell_ascii ha hc) rest

@[simp] lemma text_append (r : Respelling) (a b : Text) : r.text (a ++ b) = r.text a ++ r.text b :=
  List.filterMap_append

lemma fits_nil (r : Respelling) : r.Fits [] := fun _ k hk => by cases hk

lemma Fits.right {a b : Text} (h : r.Fits (a ++ b)) : r.Fits b := by
  intro hdrop k hk
  have hpair := h hdrop (a.length + k)
  rw [List.getElem?_append_right (Nat.le_add_right _ _), Nat.add_sub_cancel_left, Nat.add_assoc,
    List.getElem?_append_right (Nat.le_add_right _ _), Nat.add_sub_cancel_left] at hpair
  exact hpair hk

lemma Fits.dropWhile {source : Text} (h : r.Fits source) (p : Char → Bool) :
    r.Fits (source.dropWhile p) := by
  rw [← List.takeWhile_append_dropWhile (p := p) (l := source)] at h
  exact h.right

lemma Fits.tail {c : Char} {rest : Text} (h : r.Fits (c :: rest)) : r.Fits rest :=
  Fits.right (a := [c]) h

/-- Behind a carriage return that is dropped there is a line feed, which stays. -/
lemma Fits.exists_lineFeed {rest : Text} (h : r.Fits ('\r' :: rest)) (hdrop : r.spell '\r' = none) :
    ∃ more, rest = '\n' :: more := by
  have hnext := h hdrop 0 rfl
  rw [List.getElem?_cons_succ, ← List.head?_eq_getElem?] at hnext
  exact List.head?_eq_some_iff.1 hnext

/-- A dropped character is a carriage return before a line feed. -/
lemma Fits.of_spell_eq_none {c : Char} {rest : Text} (h : r.Fits (c :: rest))
    (hdrop : r.spell c = none) : c = '\r' ∧ ∃ more, rest = '\n' :: more := by
  rcases r.spell_cases c with ⟨d, hd, -⟩ | ⟨hnone, rfl⟩
  · rw [hd] at hdrop
    cases hdrop
  · exact ⟨rfl, h.exists_lineFeed hnone⟩

/-- What a function sees at the head of a text does not change, if it tells neither characters
outside ASCII apart nor a carriage return from a line feed. -/
lemma head?_text {α : Type} {g : Char → α} (hg : AsciiOnly g) (hbreaks : g '\r' = g '\n')
    {rest : Text} (h : r.Fits rest) : (r.text rest).head?.map g = rest.head?.map g := by
  cases rest with
  | nil => rfl
  | cons c rest =>
      cases hc : r.spell c with
      | some d =>
          rw [text_cons hc, List.head?_cons, List.head?_cons, Option.map_some, Option.map_some,
            hg.eq_of_spell hc]
      | none =>
          obtain ⟨rfl, more, rfl⟩ := h.of_spell_eq_none hc
          rw [text_cons_none hc, text_cons_ascii rfl (by decide),
            List.head?_cons, List.head?_cons, Option.map_some, Option.map_some, hbreaks]

/-- An ASCII character that is no break stands at the head of a text before and after. -/
lemma head?_text_eq_some_iff {a : Char} (ha : isAscii a = true) (hcr : a ≠ '\r') (hlf : a ≠ '\n')
    {rest : Text} (h : r.Fits rest) : (r.text rest).head? = some a ↔ rest.head? = some a := by
  have hsame := head?_text (asciiOnly_eq ha) (by simp [hcr.symm, hlf.symm]) h
  have hiff : ∀ t : Text, t.head? = some a ↔
      t.head?.map (fun c => decide (c = a)) = some true := by
    intro t
    cases t <;> simp
  rw [hiff, hiff, hsame]

lemma stops_text {p : Char → Bool} (hp : AsciiOnly p) (hbreaks : p '\r' = p '\n') {rest : Text}
    (h : r.Fits rest) : Grammar.Stops p (r.text rest) ↔ Grammar.Stops p rest := by
  have hiff : ∀ t : Text, Grammar.Stops p t ↔ ∀ b, t.head?.map p = some b → b = false := by
    intro t
    cases t <;> simp [Grammar.Stops]
  rw [hiff, hiff, head?_text hp hbreaks h]

/-! ### Runs -/

section Runs

variable {p : Char → Bool} {source : Text}

/-- What becomes of a run of a class is one, if the class does not end between a carriage return
and a line feed. -/
lemma of_mem_text_takeWhile (hp : AsciiOnly p) :
    ∀ c ∈ r.text (source.takeWhile p), p c = true := by
  intro c hc
  obtain ⟨d, hd, hspell⟩ := List.mem_filterMap.1 hc
  rw [hp.eq_of_spell hspell]
  exact List.mem_takeWhile_imp hd

/-- What becomes of the text after a run does not go on with it, if the class of the run does not
begin between a carriage return and a line feed. -/
lemma stops_text_dropWhile (hp : AsciiOnly p) (hbreaks : p '\r' = false → p '\n' = false)
    (h : r.Fits source) : Grammar.Stops p (r.text (source.dropWhile p)) := by
  have hstop := Grammar.stops_dropWhile p source
  have hfits := h.dropWhile p
  cases hrest : source.dropWhile p with
  | nil => exact Grammar.stops_nil p
  | cons c more =>
      rw [hrest] at hstop hfits
      have hc := Grammar.stops_cons.1 hstop
      cases hspell : r.spell c with
      | some d =>
          rw [text_cons hspell, Grammar.stops_cons, hp.eq_of_spell hspell]
          exact hc
      | none =>
          obtain ⟨rfl, rest, rfl⟩ := hfits.of_spell_eq_none hspell
          rw [text_cons_none hspell, text_cons_ascii rfl (by decide), Grammar.stops_cons]
          exact hbreaks hc

variable (hp : AsciiOnly p) (hbreaks : p '\r' = false → p '\n' = false) (h : r.Fits source)
include hp hbreaks h

/-- A run is respelled as a whole. -/
lemma takeWhile_text : (r.text source).takeWhile p = r.text (source.takeWhile p) := by
  conv_lhs => rw [← List.takeWhile_append_dropWhile (p := p) (l := source), text_append]
  exact Grammar.Stops.takeWhile_append (of_mem_text_takeWhile hp) (stops_text_dropWhile hp hbreaks h)

/-- The text after a run is respelled by itself. -/
lemma dropWhile_text : (r.text source).dropWhile p = r.text (source.dropWhile p) := by
  conv_lhs => rw [← List.takeWhile_append_dropWhile (p := p) (l := source), text_append]
  exact Grammar.Stops.dropWhile_append (of_mem_text_takeWhile hp) (stops_text_dropWhile hp hbreaks h)

end Runs

/-- An ASCII character that is no carriage return is as frequent as before. -/
lemma count_text {a : Char} (ha : isAscii a = true) (hcr : a ≠ '\r') (source : Text) :
    (r.text source).count a = source.count a := by
  rw [text, List.count_filterMap, List.count]
  refine List.countP_congr fun c _ => ?_
  rw [beq_iff_eq, beq_iff_eq]
  constructor
  · exact fun h => (eq_of_spell_ascii h (.inl ha)).symm
  · rintro rfl
    exact r.spell_ascii ha hcr

/-! ### String literals and block comments -/

/-- Both parts of a cut text, respelled. -/
def parts (r : Respelling) (cut : Text × Text) : Text × Text := (r.text cut.1, r.text cut.2)

lemma parts_cons {c d : Char} (h : r.spell c = some d) (cut : Text × Text) :
    r.parts (c :: cut.1, cut.2) = (d :: (r.parts cut).1, (r.parts cut).2) := by
  rw [parts, text_cons h, parts]

lemma parts_cons_none {c : Char} (h : r.spell c = none) (cut : Text × Text) :
    r.parts (c :: cut.1, cut.2) = r.parts cut := by
  rw [parts, text_cons_none h, parts]

/-- The cut of a text that is one character longer, respelled. -/
lemma map_parts_cons {c d : Char} (h : r.spell c = some d) (found : Option (Text × Text)) :
    (found.map fun (body, after) => (c :: body, after)).map r.parts =
      (found.map r.parts).map fun (body, after) => (d :: body, after) := by
  rw [Option.map_map, Option.map_map]
  exact Option.map_congr fun cut _ => parts_cons h cut

lemma map_parts_cons_none {c : Char} (h : r.spell c = none) (found : Option (Text × Text)) :
    (found.map fun (body, after) => (c :: body, after)).map r.parts = found.map r.parts := by
  rw [Option.map_map]
  exact Option.map_congr fun cut _ => parts_cons_none h cut

/-- An escaped character is cut off together with the backslash before it. -/
lemma split?_escaped (c : Char) (rest : Text) :
    StringLiteral.split? ('\\' :: c :: rest) =
      ((StringLiteral.split? rest).map fun (body, after) => (c :: body, after)).map
        fun (body, after) => ('\\' :: body, after) := by
  rw [StringLiteral.split?, Option.map_map]
  rfl

/-- A string literal ends where it did. -/
lemma split?_text {source : Text} (h : r.Fits source) :
    StringLiteral.split? (r.text source) = (StringLiteral.split? source).map r.parts := by
  fun_induction StringLiteral.split? source with
  | case1 => rfl
  | case2 rest =>
      rw [text_cons_ascii rfl (by decide), StringLiteral.split?]
      rfl
  | case3 c rest ih =>
      have hslash : r.spell '\\' = some '\\' := r.spell_ascii rfl (by decide)
      have hrest := ih h.tail.tail
      rw [← StringLiteral.split?, split?_escaped, map_parts_cons hslash, text_cons hslash]
      cases hc : r.spell c with
      | some d => rw [text_cons hc, split?_escaped, hrest, map_parts_cons hc]
      | none =>
          obtain ⟨rfl, more, rfl⟩ := h.tail.of_spell_eq_none hc
          rw [text_cons_ascii rfl (by decide),
            StringLiteral.split?_plain (by decide) (by decide)] at hrest
          rw [text_cons_none hc, text_cons_ascii rfl (by decide), split?_escaped, hrest,
            map_parts_cons_none hc]
  | case4 c rest not_quote not_escape ih =>
      have hrest := ih h.tail
      cases hc : r.spell c with
      | some d =>
          rw [text_cons hc, map_parts_cons hc, ← hrest]
          by_cases hslash : c = '\\'
          · -- the backslash is the last character, and protects nothing
            obtain rfl : d = c := eq_of_spell_ascii hc (.inr (by rw [hslash]; rfl))
            cases rest with
            | nil =>
                rw [hslash]
                rfl
            | cons e more => exact absurd rfl (not_escape e more hslash)
          · refine StringLiteral.split?_plain ?_ ?_ (r.text rest)
            · exact mt (eq_iff_of_spell hc rfl).1 not_quote
            · exact mt (eq_iff_of_spell hc rfl).1 hslash
      | none =>
          rw [text_cons_none hc, map_parts_cons_none hc, hrest]

lemma startsMark_cons_iff {c : Char} {rest : Text} :
    Comment.StartsMark (c :: rest) ↔
      c = '/' ∧ rest.head? = some '*' ∨ c = '*' ∧ rest.head? = some '/' := by
  cases rest <;> simp [Comment.StartsMark, eq_comm]

/-- A mark begins where one did. -/
lemma startsMark_text {c d : Char} (hc : r.spell c = some d) {rest : Text} (h : r.Fits rest) :
    Comment.StartsMark (d :: r.text rest) ↔ Comment.StartsMark (c :: rest) := by
  rw [startsMark_cons_iff, startsMark_cons_iff, eq_iff_of_spell hc (a := '/') rfl,
    eq_iff_of_spell hc (a := '*') rfl,
    head?_text_eq_some_iff rfl (by decide) (by decide) h,
    head?_text_eq_some_iff rfl (by decide) (by decide) h]

/-- Block comments end where they did. -/
lemma close?_text {depth : Nat} {source : Text} (h : r.Fits source) :
    Comment.close? depth (r.text source) = (Comment.close? depth source).map r.parts := by
  have hslash : r.spell '/' = some '/' := r.spell_ascii rfl (by decide)
  have hstar : r.spell '*' = some '*' := r.spell_ascii rfl (by decide)
  fun_induction Comment.close? depth source with
  | case1 => rfl
  | case2 depth rest ih =>
      rw [text_cons hslash, text_cons hstar, Comment.close?, ih h.tail.tail, Option.map_map,
        Option.map_map]
      refine Option.map_congr fun cut _ => ?_
      rw [Function.comp_apply, Function.comp_apply, parts_cons hslash ('*' :: cut.1, cut.2),
        parts_cons hstar]
  | case3 rest =>
      rw [text_cons hstar, text_cons hslash, Comment.close?, Option.map_some, parts,
        text_cons hstar, text_cons hslash, text_nil]
  | case4 depth rest ih =>
      rw [text_cons hstar, text_cons hslash, Comment.close?, ih h.tail.tail, Option.map_map,
        Option.map_map]
      refine Option.map_congr fun cut _ => ?_
      rw [Function.comp_apply, Function.comp_apply, parts_cons hstar ('/' :: cut.1, cut.2),
        parts_cons hslash]
  | case5 depth c rest not_open not_close₀ not_close ih =>
      have hrest := ih h.tail
      cases hc : r.spell c with
      | some d =>
          have hmark : ¬ Comment.StartsMark (c :: rest) := by
            intro hmark
            rcases startsMark_cons_iff.1 hmark with ⟨rfl, hhead⟩ | ⟨rfl, hhead⟩
            · obtain ⟨more, rfl⟩ := List.head?_eq_some_iff.1 hhead
              exact not_open more rfl rfl
            · obtain ⟨more, rfl⟩ := List.head?_eq_some_iff.1 hhead
              cases depth with
              | zero => exact not_close₀ more rfl rfl rfl
              | succ depth => exact not_close depth more rfl rfl rfl
          rw [text_cons hc, map_parts_cons hc, ← hrest]
          exact Comment.close?_plain (mt (startsMark_text hc h.tail).1 hmark) depth
      | none => rw [text_cons_none hc, map_parts_cons_none hc, hrest]

end Respelling

end Lexical
