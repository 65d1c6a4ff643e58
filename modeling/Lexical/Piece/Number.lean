import Lexical.Piece.Basic

/-!
Number literals at the head of a text.

* `Piece.ofMarked`: a literal whose base is announced by a letter after a leading zero.
* `Piece.ofDecimal`: a literal in base ten, with at most one point.
* `Piece.ofNumber`: the two together, for any text that begins with a digit.

A literal takes in the longest run of characters it accepts; a letter or digit that stands
directly after the run is blamed, before anything the run itself may be blamed for.
-/

namespace Lexical.Piece

open Character (isPointedRun)

/-- The letter or digit at the head of a text, and the text after it; after a run of accepted
characters it is a stray one. -/
def stray? : Text → Option (Char × Text)
  | [] => none
  | c :: after => if c.isAlphanum then some (c, after) else none

/-- The number literal that begins with a zero and the letter `mark`, which announces the base;
`rest` is the text after the two. A letter or digit must follow them, be it right or wrong. -/
def ofMarked (radix : Radix) (mark : Char) (rest : Text) : Piece × Text :=
  if (stray? rest).isSome then
    let literal := '0' :: mark :: rest.takeWhile radix.isRun
    let after := rest.dropWhile radix.isRun
    match stray? after with
    | some (c, beyond) => malformed (.invalidCharacter radix c) literal [c] beyond
    | none => (.token .number literal, after)
  else malformed (.missingValue radix) [] ['0', mark] rest

/-- The number literal in base ten at the head of a text. -/
def ofDecimal (source : Text) : Piece × Text :=
  let literal := source.takeWhile isPointedRun
  let after := source.dropWhile isPointedRun
  match stray? after with
  | some (c, beyond) => malformed (.invalidCharacter .decimal c) literal [c] beyond
  | none =>
    if 1 < literal.count '.' then malformed (.manyPoints (literal.count '.')) [] literal after
    else (.token .number literal, after)

/-- The number literal that begins with the digit `c`. -/
def ofNumber (c : Char) : Text → Piece × Text
  | [] => ofDecimal [c]
  | mark :: rest =>
    match (if c = '0' then Radix.ofMark? mark else none) with
    | some radix => ofMarked radix mark rest
    | none => ofDecimal (c :: mark :: rest)

/-! ### Nothing is lost -/

/-- A stray character is the head of its text. -/
theorem eq_cons_of_stray? {source after : Text} {c : Char} (h : stray? source = some (c, after)) :
    source = c :: after := by
  cases source with
  | nil => simp [stray?] at h
  | cons d rest =>
    by_cases letter : d.isAlphanum = true
    · simp only [stray?, letter, if_true, Option.some.injEq, Prod.mk.injEq] at h
      rw [h.1, h.2]
    · simp [stray?, letter] at h

theorem heads_ofMarked (radix : Radix) (mark : Char) (rest : Text) :
    Heads (ofMarked radix mark rest) ('0' :: mark :: rest) := by
  have split : rest.takeWhile radix.isRun ++ rest.dropWhile radix.isRun = rest :=
    List.takeWhile_append_dropWhile
  rw [ofMarked]
  split
  · dsimp only
    split
    · next c beyond found =>
      have eq := eq_cons_of_stray? found
      have all := heads_malformed (.invalidCharacter radix c)
        ('0' :: mark :: rest.takeWhile radix.isRun) [c] beyond
      rwa [List.append_assoc, List.singleton_append, ← eq, List.cons_append, List.cons_append,
        split] at all
    · have all := heads_token .number ('0' :: mark :: rest.takeWhile radix.isRun)
        (rest.dropWhile radix.isRun)
      rwa [List.cons_append, List.cons_append, split] at all
  · exact heads_malformed (.missingValue radix) [] ['0', mark] rest

theorem heads_ofDecimal (source : Text) : Heads (ofDecimal source) source := by
  have split : source.takeWhile isPointedRun ++ source.dropWhile isPointedRun = source :=
    List.takeWhile_append_dropWhile
  rw [ofDecimal]
  split
  · next c beyond found =>
    have eq := eq_cons_of_stray? found
    have all := heads_malformed (.invalidCharacter .decimal c) (source.takeWhile isPointedRun) [c]
      beyond
    rwa [List.append_assoc, List.singleton_append, ← eq, split] at all
  · split
    · have all := heads_malformed (.manyPoints ((source.takeWhile isPointedRun).count '.')) []
        (source.takeWhile isPointedRun) (source.dropWhile isPointedRun)
      rwa [List.nil_append, split] at all
    · have all := heads_token .number (source.takeWhile isPointedRun)
        (source.dropWhile isPointedRun)
      rwa [split] at all

theorem heads_ofNumber (c : Char) (rest : Text) : Heads (ofNumber c rest) (c :: rest) := by
  unfold ofNumber
  split
  · exact heads_ofDecimal [c]
  · next mark after =>
    split
    · next radix found =>
      have zero : c = '0' := by
        by_cases h : c = '0'
        · exact h
        · simp [h] at found
      subst zero
      exact heads_ofMarked radix mark after
    · exact heads_ofDecimal (c :: mark :: after)

end Lexical.Piece
