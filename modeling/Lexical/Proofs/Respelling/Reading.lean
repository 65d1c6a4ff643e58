import Lexical.Proofs.Lookahead
import Lexical.Proofs.Respelling.Basic

/-!
Respelled texts are read alike.

* `Token.Kind.map`: a kind of token with the value that it carries changed.
* `Respelling.piece`: what becomes of a piece.
* `Respelling.read_text`: **one step of reading**: the piece at the head of a respelled text is what
  becomes of the piece that stood there.
-/

namespace Lexical

/-- The same kind of token with a changed value. -/
def Token.Kind.map (f : Text → Text) : Token.Kind → Token.Kind
  | .name value => .name (f value)
  | .number => .number
  | .string value => .string (f value)
  | .operator op => .operator op
  | .other => .other

lemma Token.Kind.value?_map (f : Text → Text) (kind : Token.Kind) :
    (kind.map f).value? = kind.value?.map f := by
  cases kind <;> rfl

namespace Respelling

open Character Grammar Piece

variable {r : Respelling}

/-! ### Classes -/

lemma asciiOnly_of_some {α : Type} {g : Char → Option α}
    (h : ∀ c a, g c = some a → isAscii c = true) : AsciiOnly g := by
  have hnone : ∀ c, isAscii c = false → g c = none := by
    intro c hc
    cases hg : g c with
    | none => rfl
    | some a =>
        rw [h c a hg] at hc
        cases hc
  intro c d hc hd
  rw [hnone c hc, hnone d hd]

lemma asciiOnly_isBlank : AsciiOnly isBlank := asciiOnly_of_class fun _ => isAscii_of_isBlank

lemma asciiOnly_isDigit : AsciiOnly Char.isDigit := asciiOnly_of_class fun _ => isAscii_of_isDigit

lemma asciiOnly_isAlphanum : AsciiOnly Char.isAlphanum :=
  asciiOnly_of_class fun _ => isAscii_of_isAlphanum

lemma asciiOnly_isNameStart : AsciiOnly isNameStart :=
  asciiOnly_of_class fun _ => isAscii_of_isNameStart

lemma asciiOnly_isNameRest : AsciiOnly isNameRest :=
  asciiOnly_of_class fun _ => isAscii_of_isNameRest

lemma asciiOnly_isPointedRun : AsciiOnly isPointedRun :=
  asciiOnly_of_class fun c h => isAscii_of_isDecimalRun (isDecimalRun_of_isPointedRun c h)

lemma asciiOnly_isRun (radix : Radix) : AsciiOnly radix.isRun :=
  asciiOnly_of_class fun c h => isAscii_of_isNameRest (isNameRest_of_isRun c h)

lemma asciiOnly_isWithinLine : AsciiOnly isWithinLine :=
  (asciiOnly_eq (a := '\n') rfl).comp (!·)

lemma isAscii_of_ofChar? {c : Char} {op : Operator} (h : Operator.ofChar? c = some op) :
    isAscii c = true := by
  have hmem : c ∈ op.lexeme := by
    rw [Operator.ofChar?_eq_some_iff.1 h]
    exact List.mem_singleton_self c
  exact Operator.isAscii_of_mem_lexeme hmem

lemma isAscii_of_ofPair? {c d : Char} {op : Operator} (h : Operator.ofPair? c d = some op) :
    isAscii c = true ∧ isAscii d = true := by
  have hmem : ∀ e ∈ [c, d], isAscii e = true := by
    rw [← Operator.ofPair?_eq_some_iff.1 h]
    exact fun _ => Operator.isAscii_of_mem_lexeme
  exact ⟨hmem c (List.mem_cons_self ..), hmem d (List.mem_cons_of_mem c (List.mem_singleton_self d))⟩

lemma asciiOnly_ofChar? : AsciiOnly Operator.ofChar? :=
  asciiOnly_of_some fun _ _ => isAscii_of_ofChar?

lemma asciiOnly_ofPair? (c : Char) : AsciiOnly (Operator.ofPair? c) :=
  asciiOnly_of_some fun _ _ h => (isAscii_of_ofPair? h).2

lemma asciiOnly_ofPair?_left (d : Char) : AsciiOnly fun c => Operator.ofPair? c d :=
  asciiOnly_of_some fun _ _ h => (isAscii_of_ofPair? h).1

lemma isAscii_of_ofMark? {mark : Char} {radix : Radix} (h : Radix.ofMark? mark = some radix) :
    isAscii mark = true := by
  unfold Radix.ofMark? at h
  split at h
  · rfl
  · rfl
  · cases h

lemma asciiOnly_ofMark? : AsciiOnly Radix.ofMark? :=
  asciiOnly_of_some fun _ _ => isAscii_of_ofMark?

lemma asciiOnly_isBoundary : AsciiOnly fun c => !isBoundary c := by
  refine (asciiOnly_of_class fun c h => ?_).comp (!·)
  rcases isBoundary_eq_true_iff.1 h with hblank | rfl | hop
  · exact isAscii_of_isBlank hblank
  · rfl
  · obtain ⟨op, hop⟩ := Option.isSome_iff_exists.1 hop
    exact isAscii_of_ofChar? hop

/-! ### Pieces -/

/-- What becomes of a piece. -/
def piece (r : Respelling) : Piece → Piece
  | .trivia text => .trivia (r.text text)
  | .token kind text => .token (kind.map r.text) (r.text text)
  | .fault kind lead covered skipped =>
    .fault kind (r.text lead) (r.text covered) (r.text skipped)

/-- What becomes of a piece at the head of a text, and of the text after it. -/
def step (r : Respelling) (read : Piece × Text) : Piece × Text := (r.piece read.1, r.text read.2)

@[simp] lemma text_piece (p : Piece) : (r.piece p).text = r.text p.text := by
  cases p with
  | trivia text => rfl
  | token kind text => rfl
  | fault kind lead covered skipped =>
      rw [piece, Piece.text, Piece.text, text_append, text_append]

/-- Recovery stops where it did. -/
lemma malformed_text (kind : Issue.Kind) (lead covered : Text) {rest : Text} (h : r.Fits rest) :
    malformed kind (r.text lead) (r.text covered) (r.text rest) =
      r.step (malformed kind lead covered rest) := by
  rw [malformed, takeWhile_text asciiOnly_isBoundary (fun _ => rfl) h,
    dropWhile_text asciiOnly_isBoundary (fun _ => rfl) h]
  rfl

/-! ### Number literals -/

lemma text_cons_alphanum {c : Char} (h : c.isAlphanum = true) (rest : Text) :
    r.text (c :: rest) = c :: r.text rest := by
  have hcr : c ≠ '\r' := by
    rintro rfl
    cases h
  exact text_cons_ascii (isAscii_of_isAlphanum h) hcr rest

lemma text_cons_mark {mark : Char} {radix : Radix} (h : Radix.ofMark? mark = some radix)
    (rest : Text) : r.text (mark :: rest) = mark :: r.text rest := by
  have hcr : mark ≠ '\r' := by
    rintro rfl
    cases h
  exact text_cons_ascii (isAscii_of_ofMark? h) hcr rest

lemma stray?_text {rest : Text} (h : r.Fits rest) :
    stray? (r.text rest) = (stray? rest).map fun (c, after) => (c, r.text after) := by
  cases hs : stray? rest with
  | none =>
      rw [stray?_eq_none_iff] at hs
      rw [stray?_eq_none_iff.2 ((stops_text asciiOnly_isAlphanum rfl h).2 hs)]
      rfl
  | some found =>
      obtain ⟨c, after⟩ := found
      have hc := isAlphanum_of_stray? hs
      rw [eq_cons_of_stray? hs, text_cons_alphanum hc, stray?_cons hc]
      rfl

lemma text_singleton {c : Char} (h : c.isAlphanum = true) : r.text [c] = [c] := by
  rw [text_cons_alphanum h, text_nil]

lemma ofMarked_text {radix : Radix} {mark : Char} (hm : Radix.ofMark? mark = some radix)
    {rest : Text} (h : r.Fits rest) :
    ofMarked radix mark (r.text rest) = r.step (ofMarked radix mark rest) := by
  have hrun : radix.isRun '\r' = false → radix.isRun '\n' = false := fun _ => by cases radix <;> rfl
  have hmark : ∀ t, r.text ('0' :: mark :: t) = '0' :: mark :: r.text t := by
    intro t
    rw [text_cons_ascii rfl (by decide), text_cons_mark hm]
  rw [ofMarked, ofMarked, stray?_text h, Option.isSome_map,
    takeWhile_text (asciiOnly_isRun radix) hrun h, dropWhile_text (asciiOnly_isRun radix) hrun h]
  split
  · dsimp only
    rw [stray?_text (h.dropWhile _)]
    cases hs : stray? (rest.dropWhile radix.isRun) with
    | none =>
        rw [Option.map_none, ← hmark]
        rfl
    | some found =>
        obtain ⟨c, beyond⟩ := found
        have hfits : r.Fits (c :: beyond) := by
          rw [← eq_cons_of_stray? hs]
          exact h.dropWhile _
        dsimp only [Option.map_some]
        rw [← malformed_text _ _ _ hfits.tail, hmark, text_singleton (isAlphanum_of_stray? hs)]
  · rw [← malformed_text _ _ _ h, hmark]
    rfl

lemma ofDecimal_text {source : Text} (h : r.Fits source) :
    ofDecimal (r.text source) = r.step (ofDecimal source) := by
  have hrun : isPointedRun '\r' = false → isPointedRun '\n' = false := fun _ => rfl
  rw [ofDecimal, ofDecimal, takeWhile_text asciiOnly_isPointedRun hrun h,
    dropWhile_text asciiOnly_isPointedRun hrun h, stray?_text (h.dropWhile _)]
  dsimp only
  cases hs : stray? (source.dropWhile isPointedRun) with
  | none =>
      rw [Option.map_none, count_text rfl (by decide)]
      dsimp only
      split
      · rw [← malformed_text _ _ _ (h.dropWhile _)]
        rfl
      · rfl
  | some found =>
      obtain ⟨c, beyond⟩ := found
      have hfits : r.Fits (c :: beyond) := by
        rw [← eq_cons_of_stray? hs]
        exact h.dropWhile _
      dsimp only [Option.map_some]
      rw [← malformed_text _ _ _ hfits.tail, text_singleton (isAlphanum_of_stray? hs)]

/-- A number literal is announced to have the base that it had. -/
lemma ofNumber_text {c : Char} (hc : c.isDigit = true) {rest : Text} (h : r.Fits (c :: rest)) :
    ofNumber c (r.text rest) = r.step (ofNumber c rest) := by
  have halphanum : c.isAlphanum = true := by
    rw [Char.isAlphanum, hc, Bool.or_true]
  have hdigit := text_cons_alphanum (r := r) halphanum rest
  have hmark := head?_text asciiOnly_ofMark? rfl h.tail
  by_cases hmarked : c = '0' ∧ ∃ radix, rest.head?.map Radix.ofMark? = some (some radix)
  · obtain ⟨rfl, radix, hradix⟩ := hmarked
    obtain ⟨mark, hhead, hm⟩ := Option.map_eq_some_iff.1 hradix
    obtain ⟨more, rfl⟩ := List.head?_eq_some_iff.1 hhead
    rw [text_cons_mark hm, ofNumber_marked hm, ofNumber_marked hm, ofMarked_text hm h.tail.tail]
  · have hunmarked : ∀ t : Text, t.head?.map Radix.ofMark? = rest.head?.map Radix.ofMark? →
        c = '0' → ∀ d, t.head? = some d → Radix.ofMark? d = none := by
      intro t ht hz d hd
      rw [hd, Option.map_some] at ht
      cases hm : Radix.ofMark? d with
      | none => rfl
      | some radix =>
          rw [hm] at ht
          exact absurd ⟨hz, radix, ht.symm⟩ hmarked
    rw [ofNumber_decimal (hunmarked _ hmark), ofNumber_decimal (hunmarked _ rfl), ← hdigit,
      ofDecimal_text h]

/-! ### One step of reading -/

lemma ofString_text {rest : Text} (h : r.Fits rest) :
    ofString (r.text rest) = r.step (ofString rest) := by
  have hquote : ∀ t, r.text ('"' :: t) = '"' :: r.text t :=
    fun t => text_cons_ascii rfl (by decide) t
  rw [ofString, ofString, split?_text h]
  cases StringLiteral.split? rest with
  | none =>
      rw [Option.map_none]
      dsimp only
      rw [← malformed_text _ _ _ (fits_nil r), hquote]
      rfl
  | some found =>
      obtain ⟨body, after⟩ := found
      rw [Option.map_some]
      dsimp only [step, piece, parts]
      rw [hquote, text_append, hquote]
      rfl

lemma ofBlockComment_text {rest : Text} (h : r.Fits rest) :
    ofBlockComment (r.text rest) = r.step (ofBlockComment rest) := by
  have hopen : ∀ t, r.text ('/' :: '*' :: t) = '/' :: '*' :: r.text t := by
    intro t
    rw [text_cons_ascii rfl (by decide), text_cons_ascii rfl (by decide)]
  rw [ofBlockComment, ofBlockComment, close?_text h]
  cases Comment.close? 0 rest with
  | none =>
      rw [Option.map_none]
      dsimp only
      rw [← malformed_text _ _ _ (fits_nil r), hopen]
      rfl
  | some found =>
      obtain ⟨inside, after⟩ := found
      rw [Option.map_some]
      dsimp only [step, piece, parts]
      rw [hopen]

lemma ofLineComment_text {source : Text} (h : r.Fits source) :
    ofLineComment (r.text source) = r.step (ofLineComment source) := by
  have hbreaks : isWithinLine '\r' = false → isWithinLine '\n' = false := fun _ => rfl
  rw [ofLineComment, takeWhile_text asciiOnly_isWithinLine hbreaks h,
    dropWhile_text asciiOnly_isWithinLine hbreaks h]
  rfl

lemma ofName_text {source : Text} (h : r.Fits source) :
    ofName (r.text source) = r.step (ofName source) := by
  have hbreaks : isNameRest '\r' = false → isNameRest '\n' = false := fun _ => rfl
  rw [ofName, takeWhile_text asciiOnly_isNameRest hbreaks h,
    dropWhile_text asciiOnly_isNameRest hbreaks h]
  rfl

lemma ofSingle_text {c d : Char} (hc : r.spell c = some d) : ofSingle d = r.piece (ofSingle c) := by
  rw [ofSingle, ofSingle, asciiOnly_ofChar?.eq_of_spell hc, piece, text_cons hc, text_nil]
  cases Operator.ofChar? c <;> rfl

/-- Two characters make up an operator if they did. -/
lemma ofPair?_of_spell {c c' d d' : Char} (hc : r.spell c = some c') (hd : r.spell d = some d') :
    Operator.ofPair? c' d' = Operator.ofPair? c d :=
  calc Operator.ofPair? c' d'
      = Operator.ofPair? c' d := (asciiOnly_ofPair? c').eq_of_spell hd
    _ = Operator.ofPair? c d := (asciiOnly_ofPair?_left d).eq_of_spell hc

lemma ofMark_text {c d : Char} (hc : r.spell c = some d) {rest : Text} (h : r.Fits rest) :
    ofMark d (r.text rest) = r.step (ofMark c rest) := by
  cases rest with
  | nil => rw [text_nil, ofMark, ofMark, ofSingle_text hc, step, text_nil]
  | cons e after =>
      cases he : r.spell e with
      | some e' =>
          rw [text_cons he, ofMark, ofMark, ofPair?_of_spell hc he]
          cases hpair : Operator.ofPair? c e with
          | none => rw [ofSingle_text hc, ← text_cons he]; rfl
          | some op =>
              obtain ⟨hascii, hascii'⟩ := isAscii_of_ofPair? hpair
              obtain rfl := eq_of_spell_ascii hc (.inr hascii)
              obtain rfl := eq_of_spell_ascii he (.inr hascii')
              dsimp only [step, piece, Token.Kind.map]
              rw [text_cons hc, text_cons he, text_nil]
      | none =>
          -- the line feed behind the carriage return makes up no operator either
          obtain ⟨rfl, more, rfl⟩ := h.of_spell_eq_none he
          have hreturn : Operator.ofPair? c '\r' = none :=
            (standsAlone_of_isBlank rfl c [] '\r' rfl).1
          have hfeed : Operator.ofPair? d '\n' = none := (standsAlone_of_isBlank rfl d [] '\n' rfl).1
          have hrest : r.text ('\r' :: '\n' :: more) = '\n' :: r.text more := by
            rw [text_cons_none he, text_cons_ascii rfl (by decide)]
          rw [hrest, ofMark, hfeed, ofMark, hreturn]
          dsimp only [step]
          rw [hrest, ofSingle_text hc]

/-- **One step of reading.** The piece at the head of a respelled text is what becomes of the piece
that stood there. -/
theorem read_text {c d : Char} (hc : r.spell c = some d) {rest : Text} (h : r.Fits (c :: rest)) :
    Piece.read d (r.text rest) = r.step (Piece.read c rest) := by
  have hself : r.text (c :: rest) = d :: r.text rest := text_cons hc rest
  rw [Piece.read, Piece.read, asciiOnly_isBlank.eq_of_spell hc, asciiOnly_isDigit.eq_of_spell hc,
    asciiOnly_isNameStart.eq_of_spell hc]
  simp only [eq_iff_of_spell hc (a := '"') rfl, eq_iff_of_spell hc (a := '/') rfl,
    head?_text_eq_some_iff (a := '/') rfl (by decide) (by decide) h.tail,
    head?_text_eq_some_iff (a := '*') rfl (by decide) (by decide) h.tail]
  split_ifs with blank quote digit line block start
  · rw [step, piece, text_cons hc, text_nil]
  · exact ofString_text h.tail
  · obtain rfl : d = c := eq_of_spell_ascii hc (.inr (isAscii_of_isDigit digit))
    exact ofNumber_text digit h
  · rw [← hself, ofLineComment_text h]
  · obtain ⟨more, rfl⟩ := List.head?_eq_some_iff.1 block.2
    rw [text_cons_ascii rfl (by decide), List.tail_cons, List.tail_cons, ofBlockComment_text h.tail.tail]
  · rw [← hself, ofName_text h]
  · exact ofMark_text hc h.tail

end Respelling

end Lexical
