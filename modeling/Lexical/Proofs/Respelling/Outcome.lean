import Lexical.Proofs.Respelling.Lines
import Lexical.Proofs.Spacing
import Mathlib.Data.List.Forall2

/-!
The outcomes of respelled texts.

* `Respelling.lex_text_of_ok`, `Respelling.lex_text_of_error`: the outcome of a respelled text is
  what becomes of the outcome of the text.
* `lex_withoutReturns`: **line ends may be written in two ways**: a text whose carriage returns stand
  before line feeds has the same tokens and is reported on in the same way without them.
* `lex_map`: **characters outside ASCII are not told apart**: if others take their place, tokens and
  issues keep their kinds, their intervals and their columns.
-/

namespace Lexical

open Character Grammar

/-! ### Outcomes -/

namespace Respelling

variable {r : Respelling} {source : Text} (h : r.Fits source)
include h

/-- The tokens of a respelled text. -/
lemma lex_text_of_ok {ts : List Token} (hlex : lex source = .ok ts) :
    lex (r.text source) = .ok (ts.map (r.token source)) := by
  obtain ⟨hnone, rfl⟩ := lex_eq_ok_iff.1 hlex
  refine lex_eq_ok_iff.2 ⟨?_, tokens_text h⟩
  rw [issues_text h, hnone, List.map_nil]

/-- The issues of a respelled text. -/
lemma lex_text_of_error {is : List Issue} (hlex : lex source = .error is) :
    lex (r.text source) = .error (is.map (r.issue source)) := by
  obtain ⟨hne, rfl⟩ := lex_eq_error_iff.1 hlex
  refine lex_eq_error_iff.2 ⟨?_, issues_text h⟩
  rwa [Ne, List.map_eq_nil_iff]

/-- A respelled text has tokens if the text has. -/
lemma exists_lex_text_iff :
    (∃ us, lex (r.text source) = .ok us) ↔ ∃ ts, lex source = .ok ts := by
  constructor
  · rintro ⟨us, hus⟩
    cases hlex : lex source with
    | ok ts => exact ⟨ts, rfl⟩
    | error is =>
        rw [lex_text_of_error h hlex] at hus
        cases hus
  · rintro ⟨ts, hts⟩
    exact ⟨_, lex_text_of_ok h hts⟩

end Respelling

/-! ### Line ends -/

/-- A text without its carriage returns. -/
def withoutReturns (source : Text) : Text := source.filter (· ≠ '\r')

/-- `u` is `t` with a change made to its text and to its value; where they stand is left open. -/
structure Token.ChangedBy (f : Text → Text) (t u : Token) : Prop where
  kind : u.kind = t.kind.map f
  value : u.value? = t.value?.map f
  raw : u.raw = f t.raw

/-- The issue `i` of the text `source` and the issue `j` of the text `source'` have the same cause
and are reported on in the same way. -/
structure Issue.SameRow (source source' : Text) (i j : Issue) : Prop where
  kind : j.kind = i.kind
  message : j.message = i.message
  number : (lineAt source' j.interval.first).number = (lineAt source i.interval.first).number
  visible : (lineAt source' j.interval.first).visible = (lineAt source i.interval.first).visible
  columns : (lineAt source' j.interval.first).columns j.interval =
    (lineAt source i.interval.first).columns i.interval

namespace Respelling

/-- Dropping all carriage returns. -/
def dropReturns : Respelling where
  spell c := if c = '\r' then none else some c
  spell_ascii := fun _ hc => if_neg hc
  spell_return := .inl (if_pos rfl)
  spell_beyond := fun {c} hc => ⟨c, if_neg (by rintro rfl; cases hc), hc⟩

lemma text_dropReturns (source : Text) : dropReturns.text source = withoutReturns source := by
  induction source with
  | nil => rfl
  | cons c source ih =>
      by_cases hc : c = '\r'
      · rw [text_cons_none (if_pos hc), ih, withoutReturns, withoutReturns,
          List.filter_cons_of_neg (by simp [hc])]
      · rw [text_cons (if_neg hc), ih, withoutReturns, withoutReturns,
          List.filter_cons_of_pos (by simp [hc])]

lemma text_visible_dropReturns (l : Line) : dropReturns.text l.visible = l.visible := by
  rw [text_dropReturns, withoutReturns, List.filter_eq_self]
  intro c hc
  have hplain := (List.mem_filter.1 hc).2
  rw [decide_eq_true_eq]
  rintro rfl
  cases hplain

lemma changedBy_token (r : Respelling) (source : Text) (t : Token) :
    t.ChangedBy r.text (r.token source t) :=
  ⟨rfl, t.kind.value?_map r.text, rfl⟩

/-- An issue is reported on in the same way. -/
lemma sameRow_issue {source : Text} (h : dropReturns.Fits source) {i : Issue}
    (hi : i ∈ issues source) :
    i.SameRow source (dropReturns.text source) (dropReturns.issue source i) where
  kind := rfl
  message := rfl
  number := by rw [lineAt_issue h, line]
  visible := by rw [lineAt_issue h, visible_line, text_visible_dropReturns]
  columns := columns_text h hi

end Respelling

open Respelling

/-- **Line ends may be written in two ways.** If a line feed follows each carriage return of a text,
then the text without carriage returns has tokens if the text has, and these are the same up to
carriage returns. Otherwise both have the same issues, in the same columns of the same lines. -/
theorem lex_withoutReturns {source : Text} (h : ReturnsPaired source) :
    ((∃ us, lex (withoutReturns source) = .ok us) ↔ ∃ ts, lex source = .ok ts) ∧
      (∀ ts us, lex source = .ok ts → lex (withoutReturns source) = .ok us →
        List.Forall₂ (Token.ChangedBy withoutReturns) ts us) ∧
      ∀ is js, lex source = .error is → lex (withoutReturns source) = .error js →
        List.Forall₂ (Issue.SameRow source (withoutReturns source)) is js := by
  have hfits : dropReturns.Fits source := fun _ => h
  have htext : dropReturns.text = withoutReturns := funext text_dropReturns
  rw [← htext]
  refine ⟨exists_lex_text_iff hfits, ?_, ?_⟩
  · intro ts us hts hus
    obtain rfl := Except.ok.inj ((lex_text_of_ok hfits hts).symm.trans hus)
    rw [List.forall₂_map_right_iff, List.forall₂_same]
    exact fun t _ => changedBy_token dropReturns source t
  · intro is js his hjs
    obtain rfl := Except.error.inj ((lex_text_of_error hfits his).symm.trans hjs)
    rw [List.forall₂_map_right_iff, List.forall₂_same]
    obtain ⟨-, rfl⟩ := lex_eq_error_iff.1 his
    exact fun i hi => sameRow_issue hfits hi

/-- A string that is open at the end of a text, behind a backslash before a line end. -/
theorem lex_withoutReturns_of_lines :
    ReturnsPaired "1a\r\n \"\\\r\n".toList ∧
      lex "1a\r\n \"\\\r\n".toList =
        .error [⟨.invalidCharacter .decimal 'a', .single 1⟩, ⟨.unclosedString, .ofLength 5 4⟩] ∧
      lex "1a\n \"\\\n".toList =
        .error [⟨.invalidCharacter .decimal 'a', .single 1⟩, ⟨.unclosedString, .ofLength 4 3⟩] ∧
      Issue.SameRow "1a\r\n \"\\\r\n".toList "1a\n \"\\\n".toList
        ⟨.unclosedString, .ofLength 5 4⟩ ⟨.unclosedString, .ofLength 4 3⟩ := by
  have h : ReturnsPaired "1a\r\n \"\\\r\n".toList := by decide +kernel
  have hpaired : lex "1a\r\n \"\\\r\n".toList =
      .error [⟨.invalidCharacter .decimal 'a', .single 1⟩, ⟨.unclosedString, .ofLength 5 4⟩] := by
    decide +kernel
  have hsingle : lex "1a\n \"\\\n".toList =
      .error [⟨.invalidCharacter .decimal 'a', .single 1⟩, ⟨.unclosedString, .ofLength 4 3⟩] := by
    decide +kernel
  have hwithout : withoutReturns "1a\r\n \"\\\r\n".toList = "1a\n \"\\\n".toList := by
    decide +kernel
  have hrows := (lex_withoutReturns h).2.2
  rw [hwithout] at hrows
  have hrow := hrows _ _ hpaired hsingle
  exact ⟨h, hpaired, hsingle, (List.forall₂_cons.1 (List.forall₂_cons.1 hrow).2).1⟩

/-! ### Characters outside ASCII -/

/-- The same token with other characters in its text and, if it is a string, in its value. -/
def Token.respelled (f : Char → Char) (t : Token) : Token where
  kind :=
    match t.kind with
    | .string value => .string (value.map f)
    | kind => kind
  raw := t.raw.map f
  interval := t.interval

section Map

variable {f : Char → Char} (hascii : ∀ c, isAscii c = true → f c = c)
  (hbeyond : ∀ c, isAscii c = false → isAscii (f c) = false)

/-- Writing other characters for those outside ASCII. -/
def Respelling.ofMap : Respelling where
  spell c := some (f c)
  spell_ascii := fun {c} hc _ => congrArg some (hascii c hc)
  spell_return := .inr (congrArg some (hascii '\r' rfl))
  spell_beyond := fun {c} hc => ⟨f c, rfl, hbeyond c hc⟩

namespace Respelling

lemma text_ofMap : (ofMap hascii hbeyond).text = List.map f :=
  funext fun _ => congrFun List.filterMap_eq_map _

/-- Intervals stay, as each character becomes one character. -/
lemma interval_ofMap {source : Text} {i : Interval} (h : i.last < source.length) :
    (ofMap hascii hbeyond).interval source i = i := by
  have hle := i.first_le_last
  have hlen := i.length_lookup source
  rw [Interval.length] at hlen
  rw [interval, text_ofMap, List.length_map, List.length_map, List.length_take]
  obtain ⟨first, last, _⟩ := i
  dsimp only at *
  simp only [Interval.ofLength, Interval.mk.injEq]
  omega

/-- Of the kinds of token that carry a value only strings change. -/
lemma token_ofMap {source : Text} {ts : List Token} {t : Token} (hlex : lex source = .ok ts)
    (ht : t ∈ ts) : (ofMap hascii hbeyond).token source t = t.respelled f := by
  have helement := element_of_mem hlex ht
  obtain ⟨-, rfl⟩ := lex_eq_ok_iff.1 hlex
  rw [token, text_ofMap, interval_ofMap hascii hbeyond (last_lt_length_of_mem_tokens ht),
    Token.respelled]
  congr 1
  obtain ⟨kind, raw, interval⟩ := t
  cases helement with
  | @name c run _ start accepted _ =>
      have hname : ∀ d ∈ c :: run, f d = d := by
        intro d hd
        rcases List.mem_cons.1 hd with rfl | hd
        · exact hascii d (isAscii_of_isNameStart start)
        · exact hascii d (isAscii_of_isNameRest (accepted d hd))
      rw [Token.Kind.map, List.map_congr_left hname, List.map_id']
  | string _ => rfl
  | marked _ _ _ _ => rfl
  | decimal _ _ _ _ => rfl
  | pair _ => rfl
  | single _ _ => rfl
  | other _ _ _ _ => rfl

end Respelling

include hascii hbeyond

/-- **Characters outside ASCII are not told apart.** If others outside ASCII take their place, a text
keeps its tokens, but for the characters in their texts and in the values of strings, or else its
issues; all of them stand where they stood, in the same columns of the same lines. -/
theorem lex_map (source : Text) :
    ((∃ us, lex (source.map f) = .ok us) ↔ ∃ ts, lex source = .ok ts) ∧
      (∀ ts, lex source = .ok ts → lex (source.map f) = .ok (ts.map (Token.respelled f))) ∧
      ∀ is, lex source = .error is → lex (source.map f) = .error is ∧ ∀ i ∈ is,
        (lineAt (source.map f) i.interval.first).number =
            (lineAt source i.interval.first).number ∧
          (lineAt (source.map f) i.interval.first).columns i.interval =
            (lineAt source i.interval.first).columns i.interval := by
  have hfits : (ofMap hascii hbeyond).Fits source := nofun
  rw [← text_ofMap hascii hbeyond]
  refine ⟨exists_lex_text_iff hfits, ?_, ?_⟩
  · intro ts hts
    rw [lex_text_of_ok hfits hts]
    exact congrArg _ (List.map_congr_left fun t ht => token_ofMap hascii hbeyond hts ht)
  · intro is his
    have hissue : ∀ i ∈ is, (ofMap hascii hbeyond).issue source i = i := by
      obtain ⟨-, rfl⟩ := lex_eq_error_iff.1 his
      intro i hi
      rw [issue, interval_ofMap hascii hbeyond (last_lt_length_of_mem_issues hi)]
    refine ⟨?_, fun i hi => ?_⟩
    · rw [lex_text_of_error hfits his, List.map_congr_left hissue, List.map_id']
    · have hline := lineAt_issue hfits i
      have hmem : i ∈ issues source := by
        rwa [(lex_eq_error_iff.1 his).2]
      have hcolumns := columns_text hfits hmem
      rw [hissue i hi] at hline hcolumns
      exact ⟨by rw [hline, line], hcolumns⟩

end Map

/-- Every character outside ASCII becomes the same one. -/
def veil (c : Char) : Char := if isAscii c then c else 'é'

/-- A string and a line separator that nobody can tell from other characters any more. -/
theorem lex_map_veil :
    (∀ c, isAscii c = true → veil c = c) ∧ (∀ c, isAscii c = false → isAscii (veil c) = false) ∧
      lex "ñ=\"漢\"".toList = .ok [⟨.other, ['ñ'], .single 0⟩, ⟨.operator .equals, ['='], .single 1⟩,
        ⟨.string ['漢'], ['"', '漢', '"'], .ofLength 2 3⟩] ∧
      lex ("ñ=\"漢\"".toList.map veil) = .ok [⟨.other, ['é'], .single 0⟩,
        ⟨.operator .equals, ['='], .single 1⟩, ⟨.string ['é'], ['"', 'é', '"'], .ofLength 2 3⟩] ∧
      lex "ñ\u2028 2b".toList = .error [⟨.invalidCharacter .decimal 'b', .single 4⟩] ∧
      lex ("ñ\u2028 2b".toList.map veil) = .error [⟨.invalidCharacter .decimal 'b', .single 4⟩] := by
  have hascii : ∀ c, isAscii c = true → veil c = c := fun c hc => if_pos hc
  have hbeyond : ∀ c, isAscii c = false → isAscii (veil c) = false := by
    intro c hc
    rw [veil, hc]
    rfl
  have hok : lex "ñ=\"漢\"".toList = .ok [⟨.other, ['ñ'], .single 0⟩,
      ⟨.operator .equals, ['='], .single 1⟩,
      ⟨.string ['漢'], ['"', '漢', '"'], .ofLength 2 3⟩] := by
    decide +kernel
  have herror : lex "ñ\u2028 2b".toList = .error [⟨.invalidCharacter .decimal 'b', .single 4⟩] := by
    decide +kernel
  exact ⟨hascii, hbeyond, hok, (lex_map hascii hbeyond _).2.1 _ hok, herror,
    ((lex_map hascii hbeyond _).2.2 _ herror).1⟩

end Lexical
