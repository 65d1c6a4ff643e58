import Lexical.Program
import Lexical.Proofs.Writing
import Lexical.Proofs.Spacing

/-!
The listing of tokens.

* `Token.Kind.word`, `Token.shown`: what a line of the listing says of a token, beside its interval.
* `Token.Kind.text?`: the text that a name, a string or an operator is written as.
* `Token.eq_of_display_eq`: so a line determines its token, if that was read from a text.
* `listing_faithful`: **the listing is faithful**: it has a line for each token, and no two texts
  have the same listing unless they have the same tokens.
-/

namespace Lexical

open Character Grammar

namespace Token

/-! ### The parts of a line -/

/-- The word for a kind of token. -/
def Kind.word : Kind → Text
  | name _ => ['N', 'a', 'm', 'e']
  | number => ['N', 'u', 'm', 'b', 'e', 'r']
  | string _ => ['S', 't', 'r', 'i', 'n', 'g']
  | operator _ => ['O', 'p', 'e', 'r', 'a', 't', 'o', 'r']
  | other => ['O', 't', 'h', 'e', 'r']

/-- What is shown of a token behind the word for its kind. -/
def shown (t : Token) : Text :=
  match t.kind with
  | .name value => Text.quote value
  | .number => Text.quote t.raw
  | .string value => Text.quote value
  | .operator op => op.lexeme
  | .other => Text.quote t.raw

/-- A line consists of an interval, a word and what is shown, with blanks between them. -/
lemma display_eq (t : Token) :
    t.display = t.interval.display ++ ' ' :: (t.kind.word ++ ' ' :: t.shown) := by
  have hname : "Name ".toList = ['N', 'a', 'm', 'e', ' '] := by decide +kernel
  have hnumber : "Number ".toList = ['N', 'u', 'm', 'b', 'e', 'r', ' '] := by decide +kernel
  have hstring : "String ".toList = ['S', 't', 'r', 'i', 'n', 'g', ' '] := by decide +kernel
  have hoperator : "Operator ".toList = ['O', 'p', 'e', 'r', 'a', 't', 'o', 'r', ' '] := by
    decide +kernel
  have hother : "Other ".toList = ['O', 't', 'h', 'e', 'r', ' '] := by decide +kernel
  rw [display, shown, hname, hnumber, hstring, hoperator, hother, List.append_assoc]
  cases t.kind <;> rfl

/-- The words for kinds are written with letters. -/
lemma Kind.isAlpha_of_mem_word {k : Kind} {c : Char} (h : c ∈ k.word) : c.isAlpha = true := by
  have hall : k.word.all Char.isAlpha = true := by cases k <;> rfl
  exact List.all_eq_true.1 hall c h

/-- What begins with a word for a kind determines the word and what follows. -/
lemma Kind.word_append_inj {k l : Kind} {x y : Text}
    (h : k.word ++ ' ' :: x = l.word ++ ' ' :: y) : k.word = l.word ∧ x = y := by
  have hstop : ∀ z, Stops Char.isAlpha (' ' :: z) := fun z => stops_cons.2 rfl
  obtain ⟨hword, hrest⟩ := Stops.append_inj (fun _ => isAlpha_of_mem_word)
    (fun _ => isAlpha_of_mem_word) (hstop x) (hstop y) h
  exact ⟨hword, (List.cons.inj hrest).2⟩

/-! ### What a line leaves out -/

/-- The text that a token of a kind is written as, if the kind determines it. -/
def Kind.text? : Kind → Option Text
  | name value => some value
  | number => none
  | string value => some ('"' :: (value ++ ['"']))
  | operator op => some op.lexeme
  | other => none

end Token

/-- An element is written as its kind says. -/
lemma Grammar.Element.eq_of_text? {kind : Token.Kind} {text rest raw : Text}
    (h : Element (some kind) text rest) (hr : kind.text? = some raw) : text = raw := by
  cases h with
  | string _ => exact Option.some.inj hr
  | marked _ _ _ _ => cases hr
  | decimal _ _ _ _ => cases hr
  | name _ _ _ => exact Option.some.inj hr
  | pair written =>
      rw [← Operator.ofPair?_eq_some_iff.1 written]
      exact Option.some.inj hr
  | single written _ =>
      rw [← Operator.ofChar?_eq_some_iff.1 written]
      exact Option.some.inj hr
  | other _ _ _ _ => cases hr

namespace Token

/-- Tokens with the same word and shown alike are of the same kind, and are written alike unless
their kind determines how. -/
lemma kind_eq_of_shown_eq {t u : Token} (hword : t.kind.word = u.kind.word)
    (h : t.shown = u.shown) : t.kind = u.kind ∧ (t.kind.text? = none → t.raw = u.raw) := by
  obtain ⟨kind, raw, interval⟩ := t
  obtain ⟨kind', raw', interval'⟩ := u
  cases kind <;> cases kind' <;> try cases hword
  case name.name value value' => exact ⟨congrArg Kind.name (Text.quote_inj h), nofun⟩
  case number.number => exact ⟨rfl, fun _ => Text.quote_inj h⟩
  case string.string value value' => exact ⟨congrArg Kind.string (Text.quote_inj h), nofun⟩
  case operator.operator op op' => exact ⟨congrArg Kind.operator (Operator.lexeme_inj.1 h), nofun⟩
  case other.other => exact ⟨rfl, fun _ => Text.quote_inj h⟩

/-- A line determines its token, if that was read from a text. -/
lemma eq_of_display_eq {t u : Token} (ht : Element (some t.kind) t.raw [])
    (hu : Element (some u.kind) u.raw []) (h : t.display = u.display) : t = u := by
  have hstop : ∀ z, Stops Char.isDigit (' ' :: z) := fun z => stops_cons.2 rfl
  rw [display_eq, display_eq] at h
  obtain ⟨hinterval, hrest⟩ := Interval.display_append_inj (hstop _) (hstop _) h
  obtain ⟨hword, hshown⟩ := Kind.word_append_inj (List.cons.inj hrest).2
  obtain ⟨hkind, hraw⟩ := kind_eq_of_shown_eq hword hshown
  have hraw : t.raw = u.raw := by
    cases htext : t.kind.text? with
    | none => exact hraw htext
    | some text => rw [ht.eq_of_text? htext, hu.eq_of_text? (hkind ▸ htext)]
  obtain ⟨kind, raw, interval⟩ := t
  obtain ⟨kind', raw', interval'⟩ := u
  dsimp only at hkind hraw hinterval
  rw [hkind, hraw, hinterval]

/-- What is shown of a token is within a line. -/
lemma lineFeed_not_mem_shown (t : Token) : '\n' ∉ t.shown := by
  rw [shown]
  cases t.kind with
  | name value => exact Text.lineFeed_not_mem_quote value
  | number => exact Text.lineFeed_not_mem_quote t.raw
  | string value => exact Text.lineFeed_not_mem_quote value
  | operator op => exact fun hmem => by cases isBlank_of_mem_lexeme hmem
  | other => exact Text.lineFeed_not_mem_quote t.raw

/-- A line of the listing is a line. -/
lemma lineFeed_not_mem_display (t : Token) : '\n' ∉ t.display := by
  have hblank : '\n' ∉ [' '] := by decide
  have hword : '\n' ∉ t.kind.word := fun hmem => by cases Kind.isAlpha_of_mem_word hmem
  rw [display_eq]
  exact List.not_mem_append t.interval.lineFeed_not_mem_display (List.not_mem_append hblank
    (List.not_mem_append hword (List.not_mem_append hblank t.lineFeed_not_mem_shown)))

end Token

/-! ### The whole listing -/

/-- Lines with their ends determine the first line and what follows. -/
lemma lineFeed_append_inj {l m x y : Text} (hl : '\n' ∉ l) (hm : '\n' ∉ m)
    (h : l ++ ['\n'] ++ x = m ++ ['\n'] ++ y) : l = m ∧ x = y := by
  have hrun : ∀ {l : Text}, '\n' ∉ l → ∀ c ∈ l, isWithinLine c = true := by
    intro l hl c hc
    rw [isWithinLine, bne_iff_ne]
    rintro rfl
    exact hl hc
  have hstop : ∀ z, Stops isWithinLine ('\n' :: z) := fun z => stops_cons.2 rfl
  rw [List.append_assoc, List.append_assoc] at h
  obtain ⟨hline, hrest⟩ := Stops.append_inj (hrun hl) (hrun hm) (hstop x) (hstop y) h
  exact ⟨hline, (List.cons.inj hrest).2⟩

/-- A text of lines has as many line feeds as lines. -/
lemma count_lineFeed_unlines {ls : List Text} (h : ∀ l ∈ ls, '\n' ∉ l) :
    (Program.unlines ls).count '\n' = ls.length := by
  induction ls with
  | nil => rfl
  | cons l ls ih =>
      have hl := List.count_eq_zero.2 (h l (List.mem_cons_self ..))
      have hls := ih fun m hm => h m (List.mem_cons_of_mem l hm)
      rw [Program.unlines] at hls
      rw [Program.unlines, List.flatMap_cons, List.count_append, List.count_append, hl, hls,
        List.length_cons]
      exact Nat.add_comm 1 ls.length

/-- A text of lines determines the lines, if each of the things they stand for is determined by its
own line. -/
lemma map_eq_of_unlines_eq {α : Type} {line : α → Text} {as bs : List α}
    (hline : ∀ a, '\n' ∉ line a) (hinj : ∀ a ∈ as, ∀ b ∈ bs, line a = line b → a = b)
    (h : Program.unlines (as.map line) = Program.unlines (bs.map line)) : as = bs := by
  rw [Program.unlines, Program.unlines, List.flatMap_map, List.flatMap_map] at h
  refine Text.flatMap_inj (fun a ha b hb x y hab => ?_) (fun a => ?_) h
  · obtain ⟨heq, hrest⟩ := lineFeed_append_inj (hline a) (hline b) hab
    exact ⟨hinj a ha b hb heq, hrest⟩
  · exact List.append_ne_nil_of_right_ne_nil _ (List.cons_ne_nil _ _)

/-- What is printed when the tokens of a text are asked for. -/
lemma output_of_lex {options : CommandLine.Options} (ha : options.action = .lex) {source : Text}
    {ts : List Token} (h : lex source = .ok ts) :
    (Program.process options source).output = Program.unlines (ts.map Token.display) := by
  simp only [Program.process, Program.printed, ha, h]

/-- **The listing is faithful.** For a text with tokens it consists of one line for each of them,
and two texts with the same listing have the same tokens, with the same kinds, values, texts and
intervals. -/
theorem listing_faithful (options options' : CommandLine.Options) (ha : options.action = .lex)
    (ha' : options'.action = .lex) {source source' : Text} {ts us : List Token}
    (hts : lex source = .ok ts) (hus : lex source' = .ok us) :
    (Program.process options source).output = Program.unlines (ts.map Token.display) ∧
      (Program.process options source).output.count '\n' = ts.length ∧
      ((Program.process options source).output = (Program.process options' source').output →
        ts = us) := by
  have hout := output_of_lex ha hts
  refine ⟨hout, ?_, fun h => ?_⟩
  · have hlines : ∀ l ∈ ts.map Token.display, '\n' ∉ l := by
      intro l hl
      obtain ⟨t, -, rfl⟩ := List.mem_map.1 hl
      exact t.lineFeed_not_mem_display
    rw [hout, count_lineFeed_unlines hlines, List.length_map]
  · rw [hout, output_of_lex ha' hus] at h
    refine map_eq_of_unlines_eq Token.lineFeed_not_mem_display (fun t ht u hu htu => ?_) h
    exact Token.eq_of_display_eq (element_of_mem hts ht) (element_of_mem hus hu) htu

/-- A string with a backslash and a letter, and one with a line feed and that letter. -/
theorem listing_faithful_of_strings :
    lex "\"\\n\"".toList = .ok [⟨.string ['\\', 'n'], "\"\\n\"".toList, .ofLength 0 4⟩] ∧
      lex "\"\nn\"".toList = .ok [⟨.string ['\n', 'n'], "\"\nn\"".toList, .ofLength 0 4⟩] ∧
      (Program.process ⟨.lex, ['z'], 1⟩ "\"\nn\"".toList).output.count '\n' = 1 ∧
      (Program.process ⟨.lex, ['z'], 1⟩ "\"\nn\"".toList).output ≠
        (Program.process ⟨.lex, ['y'], 4⟩ "\"\\n\"".toList).output := by
  have hletter : lex "\"\\n\"".toList =
      .ok [⟨.string ['\\', 'n'], "\"\\n\"".toList, .ofLength 0 4⟩] := by
    decide +kernel
  have hfeed : lex "\"\nn\"".toList =
      .ok [⟨.string ['\n', 'n'], "\"\nn\"".toList, .ofLength 0 4⟩] := by
    decide +kernel
  obtain ⟨-, hcount, hinj⟩ :=
    listing_faithful ⟨.lex, ['z'], 1⟩ ⟨.lex, ['y'], 4⟩ rfl rfl hfeed hletter
  exact ⟨hletter, hfeed, hcount, fun h => absurd (hinj h) (by decide +kernel)⟩

end Lexical
