import Lexical.Proofs.Sentence

/-!
Tokens that are written out again, with blanks between them.

* `Grammar.Element.before`: a token is one at the end of a text and before any blank, wherever it
  was read.
* `sentence_spread`: so tokens with blanks between them make up a sentence.
* `lex_spaced`: **writing tokens and reading them again is lossless**; each comes back with its kind
  and its text, at the place where that was written.
-/

namespace Lexical

open Character Grammar

/-! ### A token by itself -/

/-- A token that was read anywhere is an element of the grammar at the end of a text. -/
lemma element_of_mem_findingsFrom {ps : List Piece} {position : Nat} {t : Token} (h : Reading ps)
    (ht : .token t ∈ findingsFrom position ps) : Element (some t.kind) t.raw [] := by
  induction ps generalizing position with
  | nil => cases ht
  | cons p ps ih =>
      rw [findingsFrom, List.mem_append, Option.mem_toList] at ht
      rcases ht with ht | ht
      · cases p with
        | trivia text => cases ht
        | token kind text =>
            cases ht
            exact Element.of_head (fun c hc => by cases hc) h.1
        | fault kind lead covered skipped => cases ht
      · exact ih h.2 ht

lemma element_of_mem {source : Text} {ts : List Token} {t : Token} (h : lex source = .ok ts)
    (ht : t ∈ ts) : Element (some t.kind) t.raw [] := by
  obtain ⟨-, rfl⟩ := lex_eq_ok_iff.1 h
  exact element_of_mem_findingsFrom (reading_pieces source) (mem_tokens.1 ht)

/-- A token at the end of a text is one before a text that begins with a blank as well. -/
lemma Grammar.Element.before {kind : Token.Kind} {text rest : Text} (h : Element (some kind) text [])
    (hr : ∀ c, rest.head? = some c → isBlank c = true) : Element (some kind) text rest := by
  cases rest with
  | nil => exact h
  | cons d more => exact h.before_blank (hr d rfl) (fun hk => by cases hk) more

/-! ### Blanks and tokens in turn -/

/-- The text of tokens, each behind the blanks that come before it. -/
def spread (ps : List (Text × Token)) : Text := ps.flatMap fun p => p.1 ++ p.2.raw

/-- The elements of blanks: every one of them is trivia by itself. -/
def blanks (w : Text) : List (Option Token.Kind × Text) := w.map fun c => (none, [c])

/-- The elements of tokens, each behind the blanks that come before it. -/
def spreadElements (ps : List (Text × Token)) : List (Option Token.Kind × Text) :=
  ps.flatMap fun p => blanks p.1 ++ [(some p.2.kind, p.2.raw)]

lemma Grammar.Sentence.blanks_append {w rest : Text} {es : List (Option Token.Kind × Text)}
    (hw : ∀ c ∈ w, isBlank c = true) (h : Sentence es rest) :
    Sentence (blanks w ++ es) (w ++ rest) := by
  induction w with
  | nil => exact h
  | cons c w ih =>
      exact .cons (.blank (hw c (List.mem_cons_self ..)))
        (ih fun d hd => hw d (List.mem_cons_of_mem c hd))

/-- Tokens with blanks between them make up a sentence. -/
lemma sentence_spread {ps : List (Text × Token)}
    (ht : ∀ p ∈ ps, Element (some p.2.kind) p.2.raw [])
    (hw : ∀ p ∈ ps, ∀ c ∈ p.1, isBlank c = true) (hne : ∀ p ∈ ps.tail, p.1 ≠ []) :
    Sentence (spreadElements ps) (spread ps) := by
  induction ps with
  | nil => exact .nil
  | cons p ps ih =>
      have hps := ih (fun q hq => ht q (List.mem_cons_of_mem p hq))
        (fun q hq => hw q (List.mem_cons_of_mem p hq)) fun q hq => hne q (List.mem_of_mem_tail hq)
      have hblank : ∀ c, (spread ps).head? = some c → isBlank c = true := by
        intro c hc
        cases ps with
        | nil => cases hc
        | cons q qs =>
            obtain ⟨d, w, hq⟩ := List.exists_cons_of_ne_nil (hne q (List.mem_cons_self ..))
            rw [spread, List.flatMap_cons, hq] at hc
            obtain rfl := Option.some.inj hc
            refine hw q (List.mem_cons_of_mem p (List.mem_cons_self ..)) d ?_
            rw [hq]
            exact List.mem_cons_self ..
      rw [spreadElements, spread, List.flatMap_cons, List.flatMap_cons, List.append_assoc,
        List.append_assoc]
      have helement := (ht p (List.mem_cons_self ..)).before hblank
      exact .blanks_append (hw p (List.mem_cons_self ..)) (.cons helement hps)

lemma tokensFrom_blanks (position : Nat) (w : Text) (es : List (Option Token.Kind × Text)) :
    tokensFrom position (blanks w ++ es) = tokensFrom (position + w.length) es := by
  induction w generalizing position with
  | nil => rfl
  | cons c w ih =>
      rw [blanks, List.map_cons, List.cons_append, tokensFrom, ← blanks, ih, List.length_cons,
        List.length_cons, List.length_nil]
      congr 1
      omega

/-- Where the tokens among blanks stand: each after everything that was written before it. -/
lemma getElem?_tokensFrom_spread (position i : Nat) (ps : List (Text × Token)) :
    (tokensFrom position (spreadElements ps))[i]? = ps[i]?.map fun p =>
      ⟨p.2.kind, p.2.raw,
        .ofLength (position + (spread (ps.take i)).length + p.1.length) p.2.raw.length⟩ := by
  induction ps generalizing position i with
  | nil => rfl
  | cons p ps ih =>
      rw [spreadElements, List.flatMap_cons, List.append_assoc, tokensFrom_blanks,
        List.singleton_append, tokensFrom]
      cases i with
      | zero => rfl
      | succ i =>
          rw [List.getElem?_cons_succ, ← spreadElements, ih, List.getElem?_cons_succ,
            List.take_succ_cons, spread, spread, List.flatMap_cons, List.length_append,
            List.length_append]
          simp only [Nat.add_assoc]

lemma length_tokensFrom_spread (position : Nat) (ps : List (Text × Token)) :
    (tokensFrom position (spreadElements ps)).length = ps.length := by
  induction ps generalizing position with
  | nil => rfl
  | cons p ps ih =>
      rw [spreadElements, List.flatMap_cons, List.append_assoc, tokensFrom_blanks,
        List.singleton_append, tokensFrom, List.length_cons, ← spreadElements, ih, List.length_cons]

/-- Tokens with blanks between them are read as the tokens they are. -/
lemma lex_spread {ps : List (Text × Token)}
    (ht : ∀ p ∈ ps, ∃ source us, lex source = .ok us ∧ p.2 ∈ us)
    (hw : ∀ p ∈ ps, ∀ c ∈ p.1, isBlank c = true) (hne : ∀ p ∈ ps.tail, p.1 ≠ []) :
    lex (spread ps) = .ok (tokensFrom 0 (spreadElements ps)) := by
  refine lex_eq_ok_iff.2 (sentence_spread (fun p hp => ?_) hw hne).outcome
  obtain ⟨source, us, hus, hmem⟩ := ht p hp
  exact element_of_mem hus hmem

/-- A token that is written alone is read as that one token. -/
lemma lex_raw {t : Token} (ht : ∃ source us, lex source = .ok us ∧ t ∈ us) :
    lex t.raw = .ok [⟨t.kind, t.raw, .ofLength 0 t.raw.length⟩] := by
  have hone : lex (spread [([], t)]) = .ok (tokensFrom 0 (spreadElements [([], t)])) := by
    refine lex_spread (fun p hp => ?_) (fun p hp c hc => ?_) (fun p hp => by cases hp)
    · rwa [List.mem_singleton.1 hp]
    · rw [List.mem_singleton.1 hp] at hc
      cases hc
  rwa [spread, List.flatMap_singleton, List.nil_append] at hone

/-! ### Writing tokens -/

/-- Texts one after the other, with separators between them. -/
def spaced (raws separators : List Text) : Text :=
  (List.zipWith (· ++ ·) ([] :: separators) raws).flatten

/-- The offset at which the text with index `i` begins: that many texts precede it, and as many
separators. -/
def offsetAmong (raws separators : List Text) (i : Nat) : Nat :=
  (raws.take i).flatten.length + (separators.take i).flatten.length

lemma spaced_eq_spread (ts : List Token) (ws : List Text) :
    spaced (ts.map Token.raw) ws = spread (([] :: ws).zip ts) := by
  rw [spaced, spread, List.zipWith_map_right, List.flatMap_def, List.zip, List.map_zipWith]

lemma length_spread (ps : List (Text × Token)) :
    (spread ps).length =
      ((ps.map Prod.snd).map Token.raw).flatten.length + (ps.map Prod.fst).flatten.length := by
  induction ps with
  | nil => rfl
  | cons p ps ih =>
      simp only [spread, List.flatMap_cons, List.map_cons, List.flatten_cons, List.length_append]
        at ih ⊢
      omega

/-- A token begins after the texts and separators before it, with its own separator as one of
them. -/
lemma length_spread_take {ts : List Token} {ws : List Text} (hn : ([] :: ws).length = ts.length)
    {i : Nat} {p : Text × Token} (hp : (([] :: ws).zip ts)[i]? = some p) :
    (spread ((([] :: ws).zip ts).take i)).length + p.1.length =
      offsetAmong (ts.map Token.raw) ws i := by
  have hfst : (([] :: ws).zip ts).map Prod.fst = [] :: ws := List.map_fst_zip (Nat.le_of_eq hn)
  have hsnd : (([] :: ws).zip ts).map Prod.snd = ts := List.map_snd_zip (Nat.le_of_eq hn.symm)
  have hown : ([] :: ws)[i]? = some p.1 := by rw [← hfst, List.getElem?_map, hp]; rfl
  have hsep : (ws.take i).flatten.length =
      (([] :: ws).take i).flatten.length + p.1.length := by
    calc (ws.take i).flatten.length
        = (([] :: ws).take (i + 1)).flatten.length := rfl
      _ = (([] :: ws).take i).flatten.length + p.1.length := by
          rw [List.take_add_one, hown, List.flatten_append, List.length_append]
          simp
  rw [length_spread, offsetAmong, hsep]
  simp only [List.map_take, hfst, hsnd]
  omega

/-- **Writing tokens and reading them again is lossless.** Tokens that were read from any texts,
written one after the other with blanks between them, are read as just these tokens, each with the
kind and the text it had and at the place where that text was written. A token that is written
alone is read as that one token. -/
theorem lex_spaced (ts : List Token) (ws : List Text) (hn : ws.length = ts.length - 1)
    (hw : ∀ w ∈ ws, w ≠ [] ∧ ∀ c ∈ w, isBlank c = true)
    (ht : ∀ t ∈ ts, ∃ source us, lex source = .ok us ∧ t ∈ us) :
    (∃ us, lex (spaced (ts.map Token.raw) ws) = .ok us ∧ us.length = ts.length ∧
        ∀ (i : Nat) (t : Token), ts[i]? = some t → ∃ u : Token, us[i]? = some u ∧
          u.kind = t.kind ∧ u.raw = t.raw ∧
          u.interval = .ofLength (offsetAmong (ts.map Token.raw) ws i) t.raw.length ∧
          u.interval.lookup (spaced (ts.map Token.raw) ws) = t.raw) ∧
      ∀ t ∈ ts, lex t.raw = .ok [⟨t.kind, t.raw, .ofLength 0 t.raw.length⟩] := by
  constructor
  · rw [spaced_eq_spread]
    have hlex : lex (spread (([] :: ws).zip ts)) =
        .ok (tokensFrom 0 (spreadElements (([] :: ws).zip ts))) := by
      refine lex_spread (fun p hp => ht p.2 (List.of_mem_zip hp).2) ?_ ?_
      · intro p hp c hc
        rcases List.mem_cons.1 (List.of_mem_zip hp).1 with hnil | hmem
        · rw [hnil] at hc
          cases hc
        · exact (hw p.1 hmem).2 c hc
      · intro p hp
        rw [List.tail_zip] at hp
        exact (hw p.1 (List.of_mem_zip hp).1).1
    refine ⟨_, hlex, ?_, ?_⟩
    · rw [length_tokensFrom_spread, List.length_zip, List.length_cons, hn]
      omega
    · intro i t hi
      have hpos := (List.getElem?_eq_some_iff.1 hi).1
      have hlen : ([] :: ws).length = ts.length := by
        rw [List.length_cons, hn]
        omega
      have hw? : ([] :: ws)[i]? = some ([] :: ws)[i] := List.getElem?_eq_getElem (by omega)
      have hp : (([] :: ws).zip ts)[i]? = some (([] :: ws)[i], t) :=
        List.getElem?_zip_eq_some.2 ⟨hw?, hi⟩
      have hu := getElem?_tokensFrom_spread 0 i (([] :: ws).zip ts)
      rw [hp, Option.map_some, Nat.zero_add, length_spread_take hlen hp] at hu
      refine ⟨_, hu, rfl, rfl, rfl, ?_⟩
      rw [← (lex_eq_ok_iff.1 hlex).2] at hu
      exact lookup_of_mem_tokens (List.mem_of_getElem? hu)
  · exact fun t hmem => lex_raw (ht t hmem)

/-- A slash, a star and a number from three texts, kept apart by blanks. -/
theorem lex_spaced_of_three :
    (∀ t ∈ [⟨.operator .slash, ['/'], .single 1⟩, ⟨.operator .star, ['*'], .single 0⟩,
        ⟨.number, ['1', '.'], .ofLength 4 2⟩], ∃ source us, lex source = .ok us ∧ t ∈ us) ∧
      ∃ us, lex "/ *\t\n1.".toList = .ok us ∧ us.length = 3 ∧
        ∃ u : Token, us[2]? = some u ∧ u.kind = .number ∧ u.raw = ['1', '.'] ∧
          u.interval = .ofLength 5 2 := by
  have hslash : lex "a/b".toList = .ok [⟨.name ['a'], ['a'], .single 0⟩,
      ⟨.operator .slash, ['/'], .single 1⟩, ⟨.name ['b'], ['b'], .single 2⟩] := by
    decide +kernel
  have hstar : lex "*".toList = .ok [⟨.operator .star, ['*'], .single 0⟩] := by decide +kernel
  have hnumber : lex "/**/1.".toList = .ok [⟨.number, ['1', '.'], .ofLength 4 2⟩] := by
    decide +kernel
  have ht : ∀ t ∈ [⟨.operator .slash, ['/'], .single 1⟩, ⟨.operator .star, ['*'], .single 0⟩,
      ⟨.number, ['1', '.'], .ofLength 4 2⟩], ∃ source us, lex source = .ok us ∧ t ∈ us := by
    intro t hmem
    simp only [List.mem_cons, List.not_mem_nil, or_false] at hmem
    rcases hmem with rfl | rfl | rfl
    · exact ⟨_, _, hslash, by decide⟩
    · exact ⟨_, _, hstar, by decide⟩
    · exact ⟨_, _, hnumber, by decide⟩
  have hw : ∀ w ∈ [[' '], ['\t', '\n']], w ≠ [] ∧ ∀ c ∈ w, isBlank c = true := by
    simp [isBlank]
  refine ⟨ht, ?_⟩
  obtain ⟨us, hus, hlen, hget⟩ := (lex_spaced _ [[' '], ['\t', '\n']] rfl hw ht).1
  obtain ⟨u, hu, hkind, hraw, hplace, -⟩ := hget 2 _ rfl
  exact ⟨us, hus, hlen, u, hu, hkind, hraw, hplace⟩

end Lexical
