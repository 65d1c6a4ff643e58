import Lexical.Interval
import Lexical.Proofs.Fault
import Lexical.Text.Quoted
import Mathlib.Data.Nat.Digits.Defs

/-!
What is written can be told apart.

* `Grammar.Stops.append_inj`: a run and what follows it, if that does not go on with the run.
* `Text.decimal_append_inj`, `Text.hexadecimal_inj`: a numeral determines its number.
* `Text.Escaped`: the forms in which a character is written between quotes, and
  `Text.Escaped.append_inj`: a written character determines itself and the text after it.
* `Text.quote_inj`: **a quoted text determines the text**, and it is one line.
* `Interval.display_append_inj`: a written interval determines itself and the text after it.
-/

namespace Lexical

open Character Grammar

/-! ### Runs -/

/-- Two runs of one class are the same if they make up one text together with what follows them, and
that goes on with neither. -/
lemma Grammar.Stops.append_inj {p : Char → Bool} {a b x y : Text} (ha : ∀ c ∈ a, p c = true)
    (hb : ∀ c ∈ b, p c = true) (hx : Stops p x) (hy : Stops p y) (h : a ++ x = b ++ y) :
    a = b ∧ x = y := by
  constructor
  · rw [← Stops.takeWhile_append ha hx, h, Stops.takeWhile_append hb hy]
  · rw [← Stops.dropWhile_append ha hx, h, Stops.dropWhile_append hb hy]

namespace Text

/-! ### Numerals -/

/-- A numeral in base ten determines itself and the text after it, if no digit follows. -/
lemma decimal_append_inj {m n : Nat} {x y : Text} (hx : Stops Char.isDigit x)
    (hy : Stops Char.isDigit y) (h : decimal m ++ x = decimal n ++ y) : m = n ∧ x = y := by
  obtain ⟨hnumeral, hrest⟩ := Stops.append_inj (fun _ => isDigit_of_mem_decimal)
    (fun _ => isDigit_of_mem_decimal) hx hy h
  exact ⟨decimal_inj.1 hnumeral, hrest⟩

lemma lineFeed_not_mem_decimal (n : Nat) : '\n' ∉ decimal n := by
  intro h
  cases isDigit_of_mem_decimal h

/-- The value of a digit in base sixteen, written with small letters. -/
def digitValue (c : Char) : Nat :=
  if c.isDigit then c.toNat - '0'.toNat else c.toNat - 'a'.toNat + 10

/-- The number that is written in base sixteen. -/
def readHexadecimal (numeral : Text) : Nat := numeral.foldl (fun n c => 16 * n + digitValue c) 0

lemma digitValue_digitChar {d : Nat} (h : d < 16) : digitValue (Nat.digitChar d) = d := by
  have hall : ∀ d < 16, digitValue (Nat.digitChar d) = d := by decide
  exact hall d h

lemma isDigit_digitChar {d : Nat} (h : d < 16) :
    Radix.hexadecimal.isDigit (Nat.digitChar d) = true := by
  have hall : ∀ d < 16, Radix.hexadecimal.isDigit (Nat.digitChar d) = true := by decide
  exact hall d h

lemma readHexadecimal_hexadecimal (n : Nat) : readHexadecimal (hexadecimal n) = n := by
  induction n using Nat.strong_induction_on with
  | _ n ih =>
    rw [hexadecimal, Nat.toDigits_eq_if (by decide)]
    split_ifs with hlt
    · rw [readHexadecimal, List.foldl_cons, digitValue_digitChar hlt]
      exact Nat.zero_add n
    · have hdiv := ih (n / 16) (Nat.div_lt_self (by omega) (by decide))
      rw [hexadecimal, readHexadecimal] at hdiv
      rw [readHexadecimal, List.foldl_append, hdiv, List.foldl_cons,
        digitValue_digitChar (Nat.mod_lt n (by decide))]
      exact Nat.div_add_mod n 16

/-- A numeral in base sixteen determines its number. -/
lemma hexadecimal_inj {m n : Nat} (h : hexadecimal m = hexadecimal n) : m = n := by
  rw [← readHexadecimal_hexadecimal m, h, readHexadecimal_hexadecimal]

/-- A numeral in base sixteen is written with the digits of that base. -/
lemma isDigit_of_mem_hexadecimal {n : Nat} {c : Char} (h : c ∈ hexadecimal n) :
    Radix.hexadecimal.isDigit c = true := by
  induction n using Nat.strong_induction_on with
  | _ n ih =>
    rw [hexadecimal, Nat.toDigits_eq_if (by decide)] at h
    split_ifs at h with hlt
    · rw [List.mem_singleton.1 h]
      exact isDigit_digitChar hlt
    · rcases List.mem_append.1 h with h | h
      · exact ih (n / 16) (Nat.div_lt_self (by omega) (by decide)) h
      · rw [List.mem_singleton.1 h]
        exact isDigit_digitChar (Nat.mod_lt n (by decide))

/-! ### Quoted texts -/

/-- The characters that are written as a backslash and a letter, each with its letter. -/
def letters : List (Char × Char) :=
  [('"', '"'), ('\\', '\\'), ('\x00', '0'), ('\t', 't'), ('\n', 'n'), ('\r', 'r')]

/-- `Escaped c text` says that `text` is a form in which `c` may be written between quotes. -/
inductive Escaped (c : Char) : Text → Prop
  | letter {l : Char} (listed : (c, l) ∈ letters) : Escaped c ['\\', l]
  | code : Escaped c (['\\', 'u', '{'] ++ hexadecimal c.toNat ++ ['}'])
  | plain (not_quote : c ≠ '"') (not_backslash : c ≠ '\\') (not_lineFeed : c ≠ '\n') :
      Escaped c [c]

/-- Every character is written in one of the forms. -/
lemma escaped_escape (c : Char) : Escaped c (escape c) := by
  rw [escape]
  split_ifs with quote backslash null tab lineFeed return_ code
  · subst quote
    exact .letter (by decide)
  · subst backslash
    exact .letter (by decide)
  · subst null
    exact .letter (by decide)
  · subst tab
    exact .letter (by decide)
  · subst lineFeed
    exact .letter (by decide)
  · subst return_
    exact .letter (by decide)
  · exact .code
  · exact .plain quote backslash lineFeed

lemma eq_of_mem_letters {c d l : Char} (hc : (c, l) ∈ letters) (hd : (d, l) ∈ letters) : c = d := by
  have hall : ∀ p ∈ letters, ∀ q ∈ letters, p.2 = q.2 → p.1 = q.1 := by decide
  exact hall _ hc _ hd rfl

/-- A written character determines itself and the text after it. -/
lemma Escaped.append_inj {c d : Char} {s t x y : Text} (hc : Escaped c s) (hd : Escaped d t)
    (h : s ++ x = t ++ y) : c = d ∧ x = y := by
  have hu : ∀ p ∈ letters, p.2 ≠ 'u' := by decide
  cases hc with
  | @letter l listed =>
      cases hd with
      | @letter l' listed' =>
          simp only [List.cons_append, List.nil_append, List.cons.injEq, true_and] at h
          obtain ⟨rfl, rfl⟩ := h
          exact ⟨eq_of_mem_letters listed listed', rfl⟩
      | code =>
          obtain ⟨-, h⟩ := List.cons.inj h
          exact absurd (List.cons.inj h).1 (hu _ listed)
      | plain _ not_backslash _ => exact absurd (List.cons.inj h).1.symm not_backslash
  | code =>
      cases hd with
      | @letter l' listed' =>
          obtain ⟨-, h⟩ := List.cons.inj h
          exact absurd (List.cons.inj h).1.symm (hu _ listed')
      | code =>
          have hstop : ∀ z, Stops Radix.hexadecimal.isDigit ('}' :: z) := fun z =>
            stops_cons.2 rfl
          simp only [List.cons_append, List.nil_append, List.cons.injEq, true_and,
            List.append_assoc] at h
          obtain ⟨hnumeral, hrest⟩ := Stops.append_inj (fun _ => isDigit_of_mem_hexadecimal)
            (fun _ => isDigit_of_mem_hexadecimal) (hstop x) (hstop y) h
          exact ⟨Char.toNat_inj.1 (hexadecimal_inj hnumeral), (List.cons.inj hrest).2⟩
      | plain _ not_backslash _ => exact absurd (List.cons.inj h).1.symm not_backslash
  | plain _ not_backslash _ =>
      cases hd with
      | letter _ => exact absurd (List.cons.inj h).1 not_backslash
      | code => exact absurd (List.cons.inj h).1 not_backslash
      | plain _ _ _ => exact List.cons.inj h

/-- A written character is within a line. -/
lemma Escaped.lineFeed_not_mem {c : Char} {s : Text} (h : Escaped c s) : '\n' ∉ s := by
  cases h with
  | @letter l listed =>
      have hall : ∀ p ∈ letters, '\n' ∉ ['\\', p.2] := by decide
      exact hall _ listed
  | code =>
      have hnumeral : '\n' ∉ hexadecimal c.toNat := fun hmem => by
        cases isDigit_of_mem_hexadecimal hmem
      have hopen : '\n' ∉ ['\\', 'u', '{'] := by decide
      have hclose : '\n' ∉ ['}'] := by decide
      exact List.not_mem_append (List.not_mem_append hopen hnumeral) hclose
  | plain _ _ not_lineFeed => exact fun hmem => not_lineFeed (List.mem_singleton.1 hmem).symm

/-- What is written one after the other determines what was written, if each part determines itself
and the text after it. -/
lemma flatMap_inj {α : Type} {write : α → Text} {as bs : List α}
    (hinj : ∀ a ∈ as, ∀ b ∈ bs, ∀ x y, write a ++ x = write b ++ y → a = b ∧ x = y)
    (hne : ∀ a, write a ≠ []) (h : as.flatMap write = bs.flatMap write) : as = bs := by
  induction as generalizing bs with
  | nil =>
      cases bs with
      | nil => rfl
      | cons b bs => exact absurd (List.append_eq_nil_iff.1 h.symm).1 (hne b)
  | cons a as ih =>
      cases bs with
      | nil => exact absurd (List.append_eq_nil_iff.1 h).1 (hne a)
      | cons b bs =>
          obtain ⟨rfl, hrest⟩ := hinj a (List.mem_cons_self ..) b (List.mem_cons_self ..) _ _ h
          rw [ih (fun a' ha b' hb => hinj a' (List.mem_cons_of_mem a ha) b'
            (List.mem_cons_of_mem a hb)) hrest]

lemma escape_ne_nil (c : Char) : escape c ≠ [] := by
  have h := escaped_escape c
  generalize escape c = s at h
  cases h <;> exact List.cons_ne_nil _ _

/-- **A quoted text determines the text.** -/
theorem quote_inj {s t : Text} (h : quote s = quote t) : s = t := by
  obtain ⟨-, h⟩ := List.cons.inj h
  refine flatMap_inj (fun c _ d _ x y hcd => ?_) escape_ne_nil (List.append_cancel_right h)
  exact (escaped_escape c).append_inj (escaped_escape d) hcd

/-- A quoted text is within a line. -/
theorem lineFeed_not_mem_quote (s : Text) : '\n' ∉ quote s := by
  have hquote : '\n' ∉ ['"'] := by decide
  have hbody : '\n' ∉ s.flatMap escape := by
    intro hmem
    obtain ⟨c, -, hc⟩ := List.mem_flatMap.1 hmem
    exact (escaped_escape c).lineFeed_not_mem hc
  exact List.not_mem_append hquote (List.not_mem_append hbody hquote)

end Text

/-! ### Intervals -/

/-- A written interval determines itself and the text after it, if no digit follows. -/
lemma Interval.display_append_inj {i j : Interval} {x y : Text} (hx : Stops Char.isDigit x)
    (hy : Stops Char.isDigit y) (h : i.display ++ x = j.display ++ y) : i = j ∧ x = y := by
  have hdots : "..=".toList = ['.', '.', '='] := by decide +kernel
  have hstop : ∀ z, Stops Char.isDigit (['.', '.', '='] ++ z) := fun z => stops_cons.2 rfl
  simp only [Interval.display, hdots, List.append_assoc] at h
  obtain ⟨hfirst, hrest⟩ := Text.decimal_append_inj (hstop _) (hstop _) h
  obtain ⟨hlast, htext⟩ := Text.decimal_append_inj hx hy (List.append_cancel_left hrest)
  obtain ⟨first, last, _⟩ := i
  obtain ⟨first', last', _⟩ := j
  obtain rfl : first = first' := hfirst
  obtain rfl : last = last' := hlast
  exact ⟨rfl, htext⟩

/-- A written interval is within a line. -/
lemma Interval.lineFeed_not_mem_display (i : Interval) : '\n' ∉ i.display := by
  have hdots : '\n' ∉ "..=".toList := by decide +kernel
  exact List.not_mem_append (List.not_mem_append (Text.lineFeed_not_mem_decimal i.first) hdots)
    (Text.lineFeed_not_mem_decimal i.last)

end Lexical
