import Lexical.Grammar.Read
import Mathlib.Tactic.Common

/-!
Malformed literals and comments, stated without reference to the functions that read a text.

* `Grammar.Recovers`: what recovery passes over, and where it stops.
* `Grammar.Fault`: the forms that a malformed part may have in view of what follows it; two forms
  need the end of the text, and the others are number literals.
* `Grammar.Fault.read`: every form is read as the fault it is.
* `Grammar.fault_of_read`: conversely, whatever is read as a fault has one of the forms.
-/

namespace Lexical.Grammar

open Character Piece

/-! ### The forms of a fault -/

/-- Recovery passes over `skipped` and stops before `rest`, which is empty or begins with the first
boundary. -/
structure Recovers (skipped rest : Text) : Prop where
  within : ∀ c ∈ skipped, isBoundary c = false
  stops : Stops (fun c => !isBoundary c) rest

/-- `Fault kind lead covered skipped rest` says that `lead ++ covered`, when `skipped ++ rest`
follows it, is a malformed literal or comment of which `covered` is to blame for the cause `kind`,
and that recovery passes over `skipped`. -/
inductive Fault : Issue.Kind → Text → Text → Text → Text → Prop
  | unclosedString {body : Text}
      (unended : ∀ inner after, StringLiteral.Body inner → body ≠ inner ++ '"' :: after) :
      Fault .unclosedString [] ('"' :: body) [] []
  | unclosedComment {body : Text}
      (unended : ∀ inside after, Comment.Inside inside → body ≠ inside ++ after) :
      Fault .unclosedComment [] ('/' :: '*' :: body) [] []
  | missingValue {radix : Radix} {mark : Char} {skipped rest : Text}
      (announced : Radix.ofMark? mark = some radix)
      (no_value : Stops Char.isAlphanum (skipped ++ rest)) (recovers : Recovers skipped rest) :
      Fault (.missingValue radix) [] ['0', mark] skipped rest
  | strayInMarked {radix : Radix} {mark c : Char} {run skipped rest : Text}
      (announced : Radix.ofMark? mark = some radix)
      (value : ∀ d, run.head? = some d → d.isAlphanum = true)
      (accepted : ∀ d ∈ run, radix.isRun d = true) (stray : c.isAlphanum = true)
      (refused : radix.isRun c = false) (recovers : Recovers skipped rest) :
      Fault (.invalidCharacter radix c) ('0' :: mark :: run) [c] skipped rest
  | strayInDecimal {digit c : Char} {run skipped rest : Text} (is_digit : digit.isDigit = true)
      (accepted : ∀ d ∈ run, isPointedRun d = true) (stray : c.isAlphanum = true)
      (refused : isPointedRun c = false)
      (unannounced : digit = '0' → run = [] → Radix.ofMark? c = none)
      (recovers : Recovers skipped rest) :
      Fault (.invalidCharacter .decimal c) (digit :: run) [c] skipped rest
  | manyPoints {digit : Char} {run skipped rest : Text} (is_digit : digit.isDigit = true)
      (accepted : ∀ d ∈ run, isPointedRun d = true) (points : 1 < run.count '.')
      (stops : Stops isDecimalRun (skipped ++ rest)) (recovers : Recovers skipped rest) :
      Fault (.manyPoints (run.count '.')) [] (digit :: run) skipped rest

/-! ### Recovery -/

/-- What recovery passes over is split off. -/
lemma Recovers.malformed_eq {skipped rest : Text} (h : Recovers skipped rest) (kind : Issue.Kind)
    (lead covered : Text) :
    malformed kind lead covered (skipped ++ rest) = (.fault kind lead covered skipped, rest) := by
  have hw : ∀ c ∈ skipped, (!isBoundary c) = true := by
    intro c hc
    rw [h.within c hc]
    rfl
  rw [malformed, Stops.takeWhile_append hw h.stops, Stops.dropWhile_append hw h.stops]

/-- What recovery takes from a text and what it leaves. -/
lemma recovers_takeWhile (source : Text) :
    Recovers (source.takeWhile fun c => !isBoundary c)
      (source.dropWhile fun c => !isBoundary c) := by
  refine ⟨fun c hc => ?_, stops_dropWhile _ source⟩
  have hnot := List.mem_takeWhile_imp hc
  rwa [Bool.not_eq_true'] at hnot

/-- What a malformed part takes in beyond the characters to blame is what recovery passes over. -/
lemma eq_of_malformed_eq {k kind : Issue.Kind} {l lead c covered skipped source rest : Text}
    (h : malformed k l c source = (.fault kind lead covered skipped, rest)) :
    k = kind ∧ l = lead ∧ c = covered ∧ source = skipped ++ rest ∧ Recovers skipped rest := by
  rw [malformed, Prod.mk.injEq, Piece.fault.injEq] at h
  obtain ⟨⟨rfl, rfl, rfl, rfl⟩, rfl⟩ := h
  exact ⟨rfl, rfl, rfl, List.takeWhile_append_dropWhile.symm, recovers_takeWhile source⟩

/-! ### What is read as a fault has one of the forms -/

variable {kind : Issue.Kind} {lead covered skipped rest : Text}

lemma fault_ofMarked {radix : Radix} {mark : Char} {source : Text}
    (hm : Radix.ofMark? mark = some radix)
    (h : ofMarked radix mark source = (.fault kind lead covered skipped, rest)) :
    Fault kind lead covered skipped rest := by
  rw [ofMarked] at h
  split at h
  · next has_value =>
    dsimp only at h
    split at h
    · next c beyond found =>
      obtain ⟨rfl, rfl, rfl, rfl, hr⟩ := eq_of_malformed_eq h
      refine .strayInMarked hm ?_ (fun d hd => List.mem_takeWhile_imp hd)
        (isAlphanum_of_stray? found) ?_ hr
      · -- the character after the mark is a letter or digit, whether it is accepted or not
        intro d hd
        obtain ⟨⟨e, more⟩, he⟩ := Option.isSome_iff_exists.1 has_value
        rw [List.head?_takeWhile, eq_cons_of_stray? he] at hd
        obtain ⟨hd, -⟩ := Option.filter_eq_some_iff.1 hd
        obtain rfl := Option.some.inj hd
        exact isAlphanum_of_stray? he
      · have hstop := stops_dropWhile radix.isRun source
        rw [eq_cons_of_stray? found, stops_cons] at hstop
        exact hstop
    · cases h
  · next no_value =>
    obtain ⟨rfl, rfl, rfl, rfl, hr⟩ := eq_of_malformed_eq h
    rw [Option.not_isSome_iff_eq_none, stray?_eq_none_iff] at no_value
    exact .missingValue hm no_value hr

lemma fault_ofDecimal {digit : Char} {source : Text} (hd : digit.isDigit = true)
    (hu : digit = '0' → ∀ c, source.head? = some c → Radix.ofMark? c = none)
    (h : ofDecimal (digit :: source) = (.fault kind lead covered skipped, rest)) :
    Fault kind lead covered skipped rest := by
  have hp : isPointedRun digit = true := by simp [isPointedRun, hd]
  rw [ofDecimal, List.takeWhile_cons_of_pos hp, List.dropWhile_cons_of_pos hp] at h
  split at h
  · next c beyond found =>
    obtain ⟨rfl, rfl, rfl, rfl, hr⟩ := eq_of_malformed_eq h
    have hstop := stops_dropWhile isPointedRun source
    rw [eq_cons_of_stray? found, stops_cons] at hstop
    refine .strayInDecimal hd (fun d hd => List.mem_takeWhile_imp hd)
      (isAlphanum_of_stray? found) hstop ?_ hr
    -- without accepted characters the stray one follows the zero directly
    intro hz hnil
    have hall := List.takeWhile_append_dropWhile (p := isPointedRun) (l := source)
    rw [hnil, List.nil_append, eq_cons_of_stray? found] at hall
    exact hu hz c (by rw [← hall]; rfl)
  · next clean =>
    split at h
    · next many =>
      obtain ⟨rfl, rfl, rfl, hs, hr⟩ := eq_of_malformed_eq h
      have hpoint : digit ≠ '.' := by
        rintro rfl
        cases hd
      rw [List.count_cons_of_ne hpoint] at many ⊢
      refine .manyPoints hd (fun d hd => List.mem_takeWhile_imp hd) many ?_ hr
      rw [← hs]
      exact stops_isDecimalRun (stops_dropWhile isPointedRun source) (stray?_eq_none_iff.1 clean)
    · cases h

lemma fault_ofNumber {digit : Char} {source : Text} (hd : digit.isDigit = true)
    (h : ofNumber digit source = (.fault kind lead covered skipped, rest)) :
    Fault kind lead covered skipped rest := by
  cases source with
  | nil => exact fault_ofDecimal hd (fun _ c hc => by cases hc) h
  | cons mark more =>
      rw [ofNumber] at h
      split at h
      · next radix found =>
        obtain ⟨-, hm⟩ := Option.ite_none_right_eq_some.1 found
        exact fault_ofMarked hm h
      · next found =>
        refine fault_ofDecimal hd ?_ h
        intro hz c hc
        obtain rfl := Option.some.inj hc
        rwa [if_pos hz] at found

lemma fault_ofString {source : Text}
    (h : ofString source = (.fault kind lead covered skipped, rest)) :
    Fault kind lead covered skipped rest := by
  rw [ofString] at h
  split at h
  · cases h
  · next unended =>
    cases h
    refine .unclosedString fun inner after hi hs => ?_
    rw [StringLiteral.split?_eq_some_iff.2 ⟨hi, hs⟩] at unended
    cases unended

lemma fault_ofBlockComment {source : Text}
    (h : ofBlockComment source = (.fault kind lead covered skipped, rest)) :
    Fault kind lead covered skipped rest := by
  rw [ofBlockComment] at h
  split at h
  · cases h
  · next unended =>
    cases h
    refine .unclosedComment fun inside after hi hs => ?_
    rw [Comment.close?_zero_eq_some_iff.2 ⟨hi, hs⟩] at unended
    cases unended

lemma ofMark_ne_fault {c : Char} {source : Text} :
    ofMark c source ≠ (.fault kind lead covered skipped, rest) := by
  intro h
  cases source with
  | nil => cases h
  | cons d after =>
      rw [ofMark] at h
      split at h <;> cases h

/-- **Whatever is read as a fault has one of the forms.** -/
theorem fault_of_read {c : Char} {source : Text}
    (h : Piece.read c source = (.fault kind lead covered skipped, rest)) :
    Fault kind lead covered skipped rest := by
  rw [Piece.read] at h
  split_ifs at h with blank quote digit line block start
  · cases h
  · exact fault_ofString h
  · exact fault_ofNumber digit h
  · cases h
  · exact fault_ofBlockComment h
  · cases h
  · exact absurd h ofMark_ne_fault

/-! ### The forms of a fault are read -/

lemma read_missingValue {radix : Radix} {mark : Char} (hm : Radix.ofMark? mark = some radix)
    (hv : Stops Char.isAlphanum (skipped ++ rest)) (hr : Recovers skipped rest) :
    Piece.read '0' (mark :: (skipped ++ rest)) =
      (.fault (.missingValue radix) [] ['0', mark] skipped, rest) := by
  have hnone : ¬ (stray? (skipped ++ rest)).isSome = true := by
    rw [stray?_eq_none_iff.2 hv]
    exact Bool.false_ne_true
  rw [read_digit rfl, ofNumber_marked hm, ofMarked, if_neg hnone, hr.malformed_eq]

lemma read_strayInMarked {radix : Radix} {mark c : Char} {run : Text}
    (hm : Radix.ofMark? mark = some radix) (hv : ∀ d, run.head? = some d → d.isAlphanum = true)
    (ha : ∀ d ∈ run, radix.isRun d = true) (hs : c.isAlphanum = true)
    (hc : radix.isRun c = false) (hr : Recovers skipped rest) :
    Piece.read '0' (mark :: (run ++ c :: (skipped ++ rest))) =
      (.fault (.invalidCharacter radix c) ('0' :: mark :: run) [c] skipped, rest) := by
  have hstop : Stops radix.isRun (c :: (skipped ++ rest)) := stops_cons.2 hc
  have hsome : (stray? (run ++ c :: (skipped ++ rest))).isSome = true := by
    cases run with
    | nil =>
        rw [List.nil_append, stray?_cons hs]
        rfl
    | cons d more =>
        rw [List.cons_append, stray?_cons (hv d rfl)]
        rfl
  rw [read_digit rfl, ofNumber_marked hm, ofMarked, if_pos hsome]
  simp only [Stops.takeWhile_append ha hstop, Stops.dropWhile_append ha hstop, stray?_cons hs,
    hr.malformed_eq]

lemma read_strayInDecimal {digit c : Char} {run : Text} (hd : digit.isDigit = true)
    (ha : ∀ d ∈ run, isPointedRun d = true) (hs : c.isAlphanum = true)
    (hc : isPointedRun c = false) (hu : digit = '0' → run = [] → Radix.ofMark? c = none)
    (hr : Recovers skipped rest) :
    Piece.read digit (run ++ c :: (skipped ++ rest)) =
      (.fault (.invalidCharacter .decimal c) (digit :: run) [c] skipped, rest) := by
  have hp : isPointedRun digit = true := by simp [isPointedRun, hd]
  have hstop : Stops isPointedRun (c :: (skipped ++ rest)) := stops_cons.2 hc
  have hunmarked : digit = '0' → ∀ e, (run ++ c :: (skipped ++ rest)).head? = some e →
      Radix.ofMark? e = none := by
    intro hz e he
    cases run with
    | nil =>
        obtain rfl := Option.some.inj he
        exact hu hz rfl
    | cons d more =>
        obtain rfl := Option.some.inj he
        exact ofMark?_eq_none (.inl (ha d (List.mem_cons_self ..)))
  rw [read_digit hd, ofNumber_decimal hunmarked, ofDecimal, List.takeWhile_cons_of_pos hp,
    List.dropWhile_cons_of_pos hp]
  simp only [Stops.takeWhile_append ha hstop, Stops.dropWhile_append ha hstop, stray?_cons hs,
    hr.malformed_eq]

lemma read_manyPoints {digit : Char} {run : Text} (hd : digit.isDigit = true)
    (ha : ∀ d ∈ run, isPointedRun d = true) (hp : 1 < run.count '.')
    (hs : Stops isDecimalRun (skipped ++ rest)) (hr : Recovers skipped rest) :
    Piece.read digit (run ++ (skipped ++ rest)) =
      (.fault (.manyPoints (run.count '.')) [] (digit :: run) skipped, rest) := by
  have hdigit : isPointedRun digit = true := by simp [isPointedRun, hd]
  have hstop : Stops isPointedRun (skipped ++ rest) := hs.mono isDecimalRun_of_isPointedRun
  have hclean : stray? (skipped ++ rest) = none :=
    stray?_eq_none_iff.2 (hs.mono isDecimalRun_of_isAlphanum)
  have hcount : (digit :: run).count '.' = run.count '.' := by
    refine List.count_cons_of_ne ?_
    rintro rfl
    cases hd
  have hunmarked : digit = '0' → ∀ e, (run ++ (skipped ++ rest)).head? = some e →
      Radix.ofMark? e = none := by
    intro _ e he
    cases run with
    | nil => cases hp
    | cons d more =>
        obtain rfl := Option.some.inj he
        exact ofMark?_eq_none (.inl (ha d (List.mem_cons_self ..)))
  rw [read_digit hd, ofNumber_decimal hunmarked, ofDecimal, List.takeWhile_cons_of_pos hdigit,
    List.dropWhile_cons_of_pos hdigit]
  simp only [Stops.takeWhile_append ha hstop, Stops.dropWhile_append ha hstop, hclean, hcount,
    if_pos hp, hr.malformed_eq]

lemma read_unclosedString {body : Text}
    (hu : ∀ inner after, StringLiteral.Body inner → body ≠ inner ++ '"' :: after) :
    Piece.read '"' body = (.fault .unclosedString [] ('"' :: body) [], []) := by
  show ofString body = _
  rw [ofString]
  split
  · next inner after found =>
    obtain ⟨hi, hs⟩ := StringLiteral.split?_eq_some_iff.1 found
    exact absurd hs (hu inner after hi)
  · rfl

lemma read_unclosedComment {body : Text}
    (hu : ∀ inside after, Comment.Inside inside → body ≠ inside ++ after) :
    Piece.read '/' ('*' :: body) = (.fault .unclosedComment [] ('/' :: '*' :: body) [], []) := by
  show ofBlockComment body = _
  rw [ofBlockComment]
  split
  · next inside after found =>
    obtain ⟨hi, hs⟩ := Comment.close?_zero_eq_some_iff.1 found
    exact absurd hs (hu inside after hi)
  · rfl

/-- **Every form of a fault is read as that fault.** -/
theorem Fault.read (h : Fault kind lead covered skipped rest) :
    ∃ c after, lead ++ covered ++ skipped ++ rest = c :: after ∧
      Piece.read c after = (.fault kind lead covered skipped, rest) := by
  cases h with
  | unclosedString unended => exact ⟨_, _, by simp, read_unclosedString unended⟩
  | unclosedComment unended => exact ⟨_, _, by simp, read_unclosedComment unended⟩
  | missingValue announced no_value recovers =>
      exact ⟨_, _, by simp, read_missingValue announced no_value recovers⟩
  | strayInMarked announced value accepted stray refused recovers =>
      exact ⟨_, _, by simp, read_strayInMarked announced value accepted stray refused recovers⟩
  | strayInDecimal is_digit accepted stray refused unannounced recovers =>
      exact ⟨_, _, by simp,
        read_strayInDecimal is_digit accepted stray refused unannounced recovers⟩
  | manyPoints is_digit accepted points stops recovers =>
      exact ⟨_, _, by simp, read_manyPoints is_digit accepted points stops recovers⟩

end Lexical.Grammar
