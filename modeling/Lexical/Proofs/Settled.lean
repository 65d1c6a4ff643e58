import Lexical.Proofs.Recovery

/-!
What a text settles before its end.

* `Piece.Stands.settled`: a piece that ends before the last character of a first part is the same
  whatever comes after that part.
* `Grammar.Fault.settled`: so is the part to blame of a fault, though recovery may run on.
* `earlyFrom_settled`: hence the findings that end there do not depend on the rest.
* `lex_settled`: **results that are settled stay**: issues and tokens that end before the last
  character of a first part are the same in every text that begins with it.
-/

namespace Lexical

open Character Grammar

/-! ### One piece -/

/-- Two pieces that stand at the head of one text are the same. -/
lemma Piece.Stands.unique {p q : Piece} {rest rest' : Text} (hp : p.Stands rest)
    (hq : q.Stands rest') (h : p.text ++ rest = q.text ++ rest') : p = q ∧ rest = rest' := by
  obtain ⟨c, after, heq, hread⟩ := hp.read
  have hread' := Piece.read_eq_iff.2 ⟨hq, h.symm.trans heq⟩
  exact Prod.mk.inj (hread.symm.trans hread')

/-- A piece that is shorter than the first part of a text is settled by that part. -/
lemma Piece.Stands.settled {p : Piece} {first rest x : Text} (h : p.Stands rest)
    (ht : p.text ++ rest = first ++ x) (hlt : p.text.length < first.length) :
    ∃ left, first = p.text ++ left ∧ rest = left ++ x ∧ ∀ y, p.Stands (left ++ y) := by
  rcases List.append_eq_append_iff.1 ht with ⟨left, rfl, rfl⟩ | ⟨more, hmore, -⟩
  · refine ⟨left, rfl, rfl, fun y => h.of_head fun c hc => ?_⟩
    cases left with
    | nil =>
        rw [List.append_nil] at hlt
        exact absurd hlt (Nat.lt_irrefl _)
    | cons d more => exact hc
  · rw [hmore, List.length_append] at hlt
    omega

/-- Of what follows the part to blame only the first character matters, and only while there is
one; recovery then takes what it finds. -/
lemma Grammar.Fault.of_beyond {kind : Issue.Kind} {lead covered skipped rest : Text}
    (h : Fault kind lead covered skipped rest) (beyond : Text)
    (hh : ∀ c, beyond.head? = some c → (skipped ++ rest).head? = some c) :
    Fault kind lead covered (beyond.takeWhile fun c => !isBoundary c)
      (beyond.dropWhile fun c => !isBoundary c) := by
  have hr := recovers_takeWhile beyond
  have hall : beyond.takeWhile (fun c => !isBoundary c) ++
      beyond.dropWhile (fun c => !isBoundary c) = beyond := List.takeWhile_append_dropWhile
  have hnil : skipped ++ rest = [] → beyond = [] := by
    intro hs
    cases beyond with
    | nil => rfl
    | cons c more =>
        have hc := hh c rfl
        rw [hs] at hc
        cases hc
  cases h with
  | unclosedString unended =>
      rw [hnil rfl]
      exact .unclosedString unended
  | unclosedComment unended =>
      rw [hnil rfl]
      exact .unclosedComment unended
  | missingValue announced no_value _ =>
      refine .missingValue announced ?_ hr
      rw [hall]
      exact no_value.of_head hh
  | strayInMarked announced value accepted stray refused _ =>
      exact .strayInMarked announced value accepted stray refused hr
  | strayInDecimal is_digit accepted stray refused unannounced _ =>
      exact .strayInDecimal is_digit accepted stray refused unannounced hr
  | manyPoints is_digit accepted points stops _ =>
      refine .manyPoints is_digit accepted points ?_ hr
      rw [hall]
      exact stops.of_head hh

/-- A fault whose part to blame ends before the last character of a first part of the text is
settled by that part, except for what recovery passes over. -/
lemma Grammar.Fault.settled {kind : Issue.Kind} {lead covered skipped rest first x : Text}
    (h : Fault kind lead covered skipped rest)
    (ht : lead ++ covered ++ skipped ++ rest = first ++ x)
    (hlt : (lead ++ covered).length < first.length) (y : Text) :
    ∃ skipped' rest', Fault kind lead covered skipped' rest' ∧
      lead ++ covered ++ skipped' ++ rest' = first ++ y := by
  rw [List.append_assoc] at ht
  rcases List.append_eq_append_iff.1 ht with ⟨left, rfl, hleft⟩ | ⟨more, hmore, -⟩
  · refine ⟨_, _, h.of_beyond (left ++ y) fun c hc => ?_, ?_⟩
    · cases left with
      | nil =>
          rw [List.append_nil] at hlt
          exact absurd hlt (Nat.lt_irrefl _)
      | cons d more =>
          rw [hleft]
          exact hc
    · rw [List.append_assoc, List.takeWhile_append_dropWhile, ← List.append_assoc]
  · rw [hmore, List.length_append] at hlt
    omega

/-! ### The findings of a text -/

/-- A finding without what recovery skipped after it. -/
def Finding.bare : Finding → Finding
  | token t => token t
  | issue i _ => issue i []

lemma Finding.interval_bare (f : Finding) : f.bare.interval = f.interval := by cases f <;> rfl

/-- Whether a finding ends before the last of the first `n` characters of a text. -/
def Finding.endsEarly (n : Nat) (f : Finding) : Bool := decide (f.interval.last + 1 < n)

/-- What a piece that begins at an offset means, if it ends early. -/
def Piece.early? (n position : Nat) (p : Piece) : Option Finding :=
  ((p.finding? position).map Finding.bare).filter (Finding.endsEarly n)

/-- The early findings of pieces of which the first begins at an offset. -/
def earlyFrom (n position : Nat) (ps : List Piece) : List Finding :=
  ((findingsFrom position ps).map Finding.bare).filter (Finding.endsEarly n)

lemma earlyFrom_cons (n position : Nat) (p : Piece) (ps : List Piece) :
    earlyFrom n position (p :: ps) =
      (p.early? n position).toList ++ earlyFrom n (position + p.text.length) ps := by
  rw [earlyFrom, findingsFrom, List.map_append, List.filter_append, ← Option.toList_map,
    ← Option.toList_filter]
  rfl

/-- Pieces have no early finding if the first of them begins late. -/
lemma earlyFrom_eq_nil {n position : Nat} {ps : List Piece} (h : Reading ps) (hn : n ≤ position) :
    earlyFrom n position ps = [] := by
  refine List.filter_eq_nil_iff.2 fun f hf => ?_
  obtain ⟨g, hg, rfl⟩ := List.mem_map.1 hf
  have hfirst := (findingsFrom_within h g hg).1
  have hle := g.interval.first_le_last
  rw [Finding.endsEarly, Finding.interval_bare, decide_eq_true_eq]
  omega

/-- An early finding of a piece that takes in the whole first part of its text can only be an issue,
which every text with that first part has. -/
lemma Piece.Stands.early?_settled {p q : Piece} {first rest rest' x y : Text} {position : Nat}
    {f : Finding} (hp : p.Stands rest) (ht : p.text ++ rest = first ++ x)
    (hq : q.Stands rest') (ht' : q.text ++ rest' = first ++ y)
    (hlong : first.length ≤ p.text.length)
    (hf : p.early? (position + first.length) position = some f) :
    q.early? (position + first.length) position = some f := by
  obtain ⟨hf, hearly⟩ := Option.filter_eq_some_iff.1 hf
  refine Option.filter_eq_some_iff.2 ⟨?_, hearly⟩
  rw [Finding.endsEarly, decide_eq_true_eq] at hearly
  cases p with
  | trivia text => cases hf
  | token kind text =>
      obtain rfl := Option.some.inj hf
      simp only [Finding.bare, Finding.interval, Interval.last_ofLength, Piece.text] at hearly hlong
      omega
  | fault kind lead covered skipped =>
      obtain rfl := Option.some.inj hf
      have hpos := List.length_pos_iff.2 (Fault.covered_ne_nil hp)
      simp only [Finding.bare, Finding.interval, Interval.last_ofLength] at hearly
      obtain ⟨skipped', rest'', hfault, htext⟩ :=
        Fault.settled hp ht (by rw [List.length_append]; omega) y
      have hstands : (Piece.fault kind lead covered skipped').Stands rest'' := hfault
      obtain ⟨rfl, -⟩ := hstands.unique hq (htext.trans ht'.symm)
      rfl

/-- **Early findings are settled**: two texts with the same first part have the same. -/
theorem earlyFrom_settled (position : Nat) {ps qs : List Piece} {first x y : Text}
    (hp : Reading ps) (hq : Reading qs) (ht : ps.flatMap Piece.text = first ++ x)
    (ht' : qs.flatMap Piece.text = first ++ y) :
    earlyFrom (position + first.length) position ps =
      earlyFrom (position + first.length) position qs := by
  induction ps generalizing qs first position with
  | nil =>
      obtain ⟨rfl, -⟩ := List.append_eq_nil_iff.1 ht.symm
      rw [List.length_nil, Nat.add_zero, earlyFrom_eq_nil hp (Nat.le_refl _),
        earlyFrom_eq_nil hq (Nat.le_refl _)]
  | cons p ps ih =>
      cases qs with
      | nil =>
          obtain ⟨rfl, -⟩ := List.append_eq_nil_iff.1 ht'.symm
          rw [List.length_nil, Nat.add_zero, earlyFrom_eq_nil hp (Nat.le_refl _),
            earlyFrom_eq_nil hq (Nat.le_refl _)]
      | cons q qs =>
          obtain ⟨hp, hps⟩ := hp
          obtain ⟨hq, hqs⟩ := hq
          rw [List.flatMap_cons] at ht ht'
          by_cases hshort : p.text.length < first.length
          · -- the piece is settled, so both readings go on behind it
            obtain ⟨left, rfl, hleft, hsettled⟩ := hp.settled ht hshort
            rw [List.append_assoc] at ht'
            obtain ⟨rfl, hleft'⟩ := (hsettled y).unique hq ht'.symm
            rw [earlyFrom_cons, earlyFrom_cons, List.length_append, ← Nat.add_assoc,
              ih _ hps hqs hleft hleft'.symm]
          · have hshort' : ¬ q.text.length < first.length := by
              intro hlt
              obtain ⟨left, rfl, -, hsettled⟩ := hq.settled ht' hlt
              rw [List.append_assoc] at ht
              obtain ⟨rfl, -⟩ := (hsettled x).unique hp ht.symm
              exact hshort hlt
            have hearly : p.early? (position + first.length) position =
                q.early? (position + first.length) position := by
              refine Option.ext fun f => ⟨fun hf => ?_, fun hf => ?_⟩
              · exact hp.early?_settled ht hq ht' (Nat.le_of_not_lt hshort) hf
              · exact hq.early?_settled ht' hp ht (Nat.le_of_not_lt hshort') hf
            rw [earlyFrom_cons, earlyFrom_cons, hearly, earlyFrom_eq_nil hps (by omega),
              earlyFrom_eq_nil hqs (by omega)]

/-! ### Outcomes -/

/-- What ends early among all that is selected from findings, where they stand, is what is selected
from the early ones, if the selection does not look at what recovery skipped. -/
lemma filter_filterMap_findings {α : Type} {part : Finding → Option α} {place : α → Interval}
    (hbare : ∀ f, part f.bare = part f) (hplace : ∀ f a, part f = some a → f.interval = place a)
    (n : Nat) (source : Text) :
    ((findings source).filterMap part).filter (fun a => decide ((place a).last + 1 < n)) =
      (earlyFrom n 0 (pieces source)).filterMap part := by
  rw [earlyFrom, List.filterMap_filter, List.filterMap_map, List.filter_filterMap, findings]
  congr 1
  funext f
  rw [Function.comp_apply, hbare, Finding.endsEarly, Finding.interval_bare]
  cases hf : part f with
  | none => rw [Option.filter_none, ite_self]
  | some a =>
      rw [hplace f a hf]
      rfl

/-- The early part of what is selected from the findings is the same in all texts that begin
alike. -/
lemma filter_filterMap_settled {α : Type} {part : Finding → Option α} {place : α → Interval}
    (hbare : ∀ f, part f.bare = part f) (hplace : ∀ f a, part f = some a → f.interval = place a)
    (first x y : Text) :
    ((findings (first ++ x)).filterMap part).filter
        (fun a => decide ((place a).last + 1 < first.length)) =
      ((findings (first ++ y)).filterMap part).filter
        (fun a => decide ((place a).last + 1 < first.length)) := by
  have hsettled := earlyFrom_settled 0 (reading_pieces (first ++ x))
    (reading_pieces (first ++ y)) (pieces_flatMap_text _) (pieces_flatMap_text _)
  rw [Nat.zero_add] at hsettled
  rw [filter_filterMap_findings hbare hplace, filter_filterMap_findings hbare hplace, hsettled]

/-- **Results that are settled stay.** Issues that end before the last character of a first part are
the same, in the same order, in all texts that begin with this part, and so are tokens if the texts
have any. -/
theorem lex_settled (first x y : Text) :
    (reported (lex (first ++ x))).filter (fun i => i.interval.last + 1 < first.length) =
        (reported (lex (first ++ y))).filter (fun i => i.interval.last + 1 < first.length) ∧
      ∀ ts us, lex (first ++ x) = .ok ts → lex (first ++ y) = .ok us →
        ts.filter (fun t => t.interval.last + 1 < first.length) =
          us.filter (fun t => t.interval.last + 1 < first.length) := by
  constructor
  · rw [reported_lex, reported_lex]
    exact filter_filterMap_settled (fun f => by cases f <;> rfl)
      (fun _ _ => Finding.interval_of_issue?) first x y
  · intro ts us hts hus
    obtain ⟨-, rfl⟩ := lex_eq_ok_iff.1 hts
    obtain ⟨-, rfl⟩ := lex_eq_ok_iff.1 hus
    exact filter_filterMap_settled (fun f => by cases f <;> rfl)
      (fun _ _ => Finding.interval_of_token?) first x y

/-- A zero that becomes a number in one text and begins another number in the other. -/
theorem lex_settled_before_zero :
    lex ("a=0".toList ++ "x1".toList) = .ok [⟨.name ['a'], ['a'], .single 0⟩,
        ⟨.operator .equals, ['='], .single 1⟩, ⟨.number, "0x1".toList, .ofLength 2 3⟩] ∧
      lex ("a=0".toList ++ ";".toList) = .ok [⟨.name ['a'], ['a'], .single 0⟩,
        ⟨.operator .equals, ['='], .single 1⟩, ⟨.number, ['0'], .single 2⟩,
        ⟨.operator .semicolon, [';'], .single 3⟩] ∧
      ([⟨.name ['a'], ['a'], .single 0⟩, ⟨.operator .equals, ['='], .single 1⟩,
          ⟨.number, "0x1".toList, .ofLength 2 3⟩] : List Token).filter
            (fun t => t.interval.last + 1 < "a=0".toList.length) =
        ([⟨.name ['a'], ['a'], .single 0⟩, ⟨.operator .equals, ['='], .single 1⟩,
          ⟨.number, ['0'], .single 2⟩, ⟨.operator .semicolon, [';'], .single 3⟩] : List Token).filter
            (fun t => t.interval.last + 1 < "a=0".toList.length) := by
  have hx : lex ("a=0".toList ++ "x1".toList) = .ok [⟨.name ['a'], ['a'], .single 0⟩,
      ⟨.operator .equals, ['='], .single 1⟩, ⟨.number, "0x1".toList, .ofLength 2 3⟩] := by
    decide +kernel
  have hy : lex ("a=0".toList ++ ";".toList) = .ok [⟨.name ['a'], ['a'], .single 0⟩,
      ⟨.operator .equals, ['='], .single 1⟩, ⟨.number, ['0'], .single 2⟩,
      ⟨.operator .semicolon, [';'], .single 3⟩] := by
    decide +kernel
  exact ⟨hx, hy, (lex_settled _ _ _).2 _ _ hx hy⟩

end Lexical
