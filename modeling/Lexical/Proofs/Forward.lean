import Lexical.Cursor.Call
import Lexical.Grammar.Runs
import Mathlib.Tactic.Common

/-!
A cursor reads its text forward, without a loss.

* `Cursor.Passes`: one cursor stands behind a text that comes next at the other one. Every call
  passes the characters it consumes (`Cursor.passes_perform`), and so do calls in any order
  (`Cursor.passes_after`).
* `Cursor.Answers`: the reply to a call at an offset of a text, and the offset after it, in terms of
  the text alone. It leaves no choice (`Cursor.Answers.unique`), and a cursor replies in this way
  (`Cursor.answers_perform`).
* `Cursor.Reads`: every reply is right, the offset moves forward only, and what has been passed is
  what was consumed.
* `Cursor.reads_forward`: **a cursor reads its text in this way, after calls in any order.**
-/

namespace Lexical.Cursor

/-! ### The text and the offset -/

section

variable (k : Cursor)

lemma position_eq_length : k.position = k.passed.reverse.length := List.length_reverse.symm

lemma take_source : k.source.take k.position = k.passed.reverse := by
  rw [source, position_eq_length, List.take_left]

lemma drop_source : k.source.drop k.position = k.rest := by
  rw [source, position_eq_length, List.drop_left]

lemma getElem?_source (n : Nat) : k.source[k.position + n]? = k.rest[n]? := by
  rw [← drop_source, List.getElem?_drop]

lemma current?_eq : k.current? = k.source[k.position]? := by
  rw [current?, List.head?_eq_getElem?, ← getElem?_source, Nat.add_zero]

lemma peek?_eq : k.peek? = k.source[k.position + 1]? := by
  rw [getElem?_source, peek?, List.head?_eq_getElem?, List.getElem?_tail]

lemma atEnd_eq_true_iff : k.atEnd = true ↔ k.source[k.position]? = none := by
  rw [← current?_eq, atEnd, current?, List.isEmpty_iff, List.head?_eq_none_iff]

/-- Looking back from an offset that has not been reached shows nothing. -/
lemma since_eq_drop (n : Nat) :
    k.since n = (k.source.take k.position).drop (min n k.position) := by
  rw [take_source, since]
  rcases Nat.le_total n k.position with hle | hge
  · rw [Nat.min_eq_left hle]
  · -- nothing is left of what has been passed, on either side
    have hlen := position_eq_length k
    rw [Nat.min_eq_right hge, List.drop_of_length_le (by omega),
      List.drop_of_length_le (by omega)]

lemma position_consumeMany (n : Nat) :
    (k.consumeMany n).position = min (k.position + n) k.source.length := by
  rw [consumeMany, position_advance, source, List.length_append, position_eq_length]
  omega

end

/-! ### Moving past a text -/

/-- The second cursor stands behind `text`, which comes next at the first one. -/
structure Passes (k : Cursor) (text : Text) (k' : Cursor) : Prop where
  next : k.rest = text ++ k'.rest
  kept : k'.passed = text.reverse ++ k.passed

namespace Passes

variable {k k' k'' : Cursor} {text more : Text}

lemma refl (k : Cursor) : Passes k [] k := ⟨rfl, rfl⟩

lemma trans (h : Passes k text k') (h' : Passes k' more k'') : Passes k (text ++ more) k'' where
  next := by rw [h.next, h'.next, List.append_assoc]
  kept := by rw [h'.kept, h.kept, List.reverse_append, List.append_assoc]

/-- Both cursors read the same text. -/
lemma source_eq (h : Passes k text k') : k'.source = k.source := by
  simp [source, h.next, h.kept]

lemma position_eq (h : Passes k text k') : k'.position = k.position + text.length := by
  rw [position, h.kept, List.length_append, List.length_reverse, position, Nat.add_comm]

/-- What lies between both cursors is the text. -/
lemma since_eq (h : Passes k text k') : k'.since k.position = text := by
  rw [since, h.kept, List.reverse_append, List.reverse_reverse, position_eq_length, List.drop_left]

end Passes

lemma passes_advance (k : Cursor) (n : Nat) : Passes k (k.rest.take n) (k.advance n) where
  next := (List.take_append_drop n k.rest).symm
  kept := rfl

lemma passes_consume (k : Cursor) : Passes k k.consume.1.toList k.consume.2 := by
  have hone : k.consume.1.toList = k.rest.take 1 := by
    obtain ⟨passed, rest⟩ := k
    cases rest <;> simp [consume, current?]
  rw [hone]
  exact passes_advance k 1

lemma passes_consumeWhile (k : Cursor) (p : Char → Bool) :
    Passes k (k.consumeWhile p).1 (k.consumeWhile p).2 := by
  have hrun : k.rest.take (k.rest.takeWhile p).length = k.rest.takeWhile p :=
    (List.prefix_iff_eq_take.1 (List.takeWhile_prefix p)).symm
  have hpass := passes_advance k (k.rest.takeWhile p).length
  rwa [hrun] at hpass

/-- A call passes the characters it consumes. -/
lemma passes_perform (k : Cursor) (call : Call) :
    Passes k (k.consumed call) (k.perform call).2 := by
  cases call with
  | consume => exact passes_consume k
  | consumeMany n =>
      rw [consumed, singly_eq]
      exact passes_advance k n
  | consumeWhile p =>
      rw [consumed, singlyWhile_eq]
      exact passes_consumeWhile k p
  | current => exact .refl k
  | peek => exact .refl k
  | atEnd => exact .refl k
  | position => exact .refl k
  | since n => exact .refl k

/-- Calls one after the other pass what they consume together. -/
lemma passes_after (k : Cursor) (calls : List Call) :
    Passes k (k.consumedBy calls) (k.after calls) := by
  induction calls generalizing k with
  | nil => exact .refl k
  | cons call calls ih => exact (passes_perform k call).trans (ih _)

/-! ### Replies -/

/-- The longest run of characters of a class at the beginning of a text. -/
structure LongestRun (p : Char → Bool) (text run : Text) : Prop where
  leads : run <+: text
  all : ∀ c ∈ run, p c = true
  longest : ∀ other, other <+: text → (∀ c ∈ other, p c = true) → other <+: run

lemma LongestRun.unique {p : Char → Bool} {text run other : Text} (h : LongestRun p text run)
    (h' : LongestRun p text other) : other = run := by
  have hle := h.longest other h'.leads h'.all
  have hge := h'.longest run h.leads h.all
  exact hle.eq_of_length (Nat.le_antisymm hle.length_le hge.length_le)

lemma longestRun_takeWhile (p : Char → Bool) (text : Text) :
    LongestRun p text (text.takeWhile p) where
  leads := List.takeWhile_prefix p
  all := fun _ hc => List.mem_takeWhile_imp hc
  longest := by
    rintro other ⟨rest, rfl⟩ hall
    rw [List.takeWhile_append_of_pos hall]
    exact List.prefix_append other _

/-- The reply to a call at an offset of a text, and the offset after the call. -/
inductive Answers (source : Text) (offset : Nat) : Call → Reply → Nat → Prop
  | consume :
      Answers source offset .consume (.character source[offset]?) (min (offset + 1) source.length)
  | consumeMany (n : Nat) :
      Answers source offset (.consumeMany n) .nothing (min (offset + n) source.length)
  | consumeWhile {p : Char → Bool} {run : Text} (longest : LongestRun p (source.drop offset) run) :
      Answers source offset (.consumeWhile p) (.text run) (offset + run.length)
  | current : Answers source offset .current (.character source[offset]?) offset
  | peek : Answers source offset .peek (.character source[offset + 1]?) offset
  | atEnd {b : Bool} (nothing : b = true ↔ source[offset]? = none) :
      Answers source offset .atEnd (.truth b) offset
  | position : Answers source offset .position (.offset offset) offset
  | since (n : Nat) :
      Answers source offset (.since n) (.text ((source.take offset).drop (min n offset))) offset

/-- The text and the offset determine the reply and the next offset. -/
lemma Answers.unique {source : Text} {offset m n : Nat} {call : Call} {r s : Reply}
    (h : Answers source offset call r m) (h' : Answers source offset call s n) :
    s = r ∧ n = m := by
  cases h with
  | consumeWhile hrun =>
      cases h' with
      | consumeWhile hother =>
          rw [hrun.unique hother]
          exact ⟨rfl, rfl⟩
  | atEnd hnone =>
      cases h' with
      | atEnd hother =>
          rw [Bool.eq_iff_iff.2 (hother.trans hnone.symm)]
          exact ⟨rfl, rfl⟩
  | _ =>
      cases h'
      exact ⟨rfl, rfl⟩

/-- A cursor answers as its text and its offset say. -/
lemma answers_perform (k : Cursor) (call : Call) :
    Answers k.source k.position call (k.perform call).1 (k.perform call).2.position := by
  cases call with
  | consume =>
      rw [perform, consume, current?_eq, ← consumeMany, position_consumeMany]
      exact .consume
  | consumeMany n =>
      rw [perform, position_consumeMany]
      exact .consumeMany n
  | consumeWhile p =>
      rw [perform, (passes_consumeWhile k p).position_eq]
      refine .consumeWhile ?_
      rw [drop_source]
      exact longestRun_takeWhile p k.rest
  | current =>
      rw [perform, current?_eq]
      exact .current
  | peek =>
      rw [perform, peek?_eq]
      exact .peek
  | atEnd => exact .atEnd (atEnd_eq_true_iff k)
  | position => exact .position
  | since n =>
      rw [perform, since_eq_drop]
      exact .since n

/-! ### Calls in any order -/

/-- A cursor reads a text. It stands within the text. It gives the one reply to any call that the
text and its offset say, and moves to the offset that they say; it is at the end exactly if no
character comes next. Whatever calls follow, it moves neither back nor past the end, and what it has
passed since is what these calls consume, in order. -/
structure Reads (source : Text) (k : Cursor) : Prop where
  within : k.position ≤ source.length
  answers : ∀ call reply offset, Answers source k.position call reply offset ↔
    reply = (k.perform call).1 ∧ offset = (k.perform call).2.position
  atEnd_iff : k.atEnd = true ↔ k.current? = none
  onward : ∀ calls, k.position ≤ (k.after calls).position ∧
    (k.after calls).position ≤ source.length
  lossless : ∀ calls, (k.after calls).since k.position = k.consumedBy calls

/-- Any cursor reads its text. -/
lemma reads_source (k : Cursor) : Reads k.source k where
  within := k.position_le_length_source
  answers := by
    intro call reply offset
    constructor
    · exact (answers_perform k call).unique
    · rintro ⟨rfl, rfl⟩
      exact answers_perform k call
  atEnd_iff := by rw [atEnd_eq_true_iff, current?_eq]
  onward := by
    intro calls
    have hpass := passes_after k calls
    constructor
    · rw [hpass.position_eq]
      exact Nat.le_add_right _ _
    · rw [← hpass.source_eq]
      exact (k.after calls).position_le_length_source
  lossless := fun calls => (passes_after k calls).since_eq

/-- **A cursor reads its text forward and loses nothing**: after calls in any order, beginning
before the first character, every further call is answered as the offset says, and what is passed
from there on is what is consumed. -/
theorem reads_forward (source : Text) (calls : List Call) :
    Reads source ((ofText source).after calls) := by
  have hsource : ((ofText source).after calls).source = source :=
    (passes_after (ofText source) calls).source_eq
  have hreads := reads_source ((ofText source).after calls)
  rwa [hsource] at hreads

end Lexical.Cursor
