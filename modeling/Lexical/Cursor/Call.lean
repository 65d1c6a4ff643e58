import Lexical.Cursor

/-!
What can be asked of a cursor.

* `Cursor.Call`, `Cursor.Reply`: the calls, and what they give out.
* `Cursor.perform`: one call; `Cursor.after`: the cursor that some calls leave.
* `Cursor.singly`, `Cursor.singlyWhile`: consuming one character at a time. It comes to the same as
  consuming many at once (`Cursor.singly_eq`, `Cursor.singlyWhile_eq`).
* `Cursor.consumed`, `Cursor.consumedBy`: the characters that calls consume, one at a time.
-/

namespace Lexical.Cursor

/-- The calls: three that move forward, and five that only look. -/
inductive Call
  | consume
  | consumeMany (count : Nat)
  | consumeWhile (p : Char → Bool)
  | current
  | peek
  | atEnd
  | position
  | since (offset : Nat)

/-- What a call gives out. -/
inductive Reply
  | nothing
  | character (c? : Option Char)
  | text (t : Text)
  | truth (b : Bool)
  | offset (n : Nat)
deriving DecidableEq

/-- The reply to a call, and the cursor after it. -/
def perform (k : Cursor) : Call → Reply × Cursor
  | .consume => (.character k.consume.1, k.consume.2)
  | .consumeMany n => (.nothing, k.consumeMany n)
  | .consumeWhile p => (.text (k.consumeWhile p).1, (k.consumeWhile p).2)
  | .current => (.character k.current?, k)
  | .peek => (.character k.peek?, k)
  | .atEnd => (.truth k.atEnd, k)
  | .position => (.offset k.position, k)
  | .since n => (.text (k.since n), k)

/-- The cursor after some calls. -/
def after (k : Cursor) : List Call → Cursor
  | [] => k
  | call :: calls => (k.perform call).2.after calls

/-! ### One character at a time -/

/-- What `n` single characters consumed are, and the cursor past them. -/
def singly (k : Cursor) : Nat → Text × Cursor
  | 0 => ([], k)
  | n + 1 =>
    let more := k.consume.2.singly n
    (k.consume.1.toList ++ more.1, more.2)

/-- The single characters consumed as long as they are of a class, and the cursor past them. -/
def singlyWhile (p : Char → Bool) : Cursor → Text × Cursor
  | ⟨passed, []⟩ => ([], ⟨passed, []⟩)
  | ⟨passed, c :: rest⟩ =>
    if p c then
      let more := singlyWhile p ⟨c :: passed, rest⟩
      (c :: more.1, more.2)
    else ([], ⟨passed, c :: rest⟩)
termination_by k => k.rest.length

/-- The characters that a call consumes. -/
def consumed (k : Cursor) : Call → Text
  | .consume => k.consume.1.toList
  | .consumeMany n => (k.singly n).1
  | .consumeWhile p => (k.singlyWhile p).1
  | .current | .peek | .atEnd | .position | .since _ => []

/-- The characters that some calls consume, in order. -/
def consumedBy (k : Cursor) : List Call → Text
  | [] => []
  | call :: calls => k.consumed call ++ (k.perform call).2.consumedBy calls

/-- Moving on by one character and then by some more. -/
theorem advance_succ (k : Cursor) (n : Nat) : k.advance (n + 1) = (k.advance 1).advance n := by
  obtain ⟨passed, rest⟩ := k
  cases rest <;> simp [advance]

/-- Consuming many characters is consuming them singly. -/
theorem singly_eq (k : Cursor) (n : Nat) : k.singly n = (k.rest.take n, k.consumeMany n) := by
  induction n generalizing k with
  | zero => simp [singly, consumeMany, advance]
  | succ n ih =>
    -- one character, if there is one, and `n` more from there
    rw [singly, ih, consumeMany, consumeMany, advance_succ]
    obtain ⟨passed, rest⟩ := k
    cases rest <;> simp [consume, current?, advance]

/-- Consuming a run is consuming its characters singly. -/
theorem singlyWhile_eq (p : Char → Bool) (k : Cursor) : k.singlyWhile p = k.consumeWhile p := by
  obtain ⟨passed, rest⟩ := k
  induction rest generalizing passed with
  | nil => simp [singlyWhile, consumeWhile, advance]
  | cons c rest ih =>
    cases h : p c with
    | false => simp [singlyWhile, consumeWhile, advance, h]
    | true => simp [singlyWhile, consumeWhile, advance, h, ih]

end Lexical.Cursor
