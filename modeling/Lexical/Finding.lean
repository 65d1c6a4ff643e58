import Lexical.Piece.Read

/-!
Findings: the pieces of a text that mean something, with their places.

* `Finding`: a token, or an issue with what recovery skipped after it.
* `findings`: the findings of a text, in order.
* `lex`: the tokens of a text, or, if there are any, its issues.
-/

namespace Lexical

/-- A token, or an issue with the characters that recovery skipped after it. -/
inductive Finding
  | token (token : Token)
  | issue (issue : Issue) (skipped : Text)
deriving DecidableEq

namespace Finding

/-- The token of a finding. -/
def token? : Finding → Option Token
  | token t => some t
  | issue _ _ => none

/-- The issue of a finding. -/
def issue? : Finding → Option Issue
  | token _ => none
  | issue i _ => some i

/-- The same finding in a text with `k` more characters in front. -/
def shift (k : Nat) : Finding → Finding
  | token t => token (t.shift k)
  | issue i skipped => issue (i.shift k) skipped

end Finding

namespace Piece

/-- What a piece that begins at an offset means; trivia mean nothing. An issue covers the part of
the piece that is to blame. -/
def finding? (position : Nat) : Piece → Option Finding
  | trivia _ => none
  | token kind text => some (.token ⟨kind, text, .ofLength position text.length⟩)
  | fault kind lead covered skipped =>
    some (.issue ⟨kind, .ofLength (position + lead.length) covered.length⟩ skipped)

end Piece

/-- The findings of a sequence of pieces of which the first begins at an offset. -/
def findingsFrom (position : Nat) : List Piece → List Finding
  | [] => []
  | piece :: rest =>
    (piece.finding? position).toList ++ findingsFrom (position + piece.text.length) rest

/-- The findings of a text, in order. -/
def findings (source : Text) : List Finding := findingsFrom 0 (pieces source)

/-- The tokens among the findings of a text. -/
def tokens (source : Text) : List Token := (findings source).filterMap Finding.token?

/-- The issues among the findings of a text. -/
def issues (source : Text) : List Issue := (findings source).filterMap Finding.issue?

/-- The tokens of a text in order, or, if it has any issue, all its issues in order. -/
def lex (source : Text) : Except (List Issue) (List Token) :=
  if issues source = [] then .ok (tokens source) else .error (issues source)

/-! ### Moving a text -/

/-- A piece that begins `k` characters later means the same, `k` characters later. -/
theorem Piece.finding?_add (k position : Nat) (piece : Piece) :
    piece.finding? (position + k) = (piece.finding? position).map (Finding.shift k) := by
  cases piece with
  | trivia => rfl
  | token kind text =>
    simp [Piece.finding?, Finding.shift, Token.shift, Interval.shift_ofLength]
  | fault kind lead covered skipped =>
    simp [Piece.finding?, Finding.shift, Issue.shift, Interval.shift_ofLength,
      Nat.add_right_comm]

/-- Pieces that begin `k` characters later mean the same, `k` characters later. -/
theorem findingsFrom_add (k position : Nat) (ps : List Piece) :
    findingsFrom (position + k) ps = (findingsFrom position ps).map (Finding.shift k) := by
  induction ps generalizing position with
  | nil => rfl
  | cons piece rest ih =>
    rw [findingsFrom, findingsFrom, Piece.finding?_add, Nat.add_right_comm, ih, List.map_append]
    cases piece.finding? position <;> rfl

/-- Findings of a longer sequence of pieces: those of its first part, and then those of the rest,
which begins where the first part ends. -/
theorem findingsFrom_append (position : Nat) (ps qs : List Piece) :
    findingsFrom position (ps ++ qs) =
      findingsFrom position ps ++
        findingsFrom (position + (ps.flatMap Piece.text).length) qs := by
  induction ps generalizing position with
  | nil => rfl
  | cons piece rest ih =>
    rw [List.cons_append, findingsFrom, findingsFrom, ih, List.flatMap_cons, List.length_append,
      Nat.add_assoc, List.append_assoc]

/-! ### The outcome -/

/-- A text has tokens exactly when it has no issue. -/
theorem lex_eq_ok_iff {source : Text} {ts : List Token} :
    lex source = .ok ts ↔ issues source = [] ∧ tokens source = ts := by
  by_cases h : issues source = [] <;> simp [lex, h]

/-- A text has issues instead of tokens exactly when there is at least one. -/
theorem lex_eq_error_iff {source : Text} {is : List Issue} :
    lex source = .error is ↔ is ≠ [] ∧ issues source = is := by
  by_cases h : issues source = []
  · simp only [lex, h, if_true, reduceCtorEq, false_iff, not_and]
    exact fun nonempty eq => nonempty eq.symm
  · simp only [lex, h, if_false, Except.error.injEq]
    exact ⟨fun eq => ⟨eq ▸ h, eq⟩, And.right⟩

end Lexical
