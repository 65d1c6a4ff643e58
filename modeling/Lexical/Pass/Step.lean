import Lexical.Log
import Lexical.Pass.Classify

/-!
A pass over a text, round by round.

* `Pass`: the cursor of a pass, and what it has recorded.
* `Pass.step`: one round: what comes next is told and recorded, and after an issue recovery skips
  ahead.
* `Pass.rounds`: some rounds of the loop, each of which must move the cursor.
* `Pass.outcome`, `Pass.log`: what a pass amounts to.
-/

namespace Lexical

/-- A pass over a text: where it stands, the tokens and issues it has recorded, and the events it
has logged. -/
structure Pass where
  cursor : Cursor
  tokens : List Token
  issues : List Issue
  events : List Log.Event
deriving DecidableEq

namespace Pass

/-- The offset at which a pass stands. -/
def position (p : Pass) : Nat := p.cursor.position

/-- A pass before the first character of a text. -/
def start (source : Text) : Pass := ⟨.ofText source, [], [], []⟩

/-- Whether nothing is left to read. -/
def atEnd (p : Pass) : Prop := p.cursor.current? = none

instance (p : Pass) : Decidable p.atEnd := inferInstanceAs (Decidable (_ = _))

variable (limit : Nat)

/-- Recovery skips ahead to the next boundary, which it leaves. -/
def recover (p : Pass) : Checked Pass := do
  let (skipped, after) ← p.cursor.run limit fun c => !Character.isBoundary c
  if skipped = [] then return { p with cursor := after }
  else return { p with cursor := after, events := p.events ++ [.skipped skipped p.position] }

/-- Records a verdict. An issue is logged, and recovery follows it. -/
def record (p : Pass) : Verdict × Cursor → Checked Pass
  | (.ok none, k) => return { p with cursor := k }
  | (.ok (some t), k) => return { p with cursor := k, tokens := p.tokens ++ [t] }
  | (.error i, k) =>
    recover limit
      { p with cursor := k, issues := p.issues ++ [i], events := p.events ++ [.issue i] }

/-- One round: what comes next is told and recorded. -/
def step (p : Pass) : Checked Pass := do
  let verdict ← classify limit p.cursor
  record limit p verdict

/-- At most `n` rounds, until nothing is left to read. Every round must move the cursor. -/
def rounds : Nat → Pass → Checked Pass
  | 0, p => return p
  | n + 1, p =>
    if p.atEnd then return p
    else do
      let q ← step limit p
      if p.position < q.position then rounds n q else throw (.stuck p.position)

/-- What a pass amounts to: its tokens, or, if there are any, its issues. -/
def outcome (p : Pass) : Except (List Issue) (List Token) :=
  if p.issues = [] then .ok p.tokens else .error p.issues

/-- The events of a pass, with the summary at its end. -/
def log (p : Pass) : List Log.Event :=
  p.events ++ [.summary p.position p.tokens.length p.issues.length]

end Pass

end Lexical
