import Lexical.Finding

/-!
The log of a pass over a text.

* `Log.Event`: what is worth a record, and `Log.Event.record` its level and wording.
* `Log.events`: the events of a pass: each issue, what recovery skipped after it, and last the
  counts.
* `Log.Level.isShown`: the levels that a verbosity lets through.
-/

namespace Lexical.Log

/-- How much detail a record holds. -/
inductive Level
  | info
  | debug
  | trace
deriving DecidableEq

/-- The name of a level in a printed record. -/
def Level.name : Level → Text
  | info => "INFO".toList
  | debug => "DEBUG".toList
  | trace => "TRACE".toList

/-- The least verbosity at which a level is shown. -/
def Level.threshold : Level → Nat
  | info => 2
  | debug => 3
  | trace => 4

/-- Whether a verbosity lets a level through. -/
def Level.isShown (verbosity : Nat) (level : Level) : Bool := decide (level.threshold ≤ verbosity)

/-- A record: how detailed it is, and what it says. -/
structure Record where
  level : Level
  message : Text
deriving DecidableEq

/-- The printed form of a record, without the end of its line. -/
def Record.line (r : Record) : Text := r.level.name ++ " - ".toList ++ r.message

/-- The events of a pass: an issue, the characters skipped after it from an offset on, and the
counts of characters, tokens and issues at the end. -/
inductive Event
  | issue (issue : Issue)
  | skipped (text : Text) (position : Nat)
  | summary (characters tokens issues : Nat)
deriving DecidableEq

/-- The record of an event. -/
def Event.record : Event → Record
  | issue i => ⟨.trace, "Issue at ".toList ++ i.interval.display ++ ": ".toList ++ i.message⟩
  | skipped text position =>
    ⟨.trace, "Skipped ".toList ++ Text.quote text ++ " at ".toList ++ Text.decimal position ++
      " while recovering".toList⟩
  | summary characters tokens issues =>
    ⟨.debug, "Lexed ".toList ++ Text.decimal characters ++ " characters into ".toList ++
      Text.decimal tokens ++ " tokens with ".toList ++ Text.decimal issues ++ " issues".toList⟩

/-- The events of a finding: none for a token; an issue is followed by what recovery skipped,
if anything. -/
def ofFinding : Finding → List Event
  | .token _ => []
  | .issue i [] => [.issue i]
  | .issue i (c :: rest) => [.issue i, .skipped (c :: rest) (i.interval.last + 1)]

/-- The events of a pass over a text, in order. Tokens are counted even when there are issues. -/
def events (source : Text) : List Event :=
  (findings source).flatMap ofFinding ++
    [.summary source.length (tokens source).length (issues source).length]

end Lexical.Log
