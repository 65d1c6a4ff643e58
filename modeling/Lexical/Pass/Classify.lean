import Lexical.Pass.Check
import Lexical.Character

/-!
How a pass tells what comes next, character by character.

* `Pass.Verdict`: what is read is a token, an issue, or nothing of interest.
* `Pass.stringBody`, `Pass.markedRun`, `Pass.decimalRun`, `Pass.commentBody`: the loops over string
  literals, numbers and block comments.
* `Pass.classify`: the decision what comes next, by the next two characters.

Every function leaves the cursor behind what it has read; numbers stay below `limit`.
-/

namespace Lexical.Pass

open Character Checked

/-- What has been read: an issue, a token, or nothing of interest. -/
abbrev Verdict := Except Issue (Option Token)

/-- A verdict and the cursor behind what it is about. -/
abbrev Classified := Checked (Verdict × Cursor)

variable (limit : Nat)

/-- The verdict that all characters passed from an offset on are a token. -/
def token (start : Nat) (kind : Token.Kind) (k : Cursor) : Classified := do
  let t ← k.tokenSince limit start kind
  return (.ok (some t), k)

/-- The verdict that all characters passed from an offset on are to blame. -/
def issue (start : Nat) (kind : Issue.Kind) (k : Cursor) : Classified := do
  let i ← k.issueSince limit start kind
  return (.error i, k)

/-- The body of a string literal that begins at the offset `start`, of which `value` has been read,
and the quote that closes it. A backslash protects the character after it. -/
def stringBody (start : Nat) (value : Text) : Cursor → Classified
  | ⟨passed, []⟩ => issue limit start .unclosedString ⟨passed, []⟩
  | ⟨passed, '"' :: rest⟩ => do
    let _ ← fit limit (passed.length + 1)
    token limit start (.string value) ⟨'"' :: passed, rest⟩
  | ⟨passed, '\\' :: []⟩ => do
    let _ ← fit limit (passed.length + 1)
    issue limit start .unclosedString ⟨'\\' :: passed, []⟩
  | ⟨passed, '\\' :: c :: rest⟩ => do
    let _ ← fit limit (passed.length + 2)
    stringBody start (value ++ ['\\', c]) ⟨c :: '\\' :: passed, rest⟩
  | ⟨passed, c :: rest⟩ => do
    let _ ← fit limit (passed.length + 1)
    stringBody start (value ++ [c]) ⟨c :: passed, rest⟩
termination_by k => k.rest.length

/-- A string literal whose opening quote comes next. -/
def string (k : Cursor) : Classified := do
  let inside ← k.forward limit 1
  stringBody limit k.position [] inside

/-- The next character is blamed for standing in a literal of a base it does not belong to. -/
def strayCharacter (radix : Radix) (c : Char) (k : Cursor) : Classified := do
  let after ← k.forward limit 1
  let interval ← after.interval k.position k.position
  return (.error ⟨.invalidCharacter radix c, interval⟩, after)

/-- The digits of a literal with an announced base, which begins at the offset `start`. -/
def markedRun (radix : Radix) (start : Nat) : Cursor → Classified
  | ⟨passed, []⟩ => token limit start .number ⟨passed, []⟩
  | ⟨passed, c :: rest⟩ =>
    if c = '_' ∨ radix.isDigit c then do
      let _ ← fit limit (passed.length + 1)
      markedRun radix start ⟨c :: passed, rest⟩
    else if c.isAlphanum then strayCharacter limit radix c ⟨passed, c :: rest⟩
    else token limit start .number ⟨passed, c :: rest⟩
termination_by k => k.rest.length

/-- A literal with an announced base, whose zero and mark come next. -/
def marked (radix : Radix) (k : Cursor) : Classified := do
  let inside ← k.forward limit 2
  if (inside.current?.filter Char.isAlphanum).isSome then markedRun limit radix k.position inside
  else
    let next ← fit limit (k.position + 1)
    let interval ← inside.interval k.position next
    return (.error ⟨.missingValue radix, interval⟩, inside)

/-- The end of a literal in base ten that has the given number of points. -/
def decimalEnd (start points : Nat) (k : Cursor) : Classified :=
  if 1 < points then issue limit start (.manyPoints points) k else token limit start .number k

/-- The rest of a literal in base ten that begins at the offset `start` and has had some points. -/
def decimalRun (start points : Nat) : Cursor → Classified
  | ⟨passed, []⟩ => decimalEnd limit start points ⟨passed, []⟩
  | ⟨passed, c :: rest⟩ =>
    if isDecimalRun c then
      if c = '.' then do
        let more ← fit limit (points + 1)
        let _ ← fit limit (passed.length + 1)
        decimalRun start more ⟨c :: passed, rest⟩
      else if c = '_' ∨ c.isDigit then do
        let _ ← fit limit (passed.length + 1)
        decimalRun start points ⟨c :: passed, rest⟩
      else strayCharacter limit .decimal c ⟨passed, c :: rest⟩
    else decimalEnd limit start points ⟨passed, c :: rest⟩
termination_by k => k.rest.length

/-- A line comment, whose two slashes come next. -/
def lineComment (k : Cursor) : Classified := do
  let (_, after) ← k.run limit isWithinLine
  return (.ok none, after)

/-- The rest of block comments, of which `depth` are open and the outermost begins at the offset
`start`. -/
def commentBody (start depth : Nat) : Cursor → Classified
  | ⟨passed, []⟩ => do
    let _ ← fit limit (passed.length + 1)
    issue limit start .unclosedComment ⟨passed, []⟩
  | ⟨passed, '/' :: '*' :: rest⟩ => do
    let _ ← fit limit (passed.length + 2)
    let deeper ← fit limit (depth + 1)
    commentBody start deeper ⟨'*' :: '/' :: passed, rest⟩
  | ⟨passed, '*' :: '/' :: rest⟩ => do
    let _ ← fit limit (passed.length + 2)
    let outer ← pred depth
    if outer = 0 then return (.ok none, ⟨'/' :: '*' :: passed, rest⟩)
    else commentBody start outer ⟨'/' :: '*' :: passed, rest⟩
  | ⟨passed, c :: rest⟩ => do
    let _ ← fit limit (passed.length + 1)
    commentBody start depth ⟨c :: passed, rest⟩
termination_by k => k.rest.length

/-- A block comment, whose opening mark comes next. -/
def blockComment (k : Cursor) : Classified := do
  let inside ← k.forward limit 2
  commentBody limit k.position 1 inside

/-- A name, whose first character comes next. -/
def name (k : Cursor) : Classified := do
  let (value, after) ← k.run limit isNameRest
  token limit k.position (.name value) after

/-- An operator, of two characters if they make up one, or else any other single character. -/
def mark (k : Cursor) : Classified := do
  let second ← k.ahead? limit
  match k.current?.bind fun c => second.bind fun d => Operator.ofPair? c d with
  | some op =>
    let after ← k.forward limit 2
    token limit k.position (.operator op) after
  | none =>
    let after ← k.forward limit 1
    match k.current?.bind Operator.ofChar? with
    | some op => token limit k.position (.operator op) after
    | none => token limit k.position .other after

/-- What comes next. The next two characters decide. -/
def classify (k : Cursor) : Classified :=
  match k.current? with
  | none => return (.ok none, k)
  | some c => do
    let second ← k.ahead? limit
    if isBlank c then
      let after ← k.forward limit 1
      return (.ok none, after)
    else if c = '"' then string limit k
    else if c = '0' ∧ second = some 'x' then marked limit .hexadecimal k
    else if c = '0' ∧ second = some 'b' then marked limit .binary k
    else if c.isDigit then decimalRun limit k.position 0 k
    else if c = '/' ∧ second = some '/' then lineComment limit k
    else if c = '/' ∧ second = some '*' then blockComment limit k
    else if isNameStart c then name limit k
    else mark limit k

end Lexical.Pass
