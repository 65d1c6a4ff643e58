import Lexical.Character
import Lexical.Text

/-!
The operators and punctuation of the language.

* `Operator.lexeme`: how each operator is written.
* `Operator.ofChar?`, `Operator.ofPair?`: the operator written as one or two given characters,
  the inverses of `lexeme` (`ofChar?_eq_some_iff`, `ofPair?_eq_some_iff`).
* `Character.isBoundary`: the characters at which a malformed piece of text ends;
  `Character.contains_singleOperators` says that the operators among them are those of `ofChar?`.
-/

namespace Lexical

/-- The operators and punctuation marks, named for how they are written. -/
inductive Operator
  | plus | minus | star | slash | percent
  | equals | exclamation | lessThan | greaterThan
  | leftParen | rightParen | leftBrace | rightBrace | leftBracket | rightBracket
  | comma | semicolon | colon | dot
  | equalsEquals | exclamationEquals | greaterThanEquals | lessThanEquals
  | plusEquals | minusEquals | starEquals | slashEquals
  | plusPlus | minusMinus | pipePipe | ampersandAmpersand
  | lessThanLessThan | greaterThanGreaterThan | starStar | arrow
deriving DecidableEq

namespace Operator

/-- How an operator is written. -/
def lexeme : Operator → Text
  | plus => ['+']
  | minus => ['-']
  | star => ['*']
  | slash => ['/']
  | percent => ['%']
  | equals => ['=']
  | exclamation => ['!']
  | lessThan => ['<']
  | greaterThan => ['>']
  | leftParen => ['(']
  | rightParen => [')']
  | leftBrace => ['{']
  | rightBrace => ['}']
  | leftBracket => ['[']
  | rightBracket => [']']
  | comma => [',']
  | semicolon => [';']
  | colon => [':']
  | dot => ['.']
  | equalsEquals => ['=', '=']
  | exclamationEquals => ['!', '=']
  | greaterThanEquals => ['>', '=']
  | lessThanEquals => ['<', '=']
  | plusEquals => ['+', '=']
  | minusEquals => ['-', '=']
  | starEquals => ['*', '=']
  | slashEquals => ['/', '=']
  | plusPlus => ['+', '+']
  | minusMinus => ['-', '-']
  | pipePipe => ['|', '|']
  | ampersandAmpersand => ['&', '&']
  | lessThanLessThan => ['<', '<']
  | greaterThanGreaterThan => ['>', '>']
  | starStar => ['*', '*']
  | arrow => ['-', '>']

/-- The operator written as a single character. -/
def ofChar? : Char → Option Operator
  | '+' => some plus
  | '-' => some minus
  | '*' => some star
  | '/' => some slash
  | '%' => some percent
  | '=' => some equals
  | '!' => some exclamation
  | '<' => some lessThan
  | '>' => some greaterThan
  | '(' => some leftParen
  | ')' => some rightParen
  | '{' => some leftBrace
  | '}' => some rightBrace
  | '[' => some leftBracket
  | ']' => some rightBracket
  | ',' => some comma
  | ';' => some semicolon
  | ':' => some colon
  | '.' => some dot
  | _ => none

/-- The operator written as two characters. -/
def ofPair? : Char → Char → Option Operator
  | '=', '=' => some equalsEquals
  | '!', '=' => some exclamationEquals
  | '>', '=' => some greaterThanEquals
  | '<', '=' => some lessThanEquals
  | '+', '=' => some plusEquals
  | '-', '=' => some minusEquals
  | '*', '=' => some starEquals
  | '/', '=' => some slashEquals
  | '+', '+' => some plusPlus
  | '-', '-' => some minusMinus
  | '|', '|' => some pipePipe
  | '&', '&' => some ampersandAmpersand
  | '<', '<' => some lessThanLessThan
  | '>', '>' => some greaterThanGreaterThan
  | '*', '*' => some starStar
  | '-', '>' => some arrow
  | _, _ => none

/-- The operator written as the given text. -/
def ofLexeme? : Text → Option Operator
  | [c] => ofChar? c
  | [c, d] => ofPair? c d
  | _ => none

/-! ### Writing and recognising -/

theorem ofLexeme?_lexeme (op : Operator) : ofLexeme? op.lexeme = some op := by
  cases op <;> rfl

/-- A character is recognised exactly as the operator that is written with it alone. -/
theorem ofChar?_eq_some_iff {c : Char} {op : Operator} :
    ofChar? c = some op ↔ op.lexeme = [c] := by
  constructor
  · intro h
    unfold ofChar? at h
    split at h <;> cases h <;> rfl
  · intro h
    rw [← ofLexeme?_lexeme op, h, ofLexeme?]

/-- Two characters are recognised exactly as the operator that is written with them. -/
theorem ofPair?_eq_some_iff {c d : Char} {op : Operator} :
    ofPair? c d = some op ↔ op.lexeme = [c, d] := by
  constructor
  · intro h
    unfold ofPair? at h
    split at h <;> cases h <;> rfl
  · intro h
    rw [← ofLexeme?_lexeme op, h, ofLexeme?]

/-- No two operators are written alike. -/
theorem lexeme_inj {a b : Operator} : a.lexeme = b.lexeme ↔ a = b := by
  constructor
  · intro h
    have same := ofLexeme?_lexeme a
    rw [h, ofLexeme?_lexeme b] at same
    exact (Option.some.inj same).symm
  · rintro rfl
    rfl

/-- Operators are written with ASCII characters. -/
theorem isAscii_of_mem_lexeme {op : Operator} {c : Char} (h : c ∈ op.lexeme) :
    Character.isAscii c = true := by
  have each : op.lexeme.all Character.isAscii = true := by
    cases op <;> rfl
  exact List.all_eq_true.1 each c h

end Operator

/-! ### Token boundaries -/

namespace Character

/-- The characters that are operators by themselves, as recovery knows them. -/
def singleOperators : Text :=
  ['+', '-', '*', '/', '%', '=', '!', '<', '>', '(', ')', '{', '}', '[', ']', ',', ';', ':', '.']

/-- The characters that a malformed piece of text never runs past: blanks, the quote that opens
a string, and the operators of one character. -/
def isBoundary (c : Char) : Bool := isBlank c || c == '"' || singleOperators.contains c

/-- Recovery knows exactly the characters that are recognised as operators. -/
theorem contains_singleOperators (c : Char) :
    singleOperators.contains c = (Operator.ofChar? c).isSome := by
  unfold Operator.ofChar?
  split
  case h_20 => simp_all [singleOperators]
  all_goals rfl

theorem isBoundary_eq_true_iff {c : Char} :
    isBoundary c = true ↔ isBlank c = true ∨ c = '"' ∨ (Operator.ofChar? c).isSome = true := by
  rw [isBoundary, contains_singleOperators, Bool.or_eq_true, Bool.or_eq_true, beq_iff_eq, or_assoc]

theorem isBoundary_eq_false_iff {c : Char} :
    isBoundary c = false ↔ isBlank c = false ∧ c ≠ '"' ∧ Operator.ofChar? c = none := by
  rw [← Bool.not_eq_true, isBoundary_eq_true_iff, not_or, not_or, Bool.not_eq_true,
    Bool.not_eq_true, Option.isSome_eq_false_iff, Option.isNone_iff_eq_none]

end Character

end Lexical
