import Lexical.Text

/-!
The words of a command line, by their form.

* `CommandLine.Word`: a plain word, an option by its long or its short name, or the mark after
  which every word is plain.
* `CommandLine.Word.ofText`: the form of a word, read off its first characters.
-/

namespace Lexical.CommandLine

/-- A word of a command line. -/
inductive Word
  /-- A word without a leading hyphen, or a hyphen alone. -/
  | plain (text : Text)
  /-- Two hyphens alone. -/
  | separator
  /-- Two hyphens and a name, and a value if an equals sign follows the name. -/
  | long (name : Text) (attached : Option Text)
  /-- A hyphen and a letter, with what stands directly after the letter. -/
  | short (letter : Char) (attached : Text)
deriving DecidableEq

namespace Word

/-- The name of a long option and its attached value, cut at the first equals sign. -/
def ofLong (text : Text) : Word :=
  match text.dropWhile (· != '=') with
  | [] => .long text none
  | _ :: value => .long (text.takeWhile (· != '=')) (some value)

/-- The form of a word. -/
def ofText : Text → Word
  | ['-', '-'] => .separator
  | '-' :: '-' :: name => ofLong name
  | '-' :: letter :: attached => .short letter attached
  | text => .plain text

end Word

end Lexical.CommandLine
