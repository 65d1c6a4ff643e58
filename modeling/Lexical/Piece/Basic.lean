import Lexical.Issue
import Lexical.Operator
import Lexical.Token

/-!
The pieces that a text is cut into.

* `Piece`: trivia, a token, or a malformed part with what recovery passes over after it.
* `Piece.text`: the characters of a piece; no piece loses any.
* `Piece.malformed`: a malformed part at the head of a text, extended up to the next boundary.
-/

namespace Lexical

/-- A piece of a text: a blank or a comment, a token, or a fault. A fault blames its `covered`
part; the `lead` before it belongs to the same malformed literal, and the `skipped` part after it
is passed over by recovery. -/
inductive Piece
  | trivia (text : Text)
  | token (kind : Token.Kind) (text : Text)
  | fault (kind : Issue.Kind) (lead covered skipped : Text)
deriving DecidableEq

namespace Piece

/-- The characters of a piece, in order. -/
def text : Piece → Text
  | trivia text => text
  | token _ text => text
  | fault _ lead covered skipped => lead ++ covered ++ skipped

/-- The fault that blames `covered`, with `rest` still to be read: recovery skips the characters
before the first boundary of `rest` and leaves the boundary itself. -/
def malformed (kind : Issue.Kind) (lead covered rest : Text) : Piece × Text :=
  (.fault kind lead covered (rest.takeWhile fun c => !Character.isBoundary c),
    rest.dropWhile fun c => !Character.isBoundary c)

/-! ### Nothing is lost -/

/-- A piece at the head of a text, with the text after it, makes up that text. -/
def Heads (read : Piece × Text) (text : Text) : Prop := read.1.text ++ read.2 = text

theorem heads_trivia (t rest : Text) : Heads (.trivia t, rest) (t ++ rest) := rfl

theorem heads_token (kind : Token.Kind) (t rest : Text) : Heads (.token kind t, rest) (t ++ rest) :=
  rfl

theorem heads_malformed (kind : Issue.Kind) (lead covered rest : Text) :
    Heads (malformed kind lead covered rest) (lead ++ covered ++ rest) := by
  simp [Heads, malformed, text]

end Piece

end Lexical
