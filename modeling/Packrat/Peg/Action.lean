import Packrat.Lexer.Token
import Packrat.Peg.Operator

/-!
# Semantic actions

An action gives the value of a match. It sees what was matched and the values of the operands, and
it may ask for the operator as grammar text; a text that has been asked for is kept with the
grammar, and the action sees whether that has happened. `Action.passthrough` builds a node that
holds all there is to know about a match.
-/

namespace Packrat

variable {K T : Type}

/-- What an operator matched: the tokens of the input at `span`. `label` is the operator as grammar
text, if an action has asked for it before. -/
structure Match (K : Type) where
  input : Array (Token K)
  span : Span
  label : Option String

namespace Match

/-- The matched tokens; none if the span leaves the input. -/
def tokens (m : Match K) : List (Token K) :=
  if m.span.stop ≤ m.input.size then (m.input.extract m.span.start m.span.stop).toList else []

/-- The texts of the matched tokens, one after the other. -/
def text (m : Match K) : String := String.join (m.tokens.map (·.text))

/-- The text of the first matched token; nothing if there is none. -/
def firstText (m : Match K) : String :=
  match m.tokens with
  | [] => ""
  | t :: _ => t.text

/-- The written form of a match. -/
def written [ToString K] (m : Match K) : String :=
  Text.record "Match"
    [("range", m.span.text),
     ("peg", match m.label with
       | none => "None"
       | some label => "Some(" ++ Text.quote label ++ ")"),
     ("tokens", Text.listing (m.tokens.map Token.written))]

end Match

/-- What an action answers: a value, or a value that depends on the operator as grammar text. -/
inductive Reply (T : Type) where
  | done (value : T)
  | asking (value : String → T)

/-- An action: what it makes of a match and the values of the operands, and the name under which it
is logged. -/
structure Action (K T : Type) where
  name : Option String := none
  run : Match K → List T → Reply T

/-- All there is to know about a match. -/
structure MatchNode (T : Type) where
  kind : Kind
  span : Span
  text : String
  peg : String
  operands : List T

/-- The action that makes a node of every match, wrapped as a value. -/
def Action.passthrough (wrap : MatchNode T → T) (kind : Kind) : Action K T where
  run m values := .asking fun peg => wrap ⟨kind, m.span, m.text, peg, values⟩

end Packrat
