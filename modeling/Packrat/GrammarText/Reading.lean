import Packrat.GrammarText.Symbol
import Packrat.Peg.Expr

/-!
# What grammar text is read as

The rules of the grammar of grammar text are named by the parts of a text. Each part has an action
that makes its reading from the readings of what is in it: expressions, rules, and at last the list
of all rules. Operators inside a rule pass everything on as nodes, and `Reading.leaves` finds the
expressions and rules in them.
-/

namespace Packrat.GrammarText

/-- The parts of grammar text. -/
inductive Part where
  | start
  | rule
  | operator
  | choice
  | sequence
  | unary
  | optional
  | zeroOrMore
  | oneOrMore
  | atom
  | terminal
  | empty
  | nonTerminal
  | brackets
  | andAhead
  | notAhead
deriving DecidableEq

namespace Part

/-- The name of a part. -/
def name : Part → String
  | .start => "Start"
  | .rule => "Rule"
  | .operator => "Operator"
  | .choice => "Choice"
  | .sequence => "Sequence"
  | .unary => "Unary"
  | .optional => "Optional"
  | .zeroOrMore => "ZeroOrMore"
  | .oneOrMore => "OneOrMore"
  | .atom => "Atom"
  | .terminal => "Terminal"
  | .empty => "Empty"
  | .nonTerminal => "NonTerminal"
  | .brackets => "Brackets"
  | .andAhead => "AndAhead"
  | .notAhead => "NotAhead"

instance : ToString Part := ⟨name⟩

/-- All parts. -/
def all : List Part :=
  [.start, .rule, .operator, .choice, .sequence, .unary, .optional, .zeroOrMore, .oneOrMore,
   .atom, .terminal, .empty, .nonTerminal, .brackets, .andAhead, .notAhead]

end Part

/-- An expression whose tags and names are still identifiers. -/
abbrev RawExpr := Expr String String

/-- A written rule. -/
structure RawRule where
  head : String
  body : RawExpr

/-- What a part of grammar text is read as. -/
inductive Reading where
  /-- Nothing. -/
  | nothing
  /-- A match with everything in it. -/
  | node (n : MatchNode Reading)
  | expr (e : RawExpr)
  | rule (r : RawRule)
  | rules (rs : List RawRule)

namespace Reading

instance : Inhabited Reading := ⟨.nothing⟩

mutual

/-- The expressions and rules in a reading, from left to right. -/
def leaves : Reading → List Reading
  | .nothing => []
  | .node ⟨_, _, _, _, operands⟩ => leavesAll operands
  | .expr e => [.expr e]
  | .rule r => [.rule r]
  | .rules rs => [.rules rs]

/-- The expressions and rules in several readings, from left to right. -/
def leavesAll : List Reading → List Reading
  | [] => []
  | r :: rest => r.leaves ++ leavesAll rest

end

/-- The expression that a reading is. -/
def expr? : Reading → Option RawExpr
  | .expr e => some e
  | _ => none

/-- The rule that a reading is. -/
def rule? : Reading → Option RawRule
  | .rule r => some r
  | _ => none

/-- The expressions in several readings. -/
def exprs (values : List Reading) : List RawExpr := (leavesAll values).filterMap expr?

/-- The reading of an expression that may be missing. -/
def ofExpr? : Option RawExpr → Reading
  | some e => .expr e
  | none => .nothing

end Reading

/-- The only member of a list. -/
def only? {α : Type} : List α → Option α
  | [x] => some x
  | _ => none

/-- The text of the first identifier in a match. -/
def firstIdentifier? (m : Match Symbol) : Option String :=
  (m.tokens.find? (·.tag = .identifier)).map (·.text)

namespace Part

/-- Reads a part that stands for the one expression in it, under an operator or not. -/
def wrapping (operator : RawExpr → RawExpr) (values : List Reading) : Reading :=
  .ofExpr? ((only? (Reading.exprs values)).map operator)

/-- What a part is read as. -/
def read (part : Part) (m : Match Symbol) (values : List Reading) : Reading :=
  match part with
  | .start => .rules ((Reading.leavesAll values).filterMap Reading.rule?)
  | .rule =>
    match firstIdentifier? m, only? (Reading.exprs values) with
    | some head, some body => .rule ⟨head, body⟩
    | _, _ => .nothing
  | .operator => wrapping id values
  | .unary => wrapping id values
  | .atom => wrapping id values
  | .brackets => wrapping id values
  | .choice => .expr (.orderedChoice (Reading.exprs values))
  | .sequence => .expr (.sequence (Reading.exprs values))
  | .optional => wrapping .optional values
  | .zeroOrMore => wrapping .zeroOrMore values
  | .oneOrMore => wrapping .oneOrMore values
  | .andAhead => wrapping .andPredicate values
  | .notAhead => wrapping .notPredicate values
  | .terminal => .ofExpr? ((firstIdentifier? m).map .terminal)
  | .empty => .expr .emptyString
  | .nonTerminal => .expr (.nonTerminal m.firstText)

/-- The action of a part. -/
def action (part : Part) : Action Symbol Reading where
  run m values := .done (part.read m values)

end Part

/-- The actions of the grammar of grammar text: one for each part, and nodes for all else. -/
def registry : Registry Symbol Part Reading where
  names := Part.all.map fun part => (part, part.action)
  passthrough := some (Action.passthrough .node)

end Packrat.GrammarText
