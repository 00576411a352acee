import Packrat.Text.Listing

/-!
# Operators of parsing expressions

The closed set of operators, over a type `ι` of operands: an arena uses ids of other operators as
operands, rendering uses their texts. `Operator.text` and `Operator.written` are one layer of the
two written forms of an expression.
-/

namespace Packrat

/-- The kinds of operators. -/
inductive Kind where
  | terminal
  | nonTerminal
  | emptyString
  | sequence
  | orderedChoice
  | optional
  | zeroOrMore
  | oneOrMore
  | andPredicate
  | notPredicate
deriving DecidableEq

namespace Kind

/-- The name of a kind in messages. -/
def name : Kind → String
  | .terminal => "terminal"
  | .nonTerminal => "non-terminal"
  | .emptyString => "empty string"
  | .sequence => "sequence"
  | .orderedChoice => "ordered choice"
  | .optional => "optional"
  | .zeroOrMore => "zero-or-more"
  | .oneOrMore => "one-or-more"
  | .andPredicate => "and-predicate"
  | .notPredicate => "not-predicate"

/-- The name of a kind in written forms. -/
def label : Kind → String
  | .terminal => "Terminal"
  | .nonTerminal => "NonTerminal"
  | .emptyString => "EmptyString"
  | .sequence => "Sequence"
  | .orderedChoice => "OrderedChoice"
  | .optional => "Optional"
  | .zeroOrMore => "ZeroOrMore"
  | .oneOrMore => "OneOrMore"
  | .andPredicate => "AndPredicate"
  | .notPredicate => "NotPredicate"

/-- Whether operators of the kind look ahead and leave no value. -/
def isPredicate : Kind → Bool
  | .andPredicate => true
  | .notPredicate => true
  | _ => false

/-- The kinds whose operators can carry an action. -/
def firing : List Kind :=
  [.terminal, .nonTerminal, .emptyString, .sequence, .orderedChoice, .optional, .zeroOrMore,
   .oneOrMore]

end Kind

/-- An operator over token tags `K` and rule names `N`, with operands in `ι`. -/
inductive Operator (K N ι : Type) where
  /-- One token with the tag. -/
  | terminal (tag : K)
  /-- A call of the rule. -/
  | nonTerminal (name : N)
  /-- Nothing, anywhere up to the end of the input. -/
  | emptyString
  /-- The operands one after the other. -/
  | sequence (operands : List ι)
  /-- The first operand that matches. -/
  | orderedChoice (operands : List ι)
  /-- The operand, or nothing. -/
  | optional (operand : ι)
  /-- The operand as often as it matches. -/
  | zeroOrMore (operand : ι)
  /-- The operand as often as it matches, at least once. -/
  | oneOrMore (operand : ι)
  /-- Nothing, where the operand matches. -/
  | andPredicate (operand : ι)
  /-- Nothing, where the operand does not match. -/
  | notPredicate (operand : ι)
deriving DecidableEq

namespace Operator

variable {K N ι κ : Type}

/-- The operands in the order of evaluation. -/
def operands : Operator K N ι → List ι
  | .terminal _ => []
  | .nonTerminal _ => []
  | .emptyString => []
  | .sequence xs => xs
  | .orderedChoice xs => xs
  | .optional x => [x]
  | .zeroOrMore x => [x]
  | .oneOrMore x => [x]
  | .andPredicate x => [x]
  | .notPredicate x => [x]

/-- The kind of an operator. -/
def kind : Operator K N ι → Kind
  | .terminal _ => .terminal
  | .nonTerminal _ => .nonTerminal
  | .emptyString => .emptyString
  | .sequence _ => .sequence
  | .orderedChoice _ => .orderedChoice
  | .optional _ => .optional
  | .zeroOrMore _ => .zeroOrMore
  | .oneOrMore _ => .oneOrMore
  | .andPredicate _ => .andPredicate
  | .notPredicate _ => .notPredicate

/-- The operator with its operands replaced. -/
def map (f : ι → κ) : Operator K N ι → Operator K N κ
  | .terminal tag => .terminal tag
  | .nonTerminal name => .nonTerminal name
  | .emptyString => .emptyString
  | .sequence xs => .sequence (xs.map f)
  | .orderedChoice xs => .orderedChoice (xs.map f)
  | .optional x => .optional (f x)
  | .zeroOrMore x => .zeroOrMore (f x)
  | .oneOrMore x => .oneOrMore (f x)
  | .andPredicate x => .andPredicate (f x)
  | .notPredicate x => .notPredicate (f x)

/-- The rule that an operator calls. -/
def callee? : Operator K N ι → Option N
  | .nonTerminal name => some name
  | _ => none

/-- Whether the operator has as many operands as it needs: a sequence or a choice at least two. -/
def hasEnoughOperands : Operator K N ι → Bool
  | .sequence xs => 2 ≤ xs.length
  | .orderedChoice xs => 2 ≤ xs.length
  | _ => true

/-- The operands of the replaced operator are the replaced operands. -/
@[simp] theorem operands_map (f : ι → κ) (op : Operator K N ι) :
    (op.map f).operands = op.operands.map f := by
  cases op <;> rfl

/-- Replacing operands keeps the kind. -/
@[simp] theorem kind_map (f : ι → κ) (op : Operator K N ι) : (op.map f).kind = op.kind := by
  cases op <;> rfl

variable [ToString K] [ToString N]

/-- The operator as grammar text, from the texts of its operands. -/
def text : Operator K N String → String
  | .terminal tag => "[" ++ toString tag ++ "]"
  | .nonTerminal name => toString name
  | .emptyString => "[]"
  | .sequence xs => " ".intercalate xs
  | .orderedChoice xs => "(" ++ " | ".intercalate xs ++ ")"
  | .optional x => "(" ++ x ++ ")?"
  | .zeroOrMore x => "(" ++ x ++ ")*"
  | .oneOrMore x => "(" ++ x ++ ")+"
  | .andPredicate x => "&(" ++ x ++ ")"
  | .notPredicate x => "!(" ++ x ++ ")"

/-- The written form of the operator itself, from the written forms of its operands. -/
def written (op : Operator K N String) : String :=
  match op with
  | .terminal tag => op.kind.label ++ "(" ++ toString tag ++ ")"
  | .nonTerminal name => op.kind.label ++ "(" ++ toString name ++ ")"
  | .emptyString => op.kind.label
  | .sequence xs => op.kind.label ++ "(" ++ Text.listing xs ++ ")"
  | .orderedChoice xs => op.kind.label ++ "(" ++ Text.listing xs ++ ")"
  | .optional x => op.kind.label ++ "(" ++ x ++ ")"
  | .zeroOrMore x => op.kind.label ++ "(" ++ x ++ ")"
  | .oneOrMore x => op.kind.label ++ "(" ++ x ++ ")"
  | .andPredicate x => op.kind.label ++ "(" ++ x ++ ")"
  | .notPredicate x => op.kind.label ++ "(" ++ x ++ ")"

end Operator

end Packrat
