import Packrat.GrammarText.Compiler
import Packrat.Session.Value

/-!
# Steps of a session and their answers

A session keeps builders, operators, compilers, grammars and contexts in numbered registers, each
numbered from zero in order of creation. A step names registers by their numbers and answers with
what it made or found.
-/

namespace Packrat.Session

/-- Where operators are looked at: in a builder or in a grammar. -/
inductive Place where
  | builder (b : Nat)
  | grammar (g : Nat)

/-- A step of a session. Operands and bodies are numbers of operators. A step that makes a builder
may hold changes that could not be understood; one that makes an operator names operators that must
be there, be they operands of it or not. -/
inductive Step where
  | builder (actions : List (Option Registration))
  | action (b : Nat) (change : Registration)
  | registry (b : Nat) (tags names : List String)
  | operator (b : Nat) (operator : Operator String String Nat) (named : List Nat)
      (act : Option Act)
  | graph (place : Place) (render : Bool)
  | inspect (place : Place) (node : Nat) (render : Bool)
  | compiler (vocabulary : Vocabulary String String)
  | generate (compiler b : Nat) (text : String)
  | build (b : Nat) (start : String) (rules : List (String × Nat))
  | compile (compiler b : Nat) (text start : String)
  | describe (g : Nat) (names : List String)
  | context
  | stats (context : Nat)
  | reset (context : Nat)
  | parse (g : Nat) (text : String) (context : Option Nat) (log : Bool)
      (tokens : Option (List (String × Span)))

/-- How an operator looks from an arena; one of another arena has no kind and no operands. -/
structure NodeView where
  id : NodeId
  kind : Option Kind
  operands : Option (List NodeId)
  hasAction : Bool
  render : Option String

/-- How an operator and what it reaches look from an arena. -/
structure Inspection where
  node : NodeView
  owned : Bool
  subtree : Except NodeId (List NodeId)
  names : Except NodeId (List String)

/-- The operators of an arena. -/
structure GraphView where
  written : String
  nodes : List NodeView

/-- What a registry has actions for. -/
structure RegistryView where
  passthrough : Bool
  kinds : List Kind
  tags : List Bool
  names : List Bool
  written : String

/-- A rule made from grammar text: its head, the number and id of its body, and its text. -/
structure GeneratedRule where
  head : String
  node : Nat
  id : NodeId
  render : String

/-- The rules of a grammar, and the bodies of the rules asked for. -/
structure Description where
  start : String
  rules : List (Rule String)
  text : String
  bodies : List (Option NodeId)
  written : String

/-- The counters of a context. -/
structure StatsView where
  stats : Stats
  memoSize : Nat

/-- A firing of a named action. -/
structure LogEntry where
  name : String
  span : Span
  arity : Nat

/-- The result of a parse. -/
structure ParseView where
  outcome : Outcome Value
  tokenCount : Nat
  gaps : List Span
  stats : Option StatsView
  log : Option (List LogEntry)

/-- Why a step failed. -/
inductive Failure where
  /-- It names a register that does not exist. -/
  | badInput
  | compile (e : CompileError String String)

/-- The answer of a step. -/
inductive Answer where
  | builder (b : Nat)
  | done
  | registry (view : RegistryView)
  | node (n : Nat) (id : NodeId)
  | graph (view : GraphView)
  | inspection (view : Inspection)
  | compiler (n : Nat) (vocabulary compiler : String)
  | generated (rules : List GeneratedRule)
  | grammar (n : Nat)
  | description (view : Description)
  | context (n : Nat)
  | stats (view : StatsView)
  | parse (view : ParseView)
  | failure (f : Failure)

/-- The answer to an error of construction. -/
def Answer.refused (e : GrammarError String String) : Answer := .failure (.compile (.grammar e))

end Packrat.Session
