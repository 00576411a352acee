import Packrat.Peg.Registry

/-!
# Building operators

A builder holds the arena of a grammar in the making and the registry of its actions. Every operator
gets its action when it is made: the one given for it, else what the registry says at that moment.
Making an operator returns the builder beside the new id or the error.
-/

namespace Packrat

/-- A grammar in the making. -/
structure Builder (K N T : Type) where
  arena : Arena K N T
  registry : Registry K N T := {}

namespace Builder

variable {K N T : Type}

/-- A builder with an empty arena of the given number. -/
def new (id : Nat) (registry : Registry K N T) : Builder K N T := ⟨.empty id, registry⟩

/-- Makes an operator with the given action. A sequence or choice needs two operands, and a
predicate takes no action. -/
def addWith (b : Builder K N T) (operator : Operator K N NodeId) (action : Option (Action K T)) :
    Except (GrammarError K N) NodeId × Builder K N T :=
  if operator.hasEnoughOperands then
    let (id, arena) :=
      b.arena.push operator (if operator.kind.isPredicate then none else action)
    (.ok id, { b with arena })
  else (.error (.tooFewOperands operator.kind operator.operands.length), b)

/-- Makes an operator with the action that the registry has for it. -/
def add [DecidableEq K] [DecidableEq N] (b : Builder K N T) (operator : Operator K N NodeId) :
    Except (GrammarError K N) NodeId × Builder K N T :=
  b.addWith operator (b.registry.forOperator operator)

/-- Makes operators in order, up to the first that is refused. -/
def addAll [DecidableEq K] [DecidableEq N] (b : Builder K N T) :
    List (Operator K N NodeId) → Except (GrammarError K N) Unit × Builder K N T
  | [] => (.ok (), b)
  | operator :: rest =>
    match b.add operator with
    | (.error e, b) => (.error e, b)
    | (.ok _, b) => b.addAll rest

end Builder

end Packrat
