import Packrat.Peg.Arena

/-!
# Errors of construction and the registry of actions

The registry says which action a new operator gets: one set for its tag or rule name, else the
default of its kind, else the passthrough if it is installed. Actions for a tag or a name are set
once; defaults can be replaced. Predicates never get an action. What changes the registry returns it
beside what it has to say, also when that is an error.
-/

namespace Packrat

variable {K N T : Type}

/-- Why a grammar or a registry could not be made. -/
inductive GrammarError (K N : Type) where
  | duplicateRule (head : N)
  | missingStartRule (start : N)
  | foreignOperator (head : N)
  | undefinedRule (head name : N)
  | tooFewOperands (kind : Kind) (count : Nat)
  | duplicateTagAction (tag : K)
  | duplicateNameAction (name : N)
deriving DecidableEq

/-- A text between backticks. -/
def ticked (text : String) : String := "`" ++ text ++ "`"

/-- The wording of an error. -/
def GrammarError.message [ToString K] [ToString N] : GrammarError K N → String
  | .duplicateRule head => "rule " ++ ticked (toString head) ++ " is defined more than once"
  | .missingStartRule start => "start symbol " ++ ticked (toString start) ++ " has no rule"
  | .foreignOperator head =>
    "rule " ++ ticked (toString head) ++ " uses an operator built for a different grammar"
  | .undefinedRule head name =>
    "rule " ++ ticked (toString head) ++ " references " ++ ticked (toString name) ++
      ", which has no rule"
  | .tooFewOperands kind count =>
    kind.name ++ " needs at least two operands, got " ++ toString count
  | .duplicateTagAction tag =>
    "semantic action for " ++ Kind.terminal.name ++ " " ++ ticked (toString tag) ++
      " is already set"
  | .duplicateNameAction name =>
    "semantic action for " ++ Kind.nonTerminal.name ++ " " ++ ticked (toString name) ++
      " is already set"

/-- The actions for operators that are still to be made. -/
structure Registry (K N T : Type) where
  defaults : Kind → Option (Action K T) := fun _ => none
  tags : List (K × Action K T) := []
  names : List (N × Action K T) := []
  passthrough : Option (Kind → Action K T) := none

namespace Registry

/-- Sets the default action of a kind, in place of an earlier one. -/
def setDefault (r : Registry K N T) (kind : Kind) (action : Action K T) : Registry K N T :=
  { r with defaults := fun k => if k = kind then some action else r.defaults k }

/-- Sets the action of a tag, once. -/
def setTag [DecidableEq K] (r : Registry K N T) (tag : K) (action : Action K T) :
    Except (GrammarError K N) Unit × Registry K N T :=
  if (r.tags.lookup tag).isSome then (.error (.duplicateTagAction tag), r)
  else (.ok (), { r with tags := (tag, action) :: r.tags })

/-- Sets the action of a rule name, once. -/
def setName [DecidableEq N] (r : Registry K N T) (name : N) (action : Action K T) :
    Except (GrammarError K N) Unit × Registry K N T :=
  if (r.names.lookup name).isSome then (.error (.duplicateNameAction name), r)
  else (.ok (), { r with names := (name, action) :: r.names })

/-- Installs the passthrough, which makes a value of every match that has no other action. -/
def installPassthrough (r : Registry K N T) (wrap : MatchNode T → T) : Registry K N T :=
  { r with passthrough := some (Action.passthrough wrap) }

/-- The action of a new operator of a kind. -/
def forKind (r : Registry K N T) (kind : Kind) : Option (Action K T) :=
  if kind.isPredicate then none
  else (r.defaults kind).or (r.passthrough.map (· kind))

/-- The action of a new terminal. -/
def forTag [DecidableEq K] (r : Registry K N T) (tag : K) : Option (Action K T) :=
  (r.tags.lookup tag).or (r.forKind .terminal)

/-- The action of a new non-terminal. -/
def forName [DecidableEq N] (r : Registry K N T) (name : N) : Option (Action K T) :=
  (r.names.lookup name).or (r.forKind .nonTerminal)

/-- The action of a new operator. -/
def forOperator [DecidableEq K] [DecidableEq N] {ι : Type} (r : Registry K N T) :
    Operator K N ι → Option (Action K T)
  | .terminal tag => r.forTag tag
  | .nonTerminal name => r.forName name
  | operator => r.forKind operator.kind

/-- The written form of a registry. -/
def written [ToString K] [ToString N] (r : Registry K N T) : String :=
  Text.openRecord "SemanticActions"
    [("terminals", Text.listing (Text.sorted (r.tags.map fun (tag, _) => toString tag))),
     ("non_terminals", Text.listing (Text.sorted (r.names.map fun (name, _) => toString name))),
     ("passthrough", toString r.passthrough.isSome)]

end Registry

end Packrat
