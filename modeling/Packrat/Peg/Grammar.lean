import Packrat.Peg.Builder

/-!
# Grammars

A grammar is a closed set of rules over the operators of one arena: every head has one rule, the
start symbol and every called name have one, and no rule reaches a foreign operator.
`Builder.build` accepts exactly these, adds a non-terminal that calls the start symbol, and then
makes a table with a slot for the text of every operator.
-/

namespace Packrat

variable {K N T : Type}

/-- A rule: its name and the operator that is its body. -/
structure Rule (N : Type) where
  head : N
  body : NodeId

/-- A closed set of rules. `startNode` calls the start symbol. There is a table for the texts of
operators, which actions may ask for: it has `slots` places, one for every operator, all of them
empty when the grammar is made. -/
structure Grammar (K N T : Type) where
  arena : Arena K N T
  rules : List (Rule N)
  start : N
  startNode : NodeId
  slots : Nat
  aligned : slots = arena.size

/-- The first member of a list that repeats an earlier one. -/
def firstRepeated? {β : Type} [DecidableEq β] (seen : List β) : List β → Option β
  | [] => none
  | x :: rest => if x ∈ seen then some x else firstRepeated? (x :: seen) rest

/-- The first name called from the body of a rule that is none of the given ones. -/
def Rule.undefinedName? [DecidableEq N] (arena : Arena K N T) (defined : List N) (rule : Rule N) :
    Option N :=
  match arena.calledNames rule.body with
  | .error _ => none
  | .ok names => names.find? (· ∉ defined)

/-- Whether the body of a rule reaches an operator of another arena. -/
def Rule.reachesForeign (arena : Arena K N T) (rule : Rule N) : Bool :=
  match arena.subtree rule.body with
  | .error _ => true
  | .ok _ => false

/-- What is wrong with a set of rules: a repeated head, then a missing start symbol, then a foreign
operator, then a call of a rule that is not there. -/
def Arena.ruleError? [DecidableEq N] (arena : Arena K N T) (start : N) (rules : List (Rule N)) :
    Option (GrammarError K N) :=
  let heads := rules.map (·.head)
  match firstRepeated? [] heads with
  | some head => some (.duplicateRule head)
  | none =>
    if start ∉ heads then some (.missingStartRule start)
    else
      match rules.find? (·.reachesForeign arena) with
      | some rule => some (.foreignOperator rule.head)
      | none =>
        rules.findSome? fun rule =>
          (rule.undefinedName? arena heads).map (.undefinedRule rule.head)

/-- The grammar with the given rules and start symbol. -/
def Builder.build [DecidableEq N] (b : Builder K N T) (start : N) (rules : List (Rule N)) :
    Except (GrammarError K N) (Grammar K N T) :=
  match b.arena.ruleError? start rules with
  | some e => .error e
  | none =>
    let (startNode, arena) := b.arena.push (.nonTerminal start) (b.registry.forName start)
    .ok ⟨arena, rules, start, startNode, arena.ids.length, by simp [Arena.ids]⟩

namespace Grammar

/-- Whether there is a slot for the text of an operator. -/
def hasSlot (g : Grammar K N T) (id : NodeId) : Bool := id.index < g.slots

/-- Every operator has a slot. -/
theorem hasSlot_of_get? {g : Grammar K N T} {id : NodeId} {operator : Operator K N NodeId}
    (h : g.arena.get? id = some operator) : g.hasSlot id := by
  unfold Arena.get? at h
  split at h
  · have hlt := (Array.getElem?_eq_some_iff.1 h).1
    simpa [hasSlot, g.aligned, Arena.size] using hlt
  · cases h

/-- The body of the rule with a name. -/
def body? [DecidableEq N] (g : Grammar K N T) (name : N) : Option NodeId :=
  (g.rules.find? (·.head = name)).map (·.body)

variable [ToString K] [ToString N]

/-- The rules as grammar text, one on a line. -/
def text (g : Grammar K N T) : String :=
  "\n".intercalate (g.rules.map fun rule =>
    toString rule.head ++ " => " ++ g.arena.render rule.body ++ ";")

/-- The written form of a grammar. -/
def written (g : Grammar K N T) : String :=
  Text.openRecord "Grammar"
    [("start", toString g.start),
     ("rules", Text.listing (g.rules.map fun rule =>
       Text.record "Rule" [("head", toString rule.head), ("body", rule.body.written)])),
     ("graph", g.arena.written)]

end Grammar

end Packrat
