import Packrat.Peg.Action

/-!
# The arena of operators

The operators of a grammar live in one arena, and are addressed by ids. Operands are ids, and rules
are called by name, so recursive rules need no cycle. An id carries the number of its arena: an
arena tells its own ids from foreign ones. The actions attached to the operators have a table of
their own, with an entry for every operator; `Arena.node?` looks at both tables at once.

`Arena.subtree` lists what is reachable through operands with a stack of what is left to visit;
`Arena.fold` computes a value from the operators bottom up, and rendering is a fold.
-/

namespace Packrat

/-- The address of an operator: the number of its arena and its place there. -/
structure NodeId where
  arena : Nat
  index : Nat
deriving DecidableEq

/-- The written form of an id. -/
def NodeId.written (id : NodeId) : String :=
  "OpId(" ++ toString id.index ++ "@" ++ toString id.arena ++ ")"

/-- The operators made for one grammar and the actions attached to them, in order of creation. -/
structure Arena (K N T : Type) where
  id : Nat
  operators : Array (Operator K N NodeId)
  actions : Array (Option (Action K T))
  aligned : actions.size = operators.size

/-- An operator with its action. -/
structure Node (K N T : Type) where
  operator : Operator K N NodeId
  action : Option (Action K T)

namespace Arena

variable {K N T β : Type}

/-- An arena without operators. -/
def empty (id : Nat) : Arena K N T := ⟨id, #[], #[], rfl⟩

/-- The number of operators. -/
def size (a : Arena K N T) : Nat := a.operators.size

/-- The id of the operator at a place. -/
def idAt (a : Arena K N T) (index : Nat) : NodeId := ⟨a.id, index⟩

/-- The ids of all operators in order of creation. -/
def ids (a : Arena K N T) : List NodeId := (List.range a.size).map a.idAt

/-- Whether an id is one of this arena. -/
def owns (a : Arena K N T) (id : NodeId) : Bool := id.arena == a.id && id.index < a.size

/-- The operator at an id of this arena. -/
def get? (a : Arena K N T) (id : NodeId) : Option (Operator K N NodeId) :=
  if id.arena = a.id then a.operators[id.index]? else none

/-- The action at an id of this arena. -/
def action? (a : Arena K N T) (id : NodeId) : Option (Action K T) :=
  if id.arena = a.id then (a.actions[id.index]?).join else none

/-- The operator and action at an id of this arena. -/
def node? (a : Arena K N T) (id : NodeId) : Option (Node K N T) :=
  (a.get? id).map (⟨·, a.action? id⟩)

/-- Adds an operator and its action at the end of both tables. -/
def push (a : Arena K N T) (operator : Operator K N NodeId) (action : Option (Action K T)) :
    NodeId × Arena K N T :=
  (a.idAt a.size,
    ⟨a.id, a.operators.push operator, a.actions.push action, by simp [a.aligned]⟩)

/-- There are no actions where there is no operator. -/
theorem action?_eq_none {a : Arena K N T} {id : NodeId} (h : a.get? id = none) :
    a.action? id = none := by
  by_cases hid : id.arena = a.id
  · simp only [get?, hid, if_true, Array.getElem?_eq_none_iff, ← a.aligned] at h
    simp [action?, hid, Array.getElem?_eq_none h]
  · simp [action?, hid]

/-- The operator of a node. -/
theorem get?_eq_node? (a : Arena K N T) (id : NodeId) :
    a.get? id = (a.node? id).map (·.operator) := by
  simp [node?, Function.comp_def]

/-- The action of a node. -/
theorem action?_eq_node? (a : Arena K N T) (id : NodeId) :
    a.action? id = (a.node? id).bind (·.action) := by
  cases h : a.get? id with
  | none => simp [node?, h, action?_eq_none h]
  | some operator => simp [node?, h]

/-- A node is an operator with its action. -/
theorem node?_eq_some_iff {a : Arena K N T} {id : NodeId} {node : Node K N T} :
    a.node? id = some node ↔ a.get? id = some node.operator ∧ a.action? id = node.action := by
  obtain ⟨operator, action⟩ := node
  cases h : a.get? id <;> simp [node?, h]

/-- Where there is an operator there is a node. -/
theorem node?_of_get? {a : Arena K N T} {id : NodeId} {operator : Operator K N NodeId}
    (h : a.get? id = some operator) : a.node? id = some ⟨operator, a.action? id⟩ :=
  node?_eq_some_iff.2 ⟨h, rfl⟩

/-- The new id denotes the new operator and its action. -/
@[simp] theorem node?_push_self (a : Arena K N T) (operator : Operator K N NodeId)
    (action : Option (Action K T)) :
    (a.push operator action).2.node? (a.push operator action).1 = some ⟨operator, action⟩ := by
  have hoperator : (a.operators.push operator)[a.size]? = some operator := Array.getElem?_push_size
  have haction : (a.actions.push action)[a.size]? = some action := by
    rw [size, ← a.aligned, Array.getElem?_push_size]
  simp only [push, node?, get?, action?, idAt, if_true, hoperator, haction, Option.join_some,
    Option.map_some]

/-- An id keeps denoting the same operator and action. -/
theorem node?_push_of_eq_some {a : Arena K N T} {id : NodeId} {node : Node K N T}
    (h : a.node? id = some node) (operator : Operator K N NodeId) (action : Option (Action K T)) :
    (a.push operator action).2.node? id = some node := by
  by_cases hid : id.arena = a.id
  · obtain ⟨op, hop, rfl⟩ := Option.map_eq_some_iff.1 h
    have hlt : id.index < a.operators.size := by
      simp only [get?, hid, if_true] at hop
      exact (Array.getElem?_eq_some_iff.1 hop).1
    have hlt' : id.index < a.actions.size := a.aligned ▸ hlt
    simp only [node?, get?, action?, push, hid, if_true, Array.getElem?_push, Nat.ne_of_lt hlt,
      Nat.ne_of_lt hlt', if_false] at h ⊢
    exact h
  · simp [node?, get?, hid] at h

/-! ## Reachable operators -/

/-- The number of operands of all operators together. -/
def edgeCount (a : Arena K N T) : Nat :=
  a.operators.toList.foldl (fun count op => count + op.operands.length) 0

/-- Visits what is on the stack, the top first: an id that has been visited is passed over, another
one is listed and its operands are put on the stack. `visited` has the last visited id first. If the
bound on the steps is too small, the result is `none`. -/
def visit (a : Arena K N T) : (fuel : Nat) → (stack visited : List NodeId) →
    Option (Except NodeId (List NodeId))
  | 0, _, _ => none
  | _ + 1, [], visited => some (.ok visited.reverse)
  | fuel + 1, id :: stack, visited =>
    match a.get? id with
    | none => some (.error id)
    | some operator =>
      if visited.contains id then a.visit fuel stack visited
      else a.visit fuel (operator.operands ++ stack) (id :: visited)

/-- The ids reachable from `root` through operands, `root` first, each once in the order of first
visit; or the first foreign id on the way. Every operator puts its operands on the stack at most
once, which bounds the walk. -/
def subtree (a : Arena K N T) (root : NodeId) : Except NodeId (List NodeId) :=
  (a.visit (a.edgeCount + 2) [root] []).getD (.ok [])

/-- A list without the repetitions of earlier members. -/
def distinct [DecidableEq β] (seen : List β) : List β → List β
  | [] => []
  | x :: rest => if x ∈ seen then distinct seen rest else x :: distinct (x :: seen) rest

/-- The names of the rules called by the operators reachable from `root`, in the order of first
occurrence; or the first foreign id on the way. -/
def calledNames [DecidableEq N] (a : Arena K N T) (root : NodeId) : Except NodeId (List N) :=
  match a.subtree root with
  | .error id => .error id
  | .ok ids => .ok (distinct [] (ids.filterMap fun id => (a.get? id).bind Operator.callee?))

/-! ## Folds -/

/-- A value computed from the operator at an id and the values of its operands, down to the given
depth; foreign ids and what lies deeper have the value `foreign`. -/
def fold (a : Arena K N T) (layer : Operator K N β → β) (foreign : β) : Nat → NodeId → β
  | 0, _ => foreign
  | depth + 1, id =>
    match a.get? id with
    | none => foreign
    | some operator => layer (operator.map (a.fold layer foreign depth))

variable [ToString K] [ToString N]

/-- The operator at an id as grammar text. Operands are older than the operators that use them, so
no expression is deeper than the arena is large. -/
def render (a : Arena K N T) (id : NodeId) : String :=
  a.fold Operator.text "<foreign>" a.size id

/-- The written form of an arena. -/
def written (a : Arena K N T) : String :=
  Text.openRecord "RuleGraph"
    [("id", toString a.id),
     ("nodes", Text.listing (a.operators.toList.map fun op =>
       (op.map NodeId.written).written))]

end Arena

end Packrat
