import Mathlib.Algebra.BigOperators.Group.List.Basic
import Mathlib.Algebra.Ring.Nat
import Mathlib.Data.List.Induction
import Mathlib.Data.List.Nodup
import Packrat.Peg.Grammar

/-!
# What the construction of a grammar guarantees

A builder hands out ids one after the other, and an operator is made from ids that have been handed
out before. `Builder.Made` is the history of such a builder, and `Builder.Made.ordered` what follows
for its arena: operands are older than the operators that use them (`Arena.Ordered`).

`Arena.Reaches` is reachability through operands. A walk of `Arena.subtree` that returns has listed
everything reachable from its root, and all of it is owned (`Arena.subtree_reaches`). So the checks
of `Builder.build` accept just the sets of rules with distinct heads that are closed
(`Arena.ruleError?_eq_none_iff`): an operator that takes part in a parse (`Grammar.Live`) is owned,
its operands take part too, and a rule that it calls is there (`Grammar.Live.closed`).
-/

namespace Packrat

variable {K N T : Type}

/-! ## Histories of builders -/

/-- An id that the arena, or another one, has handed out: only the arena itself numbers ids as its
own, and it does so in order of creation. -/
def Arena.HandedOut (a : Arena K N T) (id : NodeId) : Prop := id.arena = a.id → id.index < a.size

/-- The builders that a program can hold: a new one, one whose registry was changed, and one that
made an operator from ids that had been handed out. -/
inductive Builder.Made : Builder K N T → Prop
  | new (id : Nat) (registry : Registry K N T) : Made (Builder.new id registry)
  | withRegistry {b : Builder K N T} (registry : Registry K N T) :
      Made b → Made { b with registry }
  | addWith {b b' : Builder K N T} {operator : Operator K N NodeId} {action : Option (Action K T)}
      {id : NodeId} : Made b → (∀ o ∈ operator.operands, b.arena.HandedOut o) →
      b.addWith operator action = (.ok id, b') → Made b'

/-- Operands are older than the operators that use them, foreign ones apart. -/
def Arena.Ordered (a : Arena K N T) : Prop :=
  ∀ ⦃id : NodeId⦄ ⦃operator : Operator K N NodeId⦄, a.get? id = some operator →
    ∀ o ∈ operator.operands, o.arena = a.id → o.index < id.index

namespace Arena

variable {a : Arena K N T} {id : NodeId} {operator op : Operator K N NodeId}
  {action : Option (Action K T)}

/-- An arena has an operator at an id exactly if it owns the id. -/
theorem isSome_get?_iff : (a.get? id).isSome ↔ id.arena = a.id ∧ id.index < a.size := by
  by_cases h : id.arena = a.id
  · simp [get?, size, h]
  · simp [get?, h]

/-- An id with an operator is owned. -/
theorem owned_of_get? (h : a.get? id = some operator) : id.arena = a.id ∧ id.index < a.size :=
  isSome_get?_iff.1 (h ▸ rfl)

/-- The node that a larger arena has at an id: the new one at the new id, all else as before. -/
theorem node?_push (a : Arena K N T) (op : Operator K N NodeId) (action : Option (Action K T))
    (id : NodeId) :
    (a.push op action).2.node? id =
      if id = a.idAt a.size then some ⟨op, action⟩ else a.node? id := by
  split
  · next hid =>
    subst hid
    exact node?_push_self a op action
  · next hid =>
    obtain ⟨arena, index⟩ := id
    by_cases h : arena = a.id
    · subst h
      have hne : index ≠ a.operators.size := by simpa [idAt, size] using hid
      have hne' : index ≠ a.actions.size := a.aligned ▸ hne
      simp only [node?, get?, action?, push, if_true, Array.getElem?_push, hne, hne', if_false]
    · simp [push, node?, get?, h]

/-- What a larger arena has at an id: the new operator at the new id, all else as before. -/
theorem get?_push (a : Arena K N T) (op : Operator K N NodeId) (action : Option (Action K T))
    (id : NodeId) :
    (a.push op action).2.get? id =
      if id = a.idAt a.size then some op else a.get? id := by
  rw [get?_eq_node?, node?_push, get?_eq_node?]
  split <;> rfl

/-- A node of a larger arena was there before, or is the new one. -/
theorem node?_push_eq_some {node : Node K N T}
    (h : (a.push op action).2.node? id = some node) :
    a.node? id = some node ∨ node = ⟨op, action⟩ := by
  rw [node?_push] at h
  split at h
  · exact .inr (Option.some.inj h).symm
  · exact .inl h

/-- An id keeps denoting the same operator. -/
theorem get?_push_of_eq_some (h : a.get? id = some operator) (op : Operator K N NodeId)
    (action : Option (Action K T)) : (a.push op action).2.get? id = some operator := by
  have hne : id ≠ a.idAt a.size := by
    rintro rfl
    exact absurd (owned_of_get? h).2 (by simp [idAt])
  rw [get?_push, if_neg hne, h]

/-- A larger arena is ordered if the operands of the new operator have been handed out. -/
theorem Ordered.push (ha : a.Ordered) (hop : ∀ o ∈ op.operands, a.HandedOut o) :
    (a.push op action).2.Ordered := by
  intro id operator h o ho hown
  rw [get?_push] at h
  split at h
  · next hid =>
    cases h
    subst hid
    exact hop o ho hown
  · exact ha h o ho hown

end Arena

/-- A builder that adds an operator pushes it into its arena. -/
theorem Builder.addWith_eq_ok {b b' : Builder K N T} {operator : Operator K N NodeId}
    {action : Option (Action K T)} {id : NodeId} (h : b.addWith operator action = (.ok id, b')) :
    ∃ kept, b'.arena = (b.arena.push operator kept).2 := by
  unfold Builder.addWith at h
  split at h
  · cases h
    exact ⟨_, rfl⟩
  · cases h

/-- **The arena of every builder is ordered.** -/
theorem Builder.Made.ordered {b : Builder K N T} (h : b.Made) : b.arena.Ordered := by
  induction h with
  | new id registry =>
    intro node operator hn
    simp [Builder.new, Arena.empty, Arena.get?] at hn
  | withRegistry _ _ ih => exact ih
  | addWith _ hops hadd ih =>
    obtain ⟨kept, harena⟩ := Builder.addWith_eq_ok hadd
    rw [harena]
    exact ih.push hops

/-- The builder that has made the given operators one after the other, without actions. -/
def Builder.of (operators : List (Operator K N NodeId)) : Builder K N Unit :=
  ⟨⟨0, operators.toArray, .replicate operators.length none, by simp⟩, {}⟩

/-- Such a builder has a history if operators have enough operands and use older ones only. -/
theorem Builder.made_of {operators : List (Operator K N NodeId)}
    (h : ∀ index (hi : index < operators.length), operators[index].hasEnoughOperands ∧
      ∀ o ∈ operators[index].operands, o.index < index) : (Builder.of operators).Made := by
  induction operators using List.reverseRecOn with
  | nil => exact .new 0 {}
  | append_singleton rest operator ih =>
    obtain ⟨henough, holder⟩ := h rest.length (by simp)
    rw [List.getElem_concat_length rfl] at henough holder
    have hrest : (Builder.of rest).Made := by
      refine ih fun index hi => ?_
      have hindex := h index (by simp; omega)
      rwa [List.getElem_append_left hi] at hindex
    have hadd : (Builder.of rest).addWith operator none =
        (.ok ⟨0, rest.length⟩, Builder.of (rest ++ [operator])) := by
      simp [Builder.addWith, henough, Arena.push, Arena.idAt, Arena.size, Builder.of,
        Array.replicate_succ]
    exact .addWith hrest (fun o ho _ => by simpa [Arena.size, Builder.of] using holder o ho) hadd

/-! ## Reachability through operands -/

namespace Arena

variable {a : Arena K N T} {root id : NodeId}

/-- `id` is reachable from `root` through operands. -/
inductive Reaches (a : Arena K N T) (root : NodeId) : NodeId → Prop
  | root : Reaches a root root
  | operand {id o : NodeId} {operator : Operator K N NodeId} : Reaches a root id →
      a.get? id = some operator → o ∈ operator.operands → Reaches a root o

/-- The number of operands of the operator at an id. -/
def arity (a : Arena K N T) (id : NodeId) : Nat :=
  ((a.get? id).map (·.operands.length)).getD 0

/-- How many operands the operators have together that are still to be visited. -/
def pending (a : Arena K N T) (visited : List NodeId) : Nat :=
  ((a.ids.filter (· ∉ visited)).map a.arity).sum

/-- The ids of an arena are distinct. -/
theorem nodup_ids (a : Arena K N T) : a.ids.Nodup :=
  List.Nodup.map (fun _ _ h => congrArg NodeId.index h) List.nodup_range

/-- The ids of an arena are the ids it owns. -/
theorem mem_ids_iff : id ∈ a.ids ↔ (a.get? id).isSome := by
  rw [isSome_get?_iff]
  obtain ⟨arena, index⟩ := id
  simp only [ids, idAt, List.mem_map, List.mem_range, NodeId.mk.injEq]
  constructor
  · rintro ⟨_, hlt, rfl, rfl⟩
    exact ⟨rfl, hlt⟩
  · rintro ⟨rfl, hlt⟩
    exact ⟨index, hlt, rfl, rfl⟩

/-- The operators at the ids of an arena. -/
theorem map_get?_ids (a : Arena K N T) :
    a.ids.map a.get? = a.operators.toList.map some := by
  refine List.ext_getElem (by simp [ids, size]) fun i h₁ h₂ => ?_
  have hi : i < a.operators.size := by simpa using h₂
  simp [ids, idAt, get?, hi]

/-- A fresh id takes its operands off what is pending. -/
theorem pending_cons {visited : List NodeId} (hid : id ∈ a.ids) (hv : id ∉ visited) :
    a.arity id + a.pending (id :: visited) = a.pending visited := by
  have hmem : id ∈ a.ids.filter (· ∉ visited) := by simp [hid, hv]
  have hperm := List.perm_cons_erase hmem
  have herase : (a.ids.filter (· ∉ visited)).erase id = a.ids.filter (· ∉ id :: visited) := by
    rw [List.Nodup.erase_eq_filter (a.nodup_ids.filter _), List.filter_filter]
    congr 1
    funext x
    by_cases hx : x = id <;> simp [hx]
  rw [pending, pending, (hperm.map a.arity).sum_eq, List.map_cons, List.sum_cons, herase]

/-- All operands together are pending at the beginning. -/
theorem pending_nil (a : Arena K N T) : a.pending [] = a.edgeCount := by
  have hall : ∀ ops : List (Operator K N NodeId), ∀ count,
      ops.foldl (fun count op => count + op.operands.length) count =
        count + (ops.map (·.operands.length)).sum := by
    intro ops
    induction ops with
    | nil => simp
    | cons op rest ih => intro count; simp [ih]; omega
  have hids := congrArg (List.map fun o => (o.map (·.operands.length)).getD 0) a.map_get?_ids
  rw [List.map_map, List.map_map] at hids
  have harity : a.ids.map a.arity = a.operators.toList.map (·.operands.length) := hids
  rw [edgeCount, hall, Nat.zero_add, pending, ← harity]
  simp

/-- What holds during a walk from `root`: what has been visited is owned, and its operands and the
root have been visited or are on the stack. -/
structure Walking (a : Arena K N T) (root : NodeId) (stack visited : List NodeId) : Prop where
  rooted : root ∈ visited ∨ root ∈ stack
  closed : ∀ id ∈ visited, ∃ operator, a.get? id = some operator ∧
    ∀ o ∈ operator.operands, o ∈ visited ∨ o ∈ stack

/-- Passing over an id that has been visited keeps the walk going. -/
theorem Walking.skip {stack visited : List NodeId} (h : a.Walking root (id :: stack) visited)
    (hid : id ∈ visited) : a.Walking root stack visited := by
  have hdrop : ∀ x, x ∈ visited ∨ x ∈ id :: stack → x ∈ visited ∨ x ∈ stack := by
    rintro x (hx | hx)
    · exact .inl hx
    · rcases List.mem_cons.1 hx with rfl | hx
      exacts [.inl hid, .inr hx]
  refine ⟨hdrop _ h.rooted, fun x hx => ?_⟩
  obtain ⟨operator, hget, hops⟩ := h.closed x hx
  exact ⟨operator, hget, fun o ho => hdrop o (hops o ho)⟩

/-- Visiting an owned id puts its operands on the stack. -/
theorem Walking.visit {stack visited : List NodeId} {operator : Operator K N NodeId}
    (h : a.Walking root (id :: stack) visited) (hget : a.get? id = some operator) :
    a.Walking root (operator.operands ++ stack) (id :: visited) := by
  have hmove : ∀ x, x ∈ visited ∨ x ∈ id :: stack →
      x ∈ id :: visited ∨ x ∈ operator.operands ++ stack := by
    rintro x (hx | hx)
    · exact .inl (List.mem_cons_of_mem _ hx)
    · rcases List.mem_cons.1 hx with rfl | hx
      exacts [.inl List.mem_cons_self, .inr (List.mem_append_right _ hx)]
  refine ⟨hmove _ h.rooted, fun x hx => ?_⟩
  rcases List.mem_cons.1 hx with rfl | hx
  · exact ⟨operator, hget, fun o ho => .inr (List.mem_append_left _ ho)⟩
  · obtain ⟨op, hop, hops⟩ := h.closed x hx
    exact ⟨op, hop, fun o ho => hmove o (hops o ho)⟩

/-- A walk that does not stop at a foreign id ends with an empty stack. -/
theorem visit_walking {fuel : Nat} {stack visited ids : List NodeId}
    (h : a.Walking root stack visited) (hv : a.visit fuel stack visited = some (.ok ids)) :
    a.Walking root [] ids.reverse := by
  fun_induction a.visit fuel stack visited with
  | case1 => cases hv
  | case2 =>
    cases hv
    simpa using h
  | case3 => cases hv
  | case4 fuel id stack visited operator hget hmem ih => exact ih (h.skip (by simpa using hmem)) hv
  | case5 fuel id stack visited operator hget hmem ih => exact ih (h.visit hget) hv

/-- Every step takes an id from the stack, and puts operands on it that were still pending: so a
walk ends. -/
theorem isSome_visit {fuel : Nat} {stack visited : List NodeId}
    (hfuel : stack.length + a.pending visited < fuel) :
    (a.visit fuel stack visited).isSome := by
  fun_induction a.visit fuel stack visited with
  | case1 => omega
  | case2 => rfl
  | case3 => rfl
  | case4 fuel id stack visited operator hget hmem ih =>
    rw [List.length_cons] at hfuel
    exact ih (by omega)
  | case5 fuel id stack visited operator hget hmem ih =>
    have hmem : id ∉ visited := by simpa using hmem
    have hids : id ∈ a.ids := mem_ids_iff.2 (hget ▸ rfl)
    have hpending := pending_cons hids hmem
    have harity : a.arity id = operator.operands.length := by simp [arity, hget]
    rw [List.length_cons] at hfuel
    refine ih ?_
    rw [List.length_append]
    omega

/-- **The walk from a root ends within its bound.** -/
theorem visit_eq_subtree (a : Arena K N T) (root : NodeId) :
    a.visit (a.edgeCount + 2) [root] [] = some (a.subtree root) := by
  have hsome : (a.visit (a.edgeCount + 2) [root] []).isSome := by
    refine isSome_visit ?_
    rw [pending_nil, List.length_singleton]
    omega
  obtain ⟨result, hresult⟩ := Option.isSome_iff_exists.1 hsome
  rw [subtree, hresult]
  rfl

/-- **A walk that returns has listed everything reachable from its root, and all of it is
owned.** -/
theorem subtree_reaches {ids : List NodeId} (h : a.subtree root = .ok ids)
    (hid : a.Reaches root id) : id ∈ ids ∧ (a.get? id).isSome := by
  have hstart : a.Walking root [root] [] := ⟨.inr (by simp), by simp⟩
  have hwalk : a.Walking root [] ids.reverse :=
    visit_walking hstart (by rw [visit_eq_subtree, h])
  have hmem : id ∈ ids.reverse := by
    induction hid with
    | root => exact hwalk.rooted.resolve_right List.not_mem_nil
    | operand _ hget ho ih =>
      obtain ⟨operator, hop, hops⟩ := hwalk.closed _ ih
      rw [hget] at hop
      cases hop
      exact (hops _ ho).resolve_right List.not_mem_nil
  obtain ⟨operator, hget, -⟩ := hwalk.closed id hmem
  exact ⟨List.mem_reverse.1 hmem, hget ▸ rfl⟩

/-- A walk lists reachable ids, and stops only at a reachable id that is foreign. -/
theorem reaches_visit {stack : List NodeId} (fuel : Nat) (visited : List NodeId)
    (hstack : ∀ x ∈ stack, a.Reaches root x) (hvisited : ∀ x ∈ visited, a.Reaches root x) :
    match a.visit fuel stack visited with
    | none => True
    | some (.ok ids) => ∀ x ∈ ids, a.Reaches root x
    | some (.error id) => a.Reaches root id ∧ a.get? id = none := by
  fun_induction a.visit fuel stack visited with
  | case1 => trivial
  | case2 => simpa using hvisited
  | case3 fuel id stack visited hget => exact ⟨hstack id List.mem_cons_self, hget⟩
  | case4 fuel id stack visited operator hget hmem ih =>
    exact ih (List.forall_mem_cons.1 hstack).2 hvisited
  | case5 fuel id stack visited operator hget hmem ih =>
    obtain ⟨hid, hrest⟩ := List.forall_mem_cons.1 hstack
    refine ih (List.forall_mem_append.2 ⟨fun o ho => ?_, hrest⟩)
      (List.forall_mem_cons.2 ⟨hid, hvisited⟩)
    exact .operand hid hget ho

/-- A walk returns if everything reachable from its root is owned. -/
theorem exists_subtree (h : ∀ id, a.Reaches root id → (a.get? id).isSome) :
    ∃ ids, a.subtree root = .ok ids ∧ ∀ id ∈ ids, a.Reaches root id := by
  have hroot : ∀ id ∈ [root], a.Reaches root id := List.forall_mem_singleton.2 .root
  have hreaches := reaches_visit (a.edgeCount + 2) [] hroot (by simp)
  rw [visit_eq_subtree] at hreaches
  cases hsub : a.subtree root with
  | ok ids =>
    rw [hsub] at hreaches
    exact ⟨ids, rfl, hreaches⟩
  | error id =>
    rw [hsub] at hreaches
    obtain ⟨hid, hnone⟩ := hreaches
    have howned := h id hid
    rw [hnone] at howned
    cases howned

/-- Leaving out repetitions keeps the members. -/
theorem mem_distinct {β : Type} [DecidableEq β] {x : β} {l : List β} :
    ∀ {seen : List β}, x ∈ distinct seen l ↔ x ∈ l ∧ x ∉ seen := by
  induction l with
  | nil => simp [distinct]
  | cons y rest ih =>
    intro seen
    rw [distinct]
    split
    · next hy =>
      rw [ih, List.mem_cons]
      constructor
      · rintro ⟨hx, hs⟩
        exact ⟨.inr hx, hs⟩
      · rintro ⟨rfl | hx, hs⟩
        exacts [absurd hy hs, ⟨hx, hs⟩]
    · next hy =>
      rw [List.mem_cons, ih, List.mem_cons, List.mem_cons]
      by_cases hxy : x = y
      · simp [hxy, hy]
      · simp [hxy]

/-- The rules called from an operator are called by operators reachable from it. -/
theorem mem_calledNames [DecidableEq N] {names : List N} {operator : Operator K N NodeId} {name : N}
    (h : a.calledNames root = .ok names) (hid : a.Reaches root id)
    (hget : a.get? id = some operator) (hname : operator.callee? = some name) : name ∈ names := by
  unfold calledNames at h
  split at h
  · cases h
  · next ids hids =>
    cases h
    refine mem_distinct.2 ⟨List.mem_filterMap.2 ⟨id, (subtree_reaches hids hid).1, ?_⟩, by simp⟩
    simp [hget, hname]

end Arena

/-! ## Closed grammars -/

/-- What `build` accepts has a rule for the start symbol, reaches no foreign operator, and calls no
rule that is not there. -/
theorem Arena.ruleError?_eq_none [DecidableEq N] {a : Arena K N T} {start : N}
    {rules : List (Rule N)} (h : a.ruleError? start rules = none) :
    start ∈ rules.map (·.head) ∧ ∀ rule ∈ rules, ∀ id, a.Reaches rule.body id →
      ∃ operator, a.get? id = some operator ∧
        ∀ name, operator.callee? = some name → name ∈ rules.map (·.head) := by
  unfold Arena.ruleError? at h
  dsimp only at h
  split at h
  · cases h
  split at h
  · cases h
  next hstart =>
  split at h
  · cases h
  next hforeign =>
  refine ⟨by simpa using hstart, fun rule hrule id hid => ?_⟩
  have hroot := List.find?_eq_none.1 hforeign rule hrule
  cases hsub : a.subtree rule.body with
  | error o => simp [Rule.reachesForeign, hsub] at hroot
  | ok ids =>
    obtain ⟨operator, hget⟩ := Option.isSome_iff_exists.1 (subtree_reaches hsub hid).2
    refine ⟨operator, hget, fun name hname => ?_⟩
    have hcalled : a.calledNames rule.body = .ok (distinct []
        (ids.filterMap fun id => (a.get? id).bind Operator.callee?)) := by
      simp [calledNames, hsub]
    have hundefined := List.findSome?_eq_none_iff.1 h rule hrule
    rw [Rule.undefinedName?, hcalled, Option.map_eq_none_iff, List.find?_eq_none] at hundefined
    simpa using hundefined name (mem_calledNames hcalled hid hget hname)

/-- No member repeats an earlier one if all are distinct and have not been seen. -/
theorem firstRepeated?_eq_none {β : Type} [DecidableEq β] {l : List β} :
    ∀ {seen : List β}, firstRepeated? seen l = none ↔ l.Nodup ∧ ∀ x ∈ l, x ∉ seen := by
  induction l with
  | nil => simp [firstRepeated?]
  | cons x rest ih =>
    intro seen
    rw [firstRepeated?]
    split
    · next hx => simp [hx]
    · next hx =>
      rw [ih, List.nodup_cons, List.forall_mem_cons]
      simp only [List.mem_cons, not_or]
      constructor
      · rintro ⟨hnodup, hrest⟩
        exact ⟨⟨fun hmem => (hrest x hmem).1 rfl, hnodup⟩, hx, fun y hy => (hrest y hy).2⟩
      · rintro ⟨⟨hmem, hnodup⟩, -, hrest⟩
        exact ⟨hnodup, fun y hy => ⟨fun hyx => hmem (hyx ▸ hy), hrest y hy⟩⟩

/-- **What `build` accepts**: heads are distinct, the start symbol is one of them, and everything
reachable from the rules is owned and calls no other rules. -/
theorem Arena.ruleError?_eq_none_iff [DecidableEq N] {a : Arena K N T} {start : N}
    {rules : List (Rule N)} :
    a.ruleError? start rules = none ↔
      (rules.map (·.head)).Nodup ∧ start ∈ rules.map (·.head) ∧
        ∀ rule ∈ rules, ∀ id, a.Reaches rule.body id → ∃ operator, a.get? id = some operator ∧
          ∀ name, operator.callee? = some name → name ∈ rules.map (·.head) := by
  constructor
  · intro h
    refine ⟨?_, ruleError?_eq_none h⟩
    unfold Arena.ruleError? at h
    dsimp only at h
    split at h
    · cases h
    · next hheads => exact (firstRepeated?_eq_none.1 hheads).1
  · rintro ⟨hnodup, hstart, hclosed⟩
    have hheads : firstRepeated? [] (rules.map (·.head)) = none :=
      firstRepeated?_eq_none.2 ⟨hnodup, by simp⟩
    have hwalk : ∀ rule ∈ rules, ∃ ids, a.subtree rule.body = .ok ids ∧
        ∀ id ∈ ids, a.Reaches rule.body id := by
      intro rule hrule
      refine exists_subtree fun id hid => ?_
      obtain ⟨operator, hget, -⟩ := hclosed rule hrule id hid
      exact hget ▸ rfl
    have hforeign : rules.find? (·.reachesForeign a) = none := by
      refine List.find?_eq_none.2 fun rule hrule => ?_
      obtain ⟨ids, hids, -⟩ := hwalk rule hrule
      simp [Rule.reachesForeign, hids]
    unfold Arena.ruleError?
    simp only [hheads, hforeign, hstart, not_true_eq_false, if_false]
    refine List.findSome?_eq_none_iff.2 fun rule hrule => ?_
    obtain ⟨ids, hids, hreaches⟩ := hwalk rule hrule
    rw [Rule.undefinedName?, calledNames, hids, Option.map_eq_none_iff, List.find?_eq_none]
    intro name hname
    obtain ⟨id, hid, hcallee⟩ := List.mem_filterMap.1 (mem_distinct.1 hname).1
    obtain ⟨operator, hget, hnames⟩ := hclosed rule hrule id (hreaches id hid)
    rw [hget, Option.bind_some] at hcallee
    simpa using hnames name hcallee

/-- A grammar comes from a builder by adding a non-terminal that calls the start symbol. -/
theorem Builder.build_eq_ok [DecidableEq N] {b : Builder K N T} {start : N} {rules : List (Rule N)}
    {g : Grammar K N T} (h : b.build start rules = .ok g) :
    b.arena.ruleError? start rules = none ∧ g.rules = rules ∧ g.start = start ∧
      g.startNode = b.arena.idAt b.arena.size ∧
      g.arena = (b.arena.push (.nonTerminal start) (b.registry.forName start)).2 := by
  unfold Builder.build at h
  split at h
  · cases h
  · next hnone =>
    cases h
    exact ⟨hnone, rfl, rfl, rfl, rfl⟩

/-- The operators that take part in parses: the start node and what is reachable from the body of
a rule. -/
def Grammar.Live (g : Grammar K N T) (id : NodeId) : Prop :=
  id = g.startNode ∨ ∃ rule ∈ g.rules, g.arena.Reaches rule.body id

section Built

variable [DecidableEq N] {b : Builder K N T} {start : N} {rules : List (Rule N)}
  {g : Grammar K N T}

/-- The arena of a grammar is ordered. -/
theorem Grammar.ordered (hb : b.Made) (hg : b.build start rules = .ok g) : g.arena.Ordered := by
  obtain ⟨-, -, -, -, harena⟩ := Builder.build_eq_ok hg
  rw [harena]
  exact hb.ordered.push (by simp [Operator.operands])

/-- The start node calls the start symbol. -/
theorem Grammar.get?_startNode (hg : b.build start rules = .ok g) :
    g.arena.get? g.startNode = some (.nonTerminal g.start) := by
  obtain ⟨-, -, hstart, hnode, harena⟩ := Builder.build_eq_ok hg
  rw [harena, hnode, hstart, Arena.get?_push, if_pos rfl]

/-- A name with a body has a rule. -/
theorem Grammar.mem_heads_of_isSome_body? {name : N} (h : (g.body? name).isSome) :
    name ∈ g.rules.map (·.head) := by
  rw [Grammar.body?, Option.isSome_map, List.find?_isSome] at h
  obtain ⟨rule, hrule, hhead⟩ := h
  exact List.mem_map.2 ⟨rule, hrule, by simpa using hhead⟩

/-- A name with a rule has a body, and the body takes part in parses. -/
theorem Grammar.body?_of_mem_heads {name : N} (h : name ∈ g.rules.map (·.head)) :
    ∃ body, g.body? name = some body ∧ g.Live body := by
  have hfind : (g.rules.find? (·.head = name)).isSome := by
    obtain ⟨rule, hrule, rfl⟩ := List.mem_map.1 h
    exact List.find?_isSome.2 ⟨rule, hrule, by simp⟩
  obtain ⟨rule, hrule⟩ := Option.isSome_iff_exists.1 hfind
  refine ⟨rule.body, by simp [Grammar.body?, hrule], ?_⟩
  exact .inr ⟨rule, List.mem_of_find?_eq_some hrule, .root⟩

/-- **An operator that takes part in parses is owned, its operands take part too, and a rule that
it calls is there.** -/
theorem Grammar.Live.closed {id : NodeId} (hg : b.build start rules = .ok g) (hid : g.Live id) :
    ∃ operator, g.arena.get? id = some operator ∧ (∀ o ∈ operator.operands, g.Live o) ∧
      ∀ name, operator.callee? = some name → ∃ body, g.body? name = some body ∧ g.Live body := by
  obtain ⟨hnone, hrules, hstart, hnode, harena⟩ := Builder.build_eq_ok hg
  obtain ⟨hhead, hreach⟩ := Arena.ruleError?_eq_none hnone
  rcases hid with rfl | ⟨rule, hrule, hid⟩
  · refine ⟨_, get?_startNode hg, by simp [Operator.operands], fun name hname => ?_⟩
    cases hname
    exact body?_of_mem_heads (by rw [hrules, hstart]; exact hhead)
  · have hrule' : rule ∈ rules := hrules ▸ hrule
    -- The rules were checked before the start node was made, which no rule reaches.
    have hold : b.arena.Reaches rule.body id := by
      induction hid with
      | root => exact .root
      | operand _ hget ho ih =>
        obtain ⟨operator, hop, -⟩ := hreach rule hrule' _ ih
        have hpush := Arena.get?_push_of_eq_some hop (.nonTerminal start)
          (b.registry.forName start)
        rw [← harena, hget] at hpush
        cases hpush
        exact .operand ih hop ho
    obtain ⟨operator, hop, hnames⟩ := hreach rule hrule' id hold
    have hget : g.arena.get? id = some operator := by
      rw [harena]
      exact Arena.get?_push_of_eq_some hop _ _
    refine ⟨operator, hget, fun o ho => .inr ⟨rule, hrule, .operand hid hget ho⟩, ?_⟩
    exact fun name hname => body?_of_mem_heads (hrules ▸ hnames name hname)

end Built

end Packrat
