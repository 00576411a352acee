import Packrat.Proofs.Resolution

/-!
# How lowering lays out an expression

Lowering puts the operators of an expression behind those that are in the builder, operands first.
Whether it succeeds or not, nothing else about the builder changes (`Builder.Grows`), so an id that
is returned for an operand still denotes the same tree after its siblings have been made
(`Arena.occurring_of_unfolding`).

`Arena.occurrences` are the ids of the operators of a tree, each as often as the tree has it. If
lowering succeeds, the ids of the builder are those it had before and then the occurrences of what
was lowered (`Builder.Lays`): every operator that is written has become a new one of its own, and
nothing else has been made. `Lowering.lower_steps` takes the cases of an expression together, so the
rest goes by induction on operands.
-/

namespace Packrat

variable {K N T A B ε : Type}

/-! ## Occurrences in a tree -/

namespace Arena

/-- The ids of the operators of the tree at an id, operands first, down to the given depth. -/
def occurring (a : Arena K N T) : (depth : Nat) → NodeId → List NodeId
  | 0, _ => []
  | depth + 1, id =>
    match a.get? id with
    | none => []
    | some operator => operator.operands.flatMap (a.occurring depth) ++ [id]

/-- The ids of the operators of the tree at an id, operands first, each as often as it occurs. -/
def occurrences (a : Arena K N T) (id : NodeId) : List NodeId := a.occurring a.size id

variable {a a' : Arena K N T} {id : NodeId} {e : Expr K N} {depth depth' : Nat}

/-- **A tree and its occurrences stay the same in an arena with more operators**, at every depth
that is enough for the tree. -/
theorem occurring_of_unfolding (h : a.unfolding depth id = some e)
    (ha : ∀ ⦃id op⦄, a.get? id = some op → a'.get? id = some op) (hle : depth ≤ depth') :
    a'.unfolding depth' id = some e ∧ a'.occurring depth' id = a.occurring depth id := by
  induction depth generalizing id e depth' with
  | zero => cases h
  | succ depth ih =>
    obtain ⟨depth', rfl⟩ := Nat.exists_eq_succ_of_ne_zero (by omega : depth' ≠ 0)
    obtain ⟨op, hop, hrel⟩ := unfolding_succ_eq_some.1 h
    have hle' : depth ≤ depth' := Nat.le_of_succ_le_succ hle
    refine ⟨unfolding_succ_eq_some.2 ⟨op, ha hop, ?_⟩, ?_⟩
    · exact hrel.imp (fun _ _ h => h) fun o _ item _ ho => (ih ho hle').1
    · rw [occurring, occurring, hop, ha hop]
      refine congrArg (· ++ [id]) (List.flatMap_congr fun o ho => ?_)
      obtain ⟨item, -, hitem⟩ := hrel.flip.exists_of_mem ho
      exact (ih hitem hle').2

/-- A new operator has the next id. -/
theorem ids_push (a : Arena K N T) (op : Operator K N NodeId) (action : Option (Action K T)) :
    (a.push op action).2.ids = a.ids ++ [a.idAt a.size] := by
  have hids : ∀ n, (List.range n).map (a.push op action).2.idAt = (List.range n).map a.idAt :=
    fun n => rfl
  have hsize : (a.push op action).2.size = a.size + 1 := Array.size_push _
  rw [ids, hsize, hids, List.range_succ, List.map_append]
  rfl

end Arena

/-! ## Builders that grow -/

namespace Builder

variable [DecidableEq K] [DecidableEq N]

/-- `b'` has the operators of `b` and others behind them, each with the action that the registry has
for it, and is the same otherwise. -/
structure Grows (b b' : Builder K N T) : Prop where
  id : b'.arena.id = b.arena.id
  registry : b'.registry = b.registry
  nodes : ∃ added : List (Operator K N NodeId),
    b'.arena.operators.toList = b.arena.operators.toList ++ added ∧
      b'.arena.actions.toList = b.arena.actions.toList ++ added.map fun op => (b.nodeOf op).action

variable {b b' b'' : Builder K N T} {id : NodeId} {op : Operator K N NodeId}

theorem Grows.refl (b : Builder K N T) : b.Grows b := ⟨rfl, rfl, [], by simp⟩

theorem Grows.trans (h : b.Grows b') (h' : b'.Grows b'') : b.Grows b'' := by
  obtain ⟨added, hadded, hactions⟩ := h.nodes
  obtain ⟨more, hmore, hactions'⟩ := h'.nodes
  have hnodeOf : (b'.nodeOf : Operator K N NodeId → Node K N T) = b.nodeOf := by
    funext op
    rw [nodeOf, nodeOf, h.registry]
  refine ⟨h'.id.trans h.id, h'.registry.trans h.registry, added ++ more, ?_, ?_⟩
  · rw [hmore, hadded, List.append_assoc]
  · rw [hactions', hactions, hnodeOf, List.map_append, List.append_assoc]

/-- An id keeps denoting the same operator and action. -/
theorem Grows.node? (h : b.Grows b') {node : Node K N T} (hnode : b.arena.node? id = some node) :
    b'.arena.node? id = some node := by
  obtain ⟨added, hadded, hactions⟩ := h.nodes
  obtain ⟨hop, haction⟩ := Arena.node?_eq_some_iff.1 hnode
  obtain ⟨hid, hlt⟩ := Arena.owned_of_get? hop
  have hlt' : id.index < b.arena.actions.size := b.arena.aligned ▸ hlt
  have hid' : id.arena = b'.arena.id := hid.trans h.id.symm
  rw [Arena.node?_eq_some_iff, ← hop, ← haction]
  refine ⟨?_, ?_⟩
  · rw [Arena.get?, Arena.get?, if_pos hid, if_pos hid', ← Array.getElem?_toList,
      ← Array.getElem?_toList, hadded, List.getElem?_append_left hlt]
  · rw [Arena.action?, Arena.action?, if_pos hid, if_pos hid', ← Array.getElem?_toList,
      ← Array.getElem?_toList, hactions, List.getElem?_append_left hlt']

/-- An id keeps denoting the same operator. -/
theorem Grows.get? (h : b.Grows b') (hop : b.arena.get? id = some op) :
    b'.arena.get? id = some op :=
  (Arena.node?_eq_some_iff.1 (h.node? (Arena.node?_of_get? hop))).1

/-- There are no fewer operators. -/
theorem Grows.size_le (h : b.Grows b') : b.arena.size ≤ b'.arena.size := by
  obtain ⟨added, hadded, -⟩ := h.nodes
  have hlength := congrArg List.length hadded
  rw [List.length_append, Array.length_toList, Array.length_toList] at hlength
  exact Nat.le.intro hlength.symm

/-- A builder that makes an operator pushes its node. -/
theorem add_eq_ok (h : b.add op = (.ok id, b')) :
    id = b.arena.idAt b.arena.size ∧
      b' = { b with arena := (b.arena.push op (b.nodeOf op).action).2 } := by
  unfold add addWith at h
  split at h
  · cases h
    exact ⟨rfl, rfl⟩
  · cases h

/-- A builder that makes an operator grows. -/
theorem grows_add (h : b.add op = (.ok id, b')) : b.Grows b' := by
  obtain ⟨-, rfl⟩ := add_eq_ok h
  exact ⟨rfl, rfl, [op], Array.toList_push, Array.toList_push⟩

/-- To make an operator fails without a trace. -/
theorem add_eq_error {e : GrammarError K N} (h : b.add op = (.error e, b')) : b' = b := by
  unfold add addWith at h
  split at h
  · cases h
  · cases h
    rfl

/-- The trees of expressions stand at the ids, one by one, and their occurrences are what `b'` has
more than `b`. -/
structure Lays (b b' : Builder K N T) (items : List (Expr K N)) (ids : List NodeId) : Prop where
  trees : List.Forall₂ (fun id item => b'.arena.unfold? id = some item) ids items
  ids : b'.arena.ids = b.arena.ids ++ ids.flatMap b'.arena.occurrences

variable {items : List (Expr K N)} {ids : List NodeId}

omit [DecidableEq K] [DecidableEq N] in
theorem Lays.nil (b : Builder K N T) : b.Lays b [] [] := ⟨.nil, by simp⟩

/-- Trees stay, with their occurrences, in a builder that has grown. -/
theorem Grows.trees (h : b.Grows b')
    (htrees : List.Forall₂ (fun id item => b.arena.unfold? id = some item) ids items) :
    List.Forall₂ (fun id item => b'.arena.unfold? id = some item) ids items ∧
      ids.flatMap b'.arena.occurrences = ids.flatMap b.arena.occurrences := by
  have hsame : ∀ {id : NodeId} {item : Expr K N}, b.arena.unfold? id = some item →
      b'.arena.unfold? id = some item ∧ b'.arena.occurrences id = b.arena.occurrences id :=
    fun hitem => Arena.occurring_of_unfolding hitem (fun _ _ => h.get?) h.size_le
  refine ⟨htrees.imp fun _ _ hitem => (hsame hitem).1, List.flatMap_congr fun id hid => ?_⟩
  obtain ⟨item, -, hitem⟩ := exists_of_forall₂_mem htrees.flip hid
  exact (hsame hitem).2

/-- Expressions that are laid out one after the other. -/
theorem Lays.append {more : List (Expr K N)} {others : List NodeId} (h : b.Lays b' items ids)
    (hgrows : b'.Grows b'') (h' : b'.Lays b'' more others) :
    b.Lays b'' (items ++ more) (ids ++ others) := by
  obtain ⟨htrees, hsame⟩ := hgrows.trees h.trees
  refine ⟨List.rel_append htrees h'.trees, ?_⟩
  rw [h'.ids, h.ids, List.flatMap_append, hsame, List.append_assoc]

/-- An operator is laid out behind its operands. -/
theorem Lays.add {e : Expr K N} (h : b.Lays b' e.operator.operands op.operands)
    (hrel : ∀ {R : NodeId → Expr K N → Prop}, List.Forall₂ R op.operands e.operator.operands →
      Operator.Rel Eq R op e.operator)
    (hadd : b'.add op = (.ok id, b'')) : b.Lays b'' [e] [id] := by
  have hgrows := grows_add hadd
  obtain ⟨rfl, rfl⟩ := add_eq_ok hadd
  have hget : (b'.arena.push op (b'.nodeOf op).action).2.get? (b'.arena.idAt b'.arena.size) =
      some op := by
    rw [Arena.get?_push, if_pos rfl]
  have hsize : (b'.arena.push op (b'.nodeOf op).action).2.size = b'.arena.size + 1 :=
    Array.size_push _
  -- The operands have their trees at the depth of the builder before.
  have hold : ∀ {o : NodeId} {item : Expr K N}, b'.arena.unfold? o = some item →
      (b'.arena.push op (b'.nodeOf op).action).2.unfolding b'.arena.size o = some item ∧
        (b'.arena.push op (b'.nodeOf op).action).2.occurring b'.arena.size o =
          b'.arena.occurrences o :=
    fun hitem => Arena.occurring_of_unfolding hitem (fun _ _ => hgrows.get?) (Nat.le_refl _)
  refine ⟨.cons ?_ .nil, ?_⟩
  · show Arena.unfolding _ (Arena.size _) _ = _
    rw [hsize]
    exact Arena.unfolding_succ_eq_some.2
      ⟨op, hget, hrel (h.trees.imp fun _ _ hitem => (hold hitem).1)⟩
  · have hoperands : op.operands.flatMap
        ((b'.arena.push op (b'.nodeOf op).action).2.occurring b'.arena.size) =
          op.operands.flatMap b'.arena.occurrences := by
      refine List.flatMap_congr fun o ho => ?_
      obtain ⟨item, -, hitem⟩ := exists_of_forall₂_mem h.trees.flip ho
      exact (hold hitem).2
    rw [List.flatMap_singleton, Arena.occurrences, hsize, Arena.occurring, hget]
    dsimp only
    rw [hoperands, Arena.ids_push, h.ids, List.append_assoc]

end Builder

/-! ## Lowering, one operator at a time -/

namespace Operator

variable {ι κ : Type}

/-- Operators are related if they are once their tags and names are marked as resolved. -/
theorem Rel.of_translate_ok {R : ι → κ → Prop} {op : Operator K N ι} {op' : Operator K N κ}
    (h : Rel Eq R (op.translate (Except.ok : K → Except ε K) (Except.ok : N → Except ε N))
      (op'.translate Except.ok Except.ok)) : Rel Eq R op op' := by
  cases op <;> cases op' <;> cases h <;> constructor <;> simp_all

end Operator

namespace Lowering

variable [DecidableEq K] [DecidableEq N] {l : Lowering A B K N ε} {b b' : Builder K N T}
  {id : NodeId}

/-- An operator is made, or the builder stays as it was. -/
theorem make_cases (l : Lowering A B K N ε) (op : Operator K N NodeId) (b : Builder K N T) :
    (∃ err, l.make op b = (.error err, b)) ∨
      ∃ id b', b.add op = (.ok id, b') ∧ l.make op b = (.ok id, b') := by
  unfold make
  split
  · next herror =>
    cases Builder.add_eq_error herror
    exact .inl ⟨_, rfl⟩
  · next id b' hadd => exact .inr ⟨id, b', hadd, rfl⟩

/-- How an expression is lowered: its operands are lowered, and then the operator is made that its
own operator is resolved to. It stops before if an operand is refused, or its own tag or name. -/
def Steps (l : Lowering A B K N ε) (e : Expr A B) (b : Builder K N T) : Prop :=
  (∃ err, l.lower e b = (.error err, (l.lowerAll e.operator.operands b).2)) ∨
    ∃ b' op, l.lowerAll e.operator.operands b = (.ok op.operands, b') ∧
      l.lower e b = l.make op b' ∧
      ∀ {R : NodeId → Expr A B → Prop}, List.Forall₂ R op.operands e.operator.operands →
        Operator.Rel Eq R (op.translate (Except.ok : K → Except ε K) (Except.ok : N → Except ε N))
          (e.operator.translate l.tag l.name)

/-- An expression with one operand is lowered in such steps. -/
theorem steps_of_operand {e item : Expr A B} (op : NodeId → Operator K N NodeId)
    (hitem : e.operator.operands = [item]) (hop : ∀ id, (op id).operands = [id])
    (hlower : l.lower e b = match l.lower item b with
      | (.error err, b) => (.error err, b)
      | (.ok id, b) => l.make (op id) b)
    (hrel : ∀ {R : NodeId → Expr A B → Prop} {id : NodeId}, R id item → Operator.Rel Eq R
      ((op id).translate (Except.ok : K → Except ε K) (Except.ok : N → Except ε N))
      (e.operator.translate l.tag l.name)) : l.Steps e b := by
  unfold Steps
  rw [hlower, hitem, lowerAll]
  rcases l.lower item b with ⟨err | id, b'⟩
  · exact .inl ⟨err, rfl⟩
  · refine .inr ⟨b', op id, by rw [hop]; rfl, rfl, fun hR => hrel ?_⟩
    rw [hop] at hR
    exact (List.forall₂_cons.1 hR).1

/-- An expression with a list of operands is lowered in such steps. -/
theorem steps_of_operands {e : Expr A B} (op : List NodeId → Operator K N NodeId)
    (hop : ∀ ids, (op ids).operands = ids)
    (hlower : l.lower e b = match l.lowerAll e.operator.operands b with
      | (.error err, b) => (.error err, b)
      | (.ok ids, b) => l.make (op ids) b)
    (hrel : ∀ {R : NodeId → Expr A B → Prop} {ids : List NodeId},
      List.Forall₂ R ids e.operator.operands → Operator.Rel Eq R
        ((op ids).translate (Except.ok : K → Except ε K) (Except.ok : N → Except ε N))
        (e.operator.translate l.tag l.name)) : l.Steps e b := by
  unfold Steps
  rw [hlower]
  rcases l.lowerAll e.operator.operands b with ⟨err | ids, b'⟩
  · exact .inl ⟨err, rfl⟩
  · refine .inr ⟨b', op ids, by rw [hop], rfl, fun hR => hrel ?_⟩
    rwa [hop] at hR

/-- **Lowering an expression lowers its operands**, and then makes its operator. -/
theorem lower_steps (l : Lowering A B K N ε) (e : Expr A B) (b : Builder K N T) :
    l.Steps e b := by
  cases e with
  | terminal tag =>
    unfold Steps
    rw [lower]
    cases htag : l.tag tag with
    | error err => exact .inl ⟨err, rfl⟩
    | ok tag' =>
      refine .inr ⟨b, .terminal tag', rfl, rfl, fun _ => ?_⟩
      simp only [Expr.operator, Operator.translate, htag]
      exact .terminal _
  | nonTerminal name =>
    unfold Steps
    rw [lower]
    cases hname : l.name name with
    | error err => exact .inl ⟨err, rfl⟩
    | ok name' =>
      refine .inr ⟨b, .nonTerminal name', rfl, rfl, fun _ => ?_⟩
      simp only [Expr.operator, Operator.translate, hname]
      exact .nonTerminal rfl
  | emptyString => exact .inr ⟨b, .emptyString, rfl, rfl, fun _ => .emptyString⟩
  | sequence items => exact steps_of_operands .sequence (fun _ => rfl) rfl .sequence
  | orderedChoice items => exact steps_of_operands .orderedChoice (fun _ => rfl) rfl .orderedChoice
  | optional item => exact steps_of_operand .optional rfl (fun _ => rfl) rfl .optional
  | zeroOrMore item => exact steps_of_operand .zeroOrMore rfl (fun _ => rfl) rfl .zeroOrMore
  | oneOrMore item => exact steps_of_operand .oneOrMore rfl (fun _ => rfl) rfl .oneOrMore
  | andPredicate item => exact steps_of_operand .andPredicate rfl (fun _ => rfl) rfl .andPredicate
  | notPredicate item => exact steps_of_operand .notPredicate rfl (fun _ => rfl) rfl .notPredicate

/-! ## What is left of the builder -/

/-- Lowering several expressions lets the builder grow if lowering each of them does. -/
theorem grows_lowerAll {items : List (Expr A B)}
    (h : ∀ item ∈ items, ∀ b : Builder K N T, b.Grows (l.lower item b).2) (b : Builder K N T) :
    b.Grows (l.lowerAll items b).2 := by
  induction items generalizing b with
  | nil => exact .refl b
  | cons item rest ih =>
    obtain ⟨hitem, hrest⟩ := List.forall_mem_cons.1 h
    have hfirst := hitem b
    rw [lowerAll]
    rcases hlower : l.lower item b with ⟨err | id, b'⟩ <;> rw [hlower] at hfirst <;> dsimp only
    · exact hfirst
    · have hothers := hfirst.trans (ih hrest b')
      rcases hlowers : l.lowerAll rest b' with ⟨err | ids, b''⟩ <;> rw [hlowers] at hothers
      · exact hothers
      · exact hothers

/-- **Lowering an expression lets the builder grow**, whether it succeeds or not. -/
theorem grows_lower (l : Lowering A B K N ε) (e : Expr A B) (b : Builder K N T) :
    b.Grows (l.lower e b).2 := by
  induction e using Expr.operandInduction generalizing b with
  | step e ih =>
    have hoperands := grows_lowerAll ih b
    rcases l.lower_steps e b with ⟨err, herror⟩ | ⟨b', op, hall, hmake, -⟩
    · rw [herror]
      exact hoperands
    · rw [hall] at hoperands
      rw [hmake]
      rcases l.make_cases op b' with ⟨err, herror⟩ | ⟨id, b'', hadd, hok⟩
      · rw [herror]
        exact hoperands
      · rw [hok]
        exact hoperands.trans (Builder.grows_add hadd)

/-- Lowering rules lets the builder grow, whether it succeeds or not. -/
theorem grows_lowerRules (l : Lowering A B K N ε) (rules : List (B × Expr A B))
    (b : Builder K N T) : b.Grows (l.lowerRules rules b).2 := by
  induction rules generalizing b with
  | nil => exact .refl b
  | cons rule rest ih =>
    have hbody := l.grows_lower rule.2 b
    rw [lowerRules]
    split
    · exact .refl b
    rcases hlower : l.lower rule.2 b with ⟨err | id, b'⟩ <;> rw [hlower] at hbody <;> dsimp only
    · exact hbody
    · have hothers := hbody.trans (ih b')
      rcases hlowers : l.lowerRules rest b' with ⟨err | rules, b''⟩ <;> rw [hlowers] at hothers
      · exact hothers
      · exact hothers

/-! ## What is made -/

/-- Several expressions are laid out if each of them is. -/
theorem lays_lowerAll {items : List (Expr K N)} {ids : List NodeId}
    (hitems : ∀ item ∈ items, ∀ {b b' : Builder K N T} {id : NodeId},
      verbatim.lower item b = (.ok id, b') → b.Lays b' [item] [id])
    (h : verbatim.lowerAll items b = (.ok ids, b')) : b.Lays b' items ids := by
  induction items generalizing b ids with
  | nil =>
    cases h
    exact .nil _
  | cons item rest ih =>
    obtain ⟨hitem, hrest⟩ := List.forall_mem_cons.1 hitems
    rw [lowerAll] at h
    rcases hlower : verbatim.lower item b with ⟨err | id, b₁⟩ <;> rw [hlower] at h
    · cases h
    rcases hlowers : verbatim.lowerAll rest b₁ with ⟨err | others, b₂⟩ <;>
      simp only [hlowers] at h
    · cases h
    cases h
    have hgrows : b₁.Grows (verbatim.lowerAll rest b₁).2 :=
      grows_lowerAll (fun item _ => verbatim.grows_lower item) b₁
    rw [hlowers] at hgrows
    exact (hitem hlower).append hgrows (ih hrest hlowers)

/-- **An expression that is lowered is laid out.** -/
theorem lays_lower {e : Expr K N} (h : verbatim.lower e b = (.ok id, b')) : b.Lays b' [e] [id] := by
  induction e using Expr.operandInduction generalizing b b' id with
  | step e ih =>
    rcases verbatim.lower_steps e b with ⟨err, herror⟩ | ⟨b₁, op, hall, hmake, hrel⟩
    · cases herror.symm.trans h
    · rcases verbatim.make_cases op b₁ with ⟨err, herror⟩ | ⟨id', b₂, hadd, hok⟩
      · cases (hmake.trans herror).symm.trans h
      · cases (hmake.trans hok).symm.trans h
        exact (lays_lowerAll ih hall).add (fun hR => (hrel hR).of_translate_ok) hadd

/-- The bodies of rules that are lowered are laid out, under the heads that are given. -/
theorem lays_lowerRules {given : List (N × Expr K N)} {rules : List (Rule N)}
    (h : verbatim.lowerRules given b = (.ok rules, b')) :
    rules.map (·.head) = given.map (·.1) ∧
      b.Lays b' (given.map (·.2)) (rules.map (·.body)) := by
  induction given generalizing b rules with
  | nil =>
    cases h
    exact ⟨rfl, .nil _⟩
  | cons rule rest ih =>
    have hhead : (verbatim : Lowering K N K N _).name rule.1 = .ok rule.1 := rfl
    rw [lowerRules, hhead] at h
    rcases hlower : verbatim.lower rule.2 b with ⟨err | id, b₁⟩ <;> simp only [hlower] at h
    · cases h
    rcases hlowers : verbatim.lowerRules rest b₁ with ⟨err | others, b₂⟩ <;>
      simp only [hlowers] at h
    · cases h
    cases h
    obtain ⟨hheads, hlays⟩ := ih hlowers
    have hgrows := verbatim.grows_lowerRules rest b₁
    rw [hlowers] at hgrows
    exact ⟨congrArg (rule.1 :: ·) hheads, (lays_lower hlower).append hgrows hlays⟩

end Lowering

end Packrat
