import Mathlib.Data.List.Forall2
import Packrat.Peg.Expr
import Packrat.Proofs.Evaluation.Plain
import Packrat.Proofs.Unfolding

/-!
# What lowering an expression guarantees

Lowering only adds to a builder (`Builder.Extends`), and at the id that it returns the arena holds
the tree of the expression, each operator with the action that the registry has for it
(`Builder.Holds`). `Lowering.lower_holds` is the statement for one expression,
`Lowering.lowerRules_holds` the one for the rules of a grammar; both are about tags and names that
stand for themselves. What was lowered unfolds to the expression again (`Builder.Holds.unfolds`).

Operators can also be made one after the other, each from older ones (`Builder.extends_addAll`).
Every operator of such a builder has the action of the registry (`Builder.Uniform`), and where a
tree unfolds, it is held (`Builder.holds_of_unfolding`).

`Grammar.ofExprs` makes a grammar of rules that are given as expressions. Its builder has a history
and holds the bodies of the rules (`Grammar.ofExprs_made`), and its actions are those of the
registry (`Grammar.ofExprs_pureActions`).
-/

namespace Packrat

variable {K N T : Type}

/-! ## Larger builders -/

namespace Builder

variable [DecidableEq K] [DecidableEq N]

/-- The node that the builder makes of an operator. -/
def nodeOf (b : Builder K N T) (operator : Operator K N NodeId) : Node K N T :=
  ⟨operator, if operator.kind.isPredicate then none else b.registry.forOperator operator⟩

/-- `b'` comes from `b` by adding operators. -/
structure Extends (b b' : Builder K N T) : Prop where
  made : b.Made → b'.Made
  registry : b'.registry = b.registry
  node? : ∀ ⦃id node⦄, b.arena.node? id = some node → b'.arena.node? id = some node
  origin : ∀ ⦃id node⦄, b'.arena.node? id = some node →
    b.arena.node? id = some node ∨ ∃ operator, node = b.nodeOf operator

/-- The node of an operator is the same in a larger builder. -/
theorem Extends.nodeOf {b b' : Builder K N T} (h : b.Extends b')
    (operator : Operator K N NodeId) : b'.nodeOf operator = b.nodeOf operator := by
  rw [Builder.nodeOf, Builder.nodeOf, h.registry]

theorem Extends.refl (b : Builder K N T) : b.Extends b :=
  ⟨fun h => h, rfl, fun _ _ h => h, fun _ _ h => .inl h⟩

theorem Extends.trans {b b' b'' : Builder K N T} (h : b.Extends b') (h' : b'.Extends b'') :
    b.Extends b'' := by
  refine ⟨h'.made ∘ h.made, h'.registry.trans h.registry,
    fun _ _ hn => h'.node? (h.node? hn), fun id node hn => ?_⟩
  rcases h'.origin hn with hn | ⟨operator, rfl⟩
  · exact h.origin hn
  · exact .inr ⟨operator, h.nodeOf operator⟩

mutual

/-- The arena holds the tree of an expression at an id, with the actions of the registry. -/
def Holds (b : Builder K N T) : Expr K N → NodeId → Prop
  | .terminal tag, id => b.arena.node? id = some (b.nodeOf (.terminal tag))
  | .nonTerminal name, id => b.arena.node? id = some (b.nodeOf (.nonTerminal name))
  | .emptyString, id => b.arena.node? id = some (b.nodeOf .emptyString)
  | .sequence items, id =>
    ∃ ids, b.arena.node? id = some (b.nodeOf (.sequence ids)) ∧ b.HoldsAll items ids
  | .orderedChoice items, id =>
    ∃ ids, b.arena.node? id = some (b.nodeOf (.orderedChoice ids)) ∧ b.HoldsAll items ids
  | .optional item, id =>
    ∃ o, b.arena.node? id = some (b.nodeOf (.optional o)) ∧ b.Holds item o
  | .zeroOrMore item, id =>
    ∃ o, b.arena.node? id = some (b.nodeOf (.zeroOrMore o)) ∧ b.Holds item o
  | .oneOrMore item, id =>
    ∃ o, b.arena.node? id = some (b.nodeOf (.oneOrMore o)) ∧ b.Holds item o
  | .andPredicate item, id =>
    ∃ o, b.arena.node? id = some (b.nodeOf (.andPredicate o)) ∧ b.Holds item o
  | .notPredicate item, id =>
    ∃ o, b.arena.node? id = some (b.nodeOf (.notPredicate o)) ∧ b.Holds item o

/-- The arena holds the trees of expressions at ids, one by one. -/
def HoldsAll (b : Builder K N T) : List (Expr K N) → List NodeId → Prop
  | [], ids => ids = []
  | item :: rest, ids => ∃ id others, ids = id :: others ∧ b.Holds item id ∧ b.HoldsAll rest others

end

/-- A node of an operator stays where it is. -/
theorem Extends.node?_nodeOf {b b' : Builder K N T} (h : b.Extends b') {id : NodeId}
    {operator : Operator K N NodeId} (hn : b.arena.node? id = some (b.nodeOf operator)) :
    b'.arena.node? id = some (b'.nodeOf operator) := by
  rw [h.nodeOf]
  exact h.node? hn

mutual

/-- A larger builder holds what the builder holds. -/
theorem Extends.holds {b b' : Builder K N T} (h : b.Extends b') :
    ∀ {e : Expr K N} {id : NodeId}, b.Holds e id → b'.Holds e id
  | .terminal _, _, hn => h.node?_nodeOf hn
  | .nonTerminal _, _, hn => h.node?_nodeOf hn
  | .emptyString, _, hn => h.node?_nodeOf hn
  | .sequence _, _, ⟨ids, hn, hall⟩ => ⟨ids, h.node?_nodeOf hn, h.holdsAll hall⟩
  | .orderedChoice _, _, ⟨ids, hn, hall⟩ => ⟨ids, h.node?_nodeOf hn, h.holdsAll hall⟩
  | .optional _, _, ⟨o, hn, ho⟩ => ⟨o, h.node?_nodeOf hn, h.holds ho⟩
  | .zeroOrMore _, _, ⟨o, hn, ho⟩ => ⟨o, h.node?_nodeOf hn, h.holds ho⟩
  | .oneOrMore _, _, ⟨o, hn, ho⟩ => ⟨o, h.node?_nodeOf hn, h.holds ho⟩
  | .andPredicate _, _, ⟨o, hn, ho⟩ => ⟨o, h.node?_nodeOf hn, h.holds ho⟩
  | .notPredicate _, _, ⟨o, hn, ho⟩ => ⟨o, h.node?_nodeOf hn, h.holds ho⟩

/-- A larger builder holds all that the builder holds. -/
theorem Extends.holdsAll {b b' : Builder K N T} (h : b.Extends b') :
    ∀ {items : List (Expr K N)} {ids : List NodeId}, b.HoldsAll items ids → b'.HoldsAll items ids
  | [], _, hnil => hnil
  | _ :: _, _, ⟨id, others, hids, hid, hall⟩ =>
    ⟨id, others, hids, h.holds hid, h.holdsAll hall⟩

end

/-- An id where a tree is held has been handed out. -/
theorem Holds.handedOut {b : Builder K N T} {e : Expr K N} {id : NodeId} (h : b.Holds e id) :
    b.arena.HandedOut id := by
  have hnode : ∃ operator, b.arena.node? id = some (b.nodeOf operator) := by
    cases e with
    | terminal tag | nonTerminal tag | emptyString => exact ⟨_, h⟩
    | sequence items | orderedChoice items =>
      obtain ⟨ids, hn, -⟩ := h
      exact ⟨_, hn⟩
    | optional item | zeroOrMore item | oneOrMore item | andPredicate item | notPredicate item =>
      obtain ⟨o, hn, -⟩ := h
      exact ⟨_, hn⟩
  obtain ⟨operator, hn⟩ := hnode
  exact fun _ => (Arena.owned_of_get? (Arena.node?_eq_some_iff.1 hn).1).2

/-- Ids where trees are held have been handed out. -/
theorem HoldsAll.handedOut {b : Builder K N T} {items : List (Expr K N)} {ids : List NodeId}
    (h : b.HoldsAll items ids) : ∀ id ∈ ids, b.arena.HandedOut id := by
  induction items generalizing ids with
  | nil =>
    cases h
    simp
  | cons item rest ih =>
    obtain ⟨id, others, rfl, hid, hall⟩ := h
    intro o ho
    rcases List.mem_cons.1 ho with rfl | ho
    exacts [hid.handedOut, ih hall o ho]

/-! ## Operators made one after the other -/

/-- A builder that makes an operator from ids that have been handed out is a larger one, and the
operator stands at its id. -/
theorem extends_add {b b' : Builder K N T} {operator : Operator K N NodeId} {id : NodeId}
    (hops : ∀ o ∈ operator.operands, b.arena.HandedOut o) (h : b.add operator = (.ok id, b')) :
    b.Extends b' ∧ b'.arena.node? id = some (b'.nodeOf operator) := by
  have hmade : b.Made → b'.Made := fun hb => hb.addWith hops h
  unfold add addWith at h
  split at h
  · cases h
    refine ⟨⟨hmade, rfl, fun _ _ hn => Arena.node?_push_of_eq_some hn _ _, fun x node hn => ?_⟩,
      Arena.node?_push_self _ _ _⟩
    rcases Arena.node?_push_eq_some hn with hn | rfl
    exacts [.inl hn, .inr ⟨operator, rfl⟩]
  · cases h

/-- **Operators that use older ones are made one after the other.** -/
theorem extends_addAll {b b' : Builder K N T} {operators : List (Operator K N NodeId)}
    (hops : ∀ i (hi : i < operators.length), ∀ o ∈ operators[i].operands,
      o.index < b.arena.size + i) (h : b.addAll operators = (.ok (), b')) : b.Extends b' := by
  induction operators generalizing b with
  | nil =>
    cases h
    exact .refl _
  | cons operator rest ih =>
    rw [addAll] at h
    split at h
    · cases h
    · next id mid hadd =>
      have hfirst : ∀ o ∈ operator.operands, b.arena.HandedOut o := fun o ho _ =>
        hops 0 (Nat.zero_lt_succ _) o ho
      have hsize : mid.arena.size = b.arena.size + 1 := by
        obtain ⟨kept, harena⟩ := addWith_eq_ok hadd
        rw [harena]
        exact Array.size_push _
      refine (extends_add hfirst hadd).1.trans (ih (fun i hi o ho => ?_) h)
      have hlt := hops (i + 1) (Nat.succ_lt_succ hi) o ho
      omega

/-- Every operator has the action that the registry has for it. -/
def Uniform (b : Builder K N T) : Prop :=
  ∀ ⦃id node⦄, b.arena.node? id = some node → ∃ operator, node = b.nodeOf operator

theorem uniform_new (id : Nat) (registry : Registry K N T) : (new id registry).Uniform := by
  intro id node hnode
  simp [new, Arena.empty, Arena.node?, Arena.get?] at hnode

/-- So it is in a larger builder. -/
theorem Extends.uniform {b b' : Builder K N T} (h : b.Extends b') (hb : b.Uniform) :
    b'.Uniform := by
  intro id node hnode
  simp only [h.nodeOf]
  rcases h.origin hnode with hnode | hnew
  exacts [hb hnode, hnew]

end Builder

/-! ## Lowering -/

namespace Lowering

variable [DecidableEq K] [DecidableEq N]

/-- Tags and names that stand for themselves. -/
def verbatim : Lowering K N K N (GrammarError K N) := ⟨.ok, .ok, id⟩

/-- An operator that is made stands at its id. -/
theorem make_holds {operator : Operator K N NodeId} {b b' : Builder K N T} {id : NodeId}
    (hops : ∀ o ∈ operator.operands, b.arena.HandedOut o)
    (h : verbatim.make operator b = (.ok id, b')) :
    b.Extends b' ∧ b'.arena.node? id = some (b'.nodeOf operator) := by
  unfold make at h
  split at h
  · cases h
  · next hadd =>
    cases h
    exact Builder.extends_add hops hadd

/-- An operator that is made of one operand. -/
theorem make_holds_one {b b' b'' : Builder K N T} {e : Expr K N} {o id : NodeId}
    {operator : NodeId → Operator K N NodeId} (hop : (operator o).operands = [o])
    (ho : b.Extends b' ∧ b'.Holds e o) (h : verbatim.make (operator o) b' = (.ok id, b'')) :
    b.Extends b'' ∧ ∃ o, b''.arena.node? id = some (b''.nodeOf (operator o)) ∧ b''.Holds e o := by
  have hops : ∀ x ∈ (operator o).operands, b'.arena.HandedOut x := by
    rw [hop]
    exact List.forall_mem_singleton.2 ho.2.handedOut
  obtain ⟨hext, hn⟩ := make_holds hops h
  exact ⟨ho.1.trans hext, o, hn, hext.holds ho.2⟩

/-- An operator that is made of several operands. -/
theorem make_holds_all {b b' b'' : Builder K N T} {items : List (Expr K N)} {ids : List NodeId}
    {id : NodeId} {operator : List NodeId → Operator K N NodeId}
    (hop : (operator ids).operands = ids) (hids : b.Extends b' ∧ b'.HoldsAll items ids)
    (h : verbatim.make (operator ids) b' = (.ok id, b'')) :
    b.Extends b'' ∧
      ∃ ids, b''.arena.node? id = some (b''.nodeOf (operator ids)) ∧ b''.HoldsAll items ids := by
  obtain ⟨hext, hn⟩ := make_holds (hop.symm ▸ hids.2.handedOut) h
  exact ⟨hids.1.trans hext, ids, hn, hext.holdsAll hids.2⟩

mutual

/-- **Lowering adds the tree of the expression to the builder.** -/
theorem lower_holds : ∀ (e : Expr K N) {b b' : Builder K N T} {id : NodeId},
    verbatim.lower e b = (.ok id, b') → b.Extends b' ∧ b'.Holds e id
  | .terminal tag, _, _, _, h => make_holds (by simp [Operator.operands]) h
  | .nonTerminal name, _, _, _, h => make_holds (by simp [Operator.operands]) h
  | .emptyString, _, _, _, h => make_holds (by simp [Operator.operands]) h
  | .sequence items, _, _, _, h => by
    rw [lower] at h
    split at h
    · cases h
    · next hall => exact make_holds_all rfl (lowerAll_holds items hall) h
  | .orderedChoice items, _, _, _, h => by
    rw [lower] at h
    split at h
    · cases h
    · next hall => exact make_holds_all rfl (lowerAll_holds items hall) h
  | .optional item, _, _, _, h => by
    rw [lower] at h
    split at h
    · cases h
    · next hitem => exact make_holds_one rfl (lower_holds item hitem) h
  | .zeroOrMore item, _, _, _, h => by
    rw [lower] at h
    split at h
    · cases h
    · next hitem => exact make_holds_one rfl (lower_holds item hitem) h
  | .oneOrMore item, _, _, _, h => by
    rw [lower] at h
    split at h
    · cases h
    · next hitem => exact make_holds_one rfl (lower_holds item hitem) h
  | .andPredicate item, _, _, _, h => by
    rw [lower] at h
    split at h
    · cases h
    · next hitem => exact make_holds_one rfl (lower_holds item hitem) h
  | .notPredicate item, _, _, _, h => by
    rw [lower] at h
    split at h
    · cases h
    · next hitem => exact make_holds_one rfl (lower_holds item hitem) h

/-- Lowering adds the trees of several expressions. -/
theorem lowerAll_holds : ∀ (items : List (Expr K N)) {b b' : Builder K N T} {ids : List NodeId},
    verbatim.lowerAll items b = (.ok ids, b') → b.Extends b' ∧ b'.HoldsAll items ids
  | [], _, _, _, h => by
    cases h
    exact ⟨.refl _, rfl⟩
  | item :: rest, _, _, _, h => by
    rw [lowerAll] at h
    split at h
    · cases h
    · next hitem =>
      split at h
      · cases h
      · next hrest =>
        cases h
        obtain ⟨hext, hid⟩ := lower_holds item hitem
        obtain ⟨hext', hall⟩ := lowerAll_holds rest hrest
        exact ⟨hext.trans hext', _, _, rfl, hext'.holds hid, hall⟩

end

/-- The heads of lowered rules are the given ones, and the builder holds their bodies. -/
theorem lowerRules_holds : ∀ (given : List (N × Expr K N)) {b b' : Builder K N T}
    {rules : List (Rule N)}, verbatim.lowerRules given b = (.ok rules, b') →
      b.Extends b' ∧
        List.Forall₂ (fun x rule => rule.head = x.1 ∧ b'.Holds x.2 rule.body) given rules
  | [], _, _, _, h => by
    cases h
    exact ⟨.refl _, .nil⟩
  | (head, body) :: rest, _, _, _, h => by
    rw [lowerRules] at h
    dsimp only [verbatim] at h
    split at h
    · cases h
    · next hbody =>
      split at h
      · cases h
      · next hrest =>
        cases h
        obtain ⟨hext, hid⟩ := lower_holds body hbody
        obtain ⟨hext', hall⟩ := lowerRules_holds rest hrest
        exact ⟨hext.trans hext', .cons ⟨rfl, hext'.holds hid⟩ hall⟩

end Lowering

/-! ## What was lowered unfolds -/

namespace Builder

variable [DecidableEq K] [DecidableEq N] {b : Builder K N T} {id : NodeId} {e : Expr K N}

/-- The ids where expressions are held, one by one. -/
theorem HoldsAll.forall₂ {items : List (Expr K N)} {ids : List NodeId} (h : b.HoldsAll items ids) :
    List.Forall₂ (fun o item => b.Holds item o) ids items := by
  induction items generalizing ids with
  | nil =>
    cases h
    exact .nil
  | cons item rest ih =>
    obtain ⟨id, others, rfl, hid, hrest⟩ := h
    exact .cons hid (ih hrest)

/-- Where an expression is held, its operator stands and its operands are held. -/
theorem Holds.exists_rel (h : b.Holds e id) :
    ∃ op, b.arena.get? id = some op ∧
      Operator.Rel Eq (fun o item => b.Holds item o) op e.operator := by
  have hget : ∀ {op}, b.arena.node? id = some (b.nodeOf op) → b.arena.get? id = some op :=
    fun hnode => (Arena.node?_eq_some_iff.1 hnode).1
  cases e with
  | terminal tag => exact ⟨_, hget h, .terminal tag⟩
  | nonTerminal name => exact ⟨_, hget h, .nonTerminal rfl⟩
  | emptyString => exact ⟨_, hget h, .emptyString⟩
  | sequence items =>
    obtain ⟨ids, hnode, hall⟩ := h
    exact ⟨_, hget hnode, .sequence hall.forall₂⟩
  | orderedChoice items =>
    obtain ⟨ids, hnode, hall⟩ := h
    exact ⟨_, hget hnode, .orderedChoice hall.forall₂⟩
  | optional item =>
    obtain ⟨o, hnode, ho⟩ := h
    exact ⟨_, hget hnode, .optional ho⟩
  | zeroOrMore item =>
    obtain ⟨o, hnode, ho⟩ := h
    exact ⟨_, hget hnode, .zeroOrMore ho⟩
  | oneOrMore item =>
    obtain ⟨o, hnode, ho⟩ := h
    exact ⟨_, hget hnode, .oneOrMore ho⟩
  | andPredicate item =>
    obtain ⟨o, hnode, ho⟩ := h
    exact ⟨_, hget hnode, .andPredicate ho⟩
  | notPredicate item =>
    obtain ⟨o, hnode, ho⟩ := h
    exact ⟨_, hget hnode, .notPredicate ho⟩

/-- **Where an expression is held, it unfolds.** -/
theorem Holds.unfolds (h : b.Holds e id) (hb : b.Made) : b.arena.unfold? id = some e := by
  -- Operands are older than the operator, so the depth is bounded by the place of the operator.
  have hdepth : b.arena.unfolding (id.index + 1) id = some e := by
    induction e using Expr.operandInduction generalizing id with
    | step e ih =>
      obtain ⟨op, hop, hrel⟩ := h.exists_rel
      refine Arena.unfolding_succ_eq_some.2 ⟨op, hop, hrel.imp (fun _ _ h => h) ?_⟩
      intro o ho item hitem hholds
      obtain ⟨op', hop', -⟩ := hholds.exists_rel
      have hlt := hb.ordered hop o ho (Arena.owned_of_get? hop').1
      exact Arena.unfolding_mono (ih item hitem hholds) hlt
  obtain ⟨op, hop, -⟩ := h.exists_rel
  exact Arena.unfolding_mono hdepth (Arena.owned_of_get? hop).2

/-- Expressions that are held one by one. -/
theorem holdsAll_of_forall₂ {items : List (Expr K N)} {ids : List NodeId}
    (h : List.Forall₂ (fun o item => b.Holds item o) ids items) : b.HoldsAll items ids := by
  induction h with
  | nil => rfl
  | cons hid _ ih => exact ⟨_, _, rfl, hid, ih⟩

/-- An expression is held where its operator stands, if its operands are held. -/
theorem holds_of_rel {op : Operator K N NodeId} (hnode : b.arena.node? id = some (b.nodeOf op))
    (hrel : Operator.Rel Eq (fun o item => b.Holds item o) op e.operator) : b.Holds e id := by
  cases e with
  | terminal tag | emptyString =>
    cases hrel
    exact hnode
  | nonTerminal name =>
    cases hrel with
    | nonTerminal hname => exact hname ▸ hnode
  | sequence items | orderedChoice items =>
    cases hrel
    next hall => exact ⟨_, hnode, holdsAll_of_forall₂ hall⟩
  | optional item | zeroOrMore item | oneOrMore item | andPredicate item | notPredicate item =>
    cases hrel
    next ho => exact ⟨_, hnode, ho⟩

/-- **Where an expression unfolds, it is held**, if every operator has the action of the
registry. -/
theorem holds_of_unfolding (hb : b.Uniform) {depth : Nat}
    (h : b.arena.unfolding depth id = some e) : b.Holds e id := by
  induction depth generalizing id e with
  | zero => cases h
  | succ depth ih =>
    obtain ⟨op, hop, hrel⟩ := Arena.unfolding_succ_eq_some.1 h
    have hnode := Arena.node?_of_get? hop
    obtain ⟨op', hop'⟩ := hb hnode
    obtain rfl : op = op' := congrArg Node.operator hop'
    rw [hop'] at hnode
    exact holds_of_rel hnode (hrel.imp (fun _ _ h => h) fun _ _ _ _ => ih)

end Builder

/-! ## Grammars of expressions -/

/-- A result that is there is the result. -/
theorem eq_ok_of_isSome_toOption {ε α : Type} {x : Except ε α} (h : x.toOption.isSome) :
    x = .ok (x.toOption.get h) := by
  cases x with
  | error e => cases h
  | ok a => rfl

namespace Grammar

variable [DecidableEq K] [DecidableEq N]

/-- The grammar of rules that are given as expressions. -/
def ofExprs (registry : Registry K N T) (start : N) (given : List (N × Expr K N)) :
    Except (GrammarError K N) (Grammar K N T) :=
  match Lowering.verbatim.lowerRules given (.new 0 registry) with
  | (.error e, _) => .error e
  | (.ok rules, b) => b.build start rules

variable {registry : Registry K N T} {start : N} {given : List (N × Expr K N)} {g : Grammar K N T}

/-- **A grammar of expressions comes from a builder with a history, which holds its rules.** -/
theorem ofExprs_made (h : ofExprs registry start given = .ok g) :
    ∃ (b : Builder K N T) (rules : List (Rule N)), b.Made ∧ b.build start rules = .ok g ∧
      b.registry = registry ∧
      List.Forall₂ (fun x rule => rule.head = x.1 ∧ b.Holds x.2 rule.body) given rules := by
  unfold ofExprs at h
  split at h
  · cases h
  · next rules b hrules =>
    obtain ⟨hext, hall⟩ := Lowering.lowerRules_holds given hrules
    exact ⟨b, rules, hext.made (.new 0 registry), h, hext.registry, hall⟩

/-- Building a grammar only adds the start node to the builder. -/
theorem extends_build {b : Builder K N T} {rules : List (Rule N)}
    (hg : b.build start rules = .ok g) :
    b.Extends ⟨g.arena, b.registry⟩ ∧
      Builder.Holds ⟨g.arena, b.registry⟩ (.nonTerminal start) g.startNode := by
  obtain ⟨-, -, -, hnode, harena⟩ := Builder.build_eq_ok hg
  have hmake : Lowering.verbatim.make (.nonTerminal start) b =
      (.ok g.startNode, ⟨g.arena, b.registry⟩) := by
    rw [hnode, harena]
    rfl
  exact Lowering.make_holds (by simp [Operator.operands]) hmake

/-- The builder of a grammar of expressions, with its start node, holds the start symbol and the
bodies of the rules. -/
theorem ofExprs_holds (h : ofExprs registry start given = .ok g) :
    Builder.Holds ⟨g.arena, registry⟩ (.nonTerminal start) g.startNode ∧
      List.Forall₂ (fun x rule => rule.head = x.1 ∧ Builder.Holds ⟨g.arena, registry⟩ x.2 rule.body)
        given g.rules := by
  obtain ⟨b, rules, -, hbuild, hregistry, hall⟩ := ofExprs_made h
  obtain ⟨-, hrules, -⟩ := Builder.build_eq_ok hbuild
  obtain ⟨hext, hstart⟩ := extends_build hbuild
  rw [hregistry] at hext hstart
  refine ⟨hstart, hrules ▸ hall.imp ?_⟩
  rintro x rule ⟨hhead, hbody⟩
  exact ⟨hhead, hext.holds hbody⟩

omit [DecidableEq K] in
/-- The rule that is given for a name. -/
theorem body?_of_lookup {P : Expr K N → NodeId → Prop} {given : List (N × Expr K N)}
    (hall : List.Forall₂ (fun x rule => rule.head = x.1 ∧ P x.2 rule.body) given g.rules)
    {name : N} {e : Expr K N} (hname : given.lookup name = some e) :
    ∃ body, g.body? name = some body ∧ P e body := by
  unfold body?
  generalize g.rules = rules at hall
  induction hall with
  | nil => cases hname
  | @cons x rule rest rules hx hrest ih =>
    by_cases hkey : name = x.1
    · subst hkey
      rw [List.lookup_cons_self] at hname
      cases hname
      exact ⟨rule.body, by simp [hx.1], hx.2⟩
    · rw [List.lookup_cons, beq_false_of_ne hkey] at hname
      obtain ⟨body, hbody, hP⟩ := ih hname
      refine ⟨body, ?_, hP⟩
      rw [List.find?_cons_of_neg (by simpa [hx.1] using Ne.symm hkey)]
      exact hbody

/-- Pure actions of the registry make a grammar with pure actions. -/
theorem pureActions_of_uniform (hr : registry.Pure) (h : Builder.Uniform ⟨g.arena, registry⟩) :
    g.PureActions := by
  intro id action hid
  rw [Arena.action?_eq_node?] at hid
  obtain ⟨node, hnode, haction⟩ := Option.bind_eq_some_iff.1 hid
  obtain ⟨operator, rfl⟩ := h hnode
  unfold Builder.nodeOf at haction
  dsimp only at haction
  split at haction
  · cases haction
  · exact hr.forOperator haction

/-- Every operator of a grammar of expressions has the action that the registry has for it. -/
theorem ofExprs_uniform (h : ofExprs registry start given = .ok g) :
    Builder.Uniform ⟨g.arena, registry⟩ := by
  unfold ofExprs at h
  split at h
  · cases h
  · next rules b hrules =>
    obtain ⟨hext, -⟩ := Lowering.lowerRules_holds given hrules
    have hregistry : b.registry = registry := hext.registry
    exact hregistry ▸ (extends_build h).1.uniform (hext.uniform (Builder.uniform_new 0 registry))

/-- Pure actions of the registry make a grammar of expressions with pure actions. -/
theorem ofExprs_pureActions (hr : registry.Pure) (h : ofExprs registry start given = .ok g) :
    g.PureActions :=
  pureActions_of_uniform hr (ofExprs_uniform h)

end Grammar

end Packrat
