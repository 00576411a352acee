import Packrat.Proofs.Evaluation.Yields

/-!
# Passthrough trees

With no action but the passthrough, the value of a match is a tree (`Passed`): a node for every
operator that took part, and nothing for a predicate. Trees are made of the values of alternatives
that were tried before, of outcomes from the memo table, and of turns of repetitions that did not
advance. Yet they lose and duplicate nothing. `Passed.Faithful` is what a node says about its
operator and its tokens, and `Passed.Spells` what a tree owes to the tokens that were matched: its
nodes are faithful, and its leaves are the tokens. That is a closed yield (`Passed.closed_yield`),
so it holds of whatever evaluation makes, known outcomes and left-recursive rules included.

`Grammar.parseWith_passthrough` is the statement for whole parses.
-/

namespace Packrat

/-- A value in a grammar with no action but the passthrough. -/
inductive Passed where
  | nothing
  | node (n : MatchNode Passed)

instance : Inhabited Passed := ⟨.nothing⟩

variable {K N : Type}

/-! ## Builders with the passthrough only -/

/-- The registry with the passthrough and no other action. -/
def Registry.passing : Registry K N Passed := ({} : Registry K N Passed).installPassthrough .node

/-- The action of an operator of a kind: predicates have none. -/
def Kind.passing? (kind : Kind) : Option (Action K Passed) :=
  if kind.isPredicate then none else some (.passthrough .node kind)

/-- The builders that have made all their operators with the passthrough installed, and no other
action. -/
inductive Builder.Passing [DecidableEq K] [DecidableEq N] : Builder K N Passed → Prop
  | new (id : Nat) : Passing (.new id .passing)
  | add {b b' : Builder K N Passed} {operator : Operator K N NodeId} {id : NodeId} :
      Passing b → b.add operator = (.ok id, b') → Passing b'

/-- Every operator of the grammar has the passthrough for its action, and predicates have none. -/
def Grammar.PassesThrough (g : Grammar K N Passed) : Prop :=
  ∀ ⦃id operator⦄, g.arena.get? id = some operator → g.arena.action? id = operator.kind.passing?

section Passing

variable [DecidableEq K] [DecidableEq N]

/-- The registry has the passthrough for every operator. -/
theorem Registry.forOperator_passing {ι : Type} (operator : Operator K N ι) :
    (passing : Registry K N Passed).forOperator operator = operator.kind.passing? := by
  cases operator <;> rfl

/-- Every operator of the builder has the passthrough for its action. -/
theorem Builder.Passing.node? {b : Builder K N Passed} (h : b.Passing) :
    b.registry = .passing ∧ ∀ ⦃id node⦄, b.arena.node? id = some node →
      node.action = node.operator.kind.passing? := by
  induction h with
  | new id =>
    refine ⟨rfl, fun id node hnode => ?_⟩
    simp [Builder.new, Arena.empty, Arena.node?, Arena.get?] at hnode
  | @add b b' operator id _ hadd ih =>
    obtain ⟨hregistry, hnodes⟩ := ih
    unfold Builder.add Builder.addWith at hadd
    split at hadd
    · cases hadd
      refine ⟨hregistry, fun id node hnode => ?_⟩
      rcases Arena.node?_push_eq_some hnode with hold | rfl
      · exact hnodes hold
      · dsimp only
        rw [hregistry, Registry.forOperator_passing, Kind.passing?]
        split <;> rfl
    · cases hadd

/-- Making more operators keeps the passthrough the only action. -/
theorem Builder.Passing.addAll {b b' : Builder K N Passed} {operators : List (Operator K N NodeId)}
    (hb : b.Passing) (h : b.addAll operators = (.ok (), b')) : b'.Passing := by
  induction operators generalizing b with
  | nil =>
    cases h
    exact hb
  | cons operator rest ih =>
    rw [Builder.addAll] at h
    split at h
    · cases h
    · next hadd => exact ih (hb.add hadd) h

/-- Every operator of a grammar that it builds has the passthrough for its action, the one that
calls the start symbol included. -/
theorem Builder.Passing.passesThrough {b : Builder K N Passed} (hb : b.Passing) {start : N}
    {rules : List (Rule N)} {g : Grammar K N Passed} (hg : b.build start rules = .ok g) :
    g.PassesThrough := by
  obtain ⟨-, -, -, -, harena⟩ := Builder.build_eq_ok hg
  obtain ⟨hregistry, hnodes⟩ := hb.node?
  intro id operator hget
  have hnode := Arena.node?_of_get? hget
  rw [harena] at hnode
  rcases Arena.node?_push_eq_some hnode with hold | hnew
  · exact harena ▸ hnodes hold
  · rw [← harena, Node.mk.injEq] at hnew
    rw [hnew.1, hnew.2, hregistry]
    rfl

end Passing

/-- The passthrough is pure. -/
theorem Grammar.PassesThrough.pureActions {g : Grammar K N Passed} (h : g.PassesThrough) :
    g.PureActions := by
  intro id action haction
  obtain ⟨operator, hget⟩ : ∃ operator, g.arena.get? id = some operator := by
    refine Option.ne_none_iff_exists'.1 fun hnone => ?_
    rw [Arena.action?_eq_none hnone] at haction
    cases haction
  have hpassing := h hget
  rw [haction, Kind.passing?] at hpassing
  split at hpassing
  · cases hpassing
  · cases hpassing
    exact Action.pure_passthrough _ _

/-! ## Trees -/

/-- The spans lie one after the other from one position up to another: each begins where the one
before it ends. Some may be empty. -/
def Abutting : Nat → List Span → Nat → Prop
  | start, [], stop => start = stop
  | start, s :: rest, stop => s.start = start ∧ Abutting s.stop rest stop

/-- Two rows of spans make one. -/
theorem Abutting.append {start middle stop : Nat} {spans others : List Span}
    (h : Abutting start spans middle) (h' : Abutting middle others stop) :
    Abutting start (spans ++ others) stop := by
  induction spans generalizing start with
  | nil =>
    cases h
    exact h'
  | cons s rest ih => exact ⟨h.1, ih h.2⟩

/-- The operands on whose matches a match of an operator builds, the body of the rule in the case of
a call. -/
def Grammar.BuildsOn {T : Type} [DecidableEq N] (g : Grammar K N T) :
    Operator K N NodeId → List NodeId → Prop
  | .terminal _, sources => sources = []
  | .nonTerminal name, sources => ∃ body, g.body? name = some body ∧ sources = [body]
  | operator, sources => operator.Draws sources

/-- An operator that draws its values from operands builds on them. It is no predicate and no
terminal. -/
theorem Grammar.BuildsOn.of_draws {T : Type} [DecidableEq N] {g : Grammar K N T}
    {operator : Operator K N NodeId} {sources : List NodeId} (h : operator.Draws sources) :
    operator.kind.isPredicate = false ∧ operator.kind ≠ .terminal ∧
      g.BuildsOn operator sources := by
  cases operator with
  | terminal | nonTerminal | andPredicate | notPredicate => cases h
  | _ => exact ⟨rfl, Kind.noConfusion, h⟩

/-- A call builds on the body of its rule, a choice on the alternative that matched. -/
theorem Grammar.BuildsOn.length_eq_one {T : Type} [DecidableEq N] {g : Grammar K N T}
    {operator : Operator K N NodeId} {sources : List NodeId} (h : g.BuildsOn operator sources)
    (hkind : operator.kind = .nonTerminal ∨ operator.kind = .orderedChoice) :
    sources.length = 1 := by
  cases operator with
  | nonTerminal name =>
    obtain ⟨body, -, rfl⟩ := h
    rfl
  | orderedChoice operands =>
    obtain ⟨o, -, rfl⟩ := h
    rfl
  | _ => simp [Operator.kind] at hkind

/-- An option builds on its operand or on nothing. -/
theorem Grammar.BuildsOn.length_le_one {T : Type} [DecidableEq N] {g : Grammar K N T}
    {operator : Operator K N NodeId} {sources : List NodeId} (h : g.BuildsOn operator sources)
    (hkind : operator.kind = .optional) : sources.length ≤ 1 := by
  cases operator with
  | optional operand =>
    rcases h with rfl | rfl
    exacts [Nat.zero_le 1, Nat.le_refl 1]
  | _ => cases hkind

namespace Passed

mutual

/-- The nodes of a tree from left to right, every one before the nodes beneath it. -/
def nodes : Passed → List (MatchNode Passed)
  | .nothing => []
  | .node ⟨kind, span, text, peg, operands⟩ =>
    ⟨kind, span, text, peg, operands⟩ :: nodesAll operands

/-- The nodes of several trees from left to right. -/
def nodesAll : List Passed → List (MatchNode Passed)
  | [] => []
  | v :: rest => nodes v ++ nodesAll rest

end

theorem nodes_node (n : MatchNode Passed) : (node n).nodes = n :: nodesAll n.operands := by
  cases n
  rw [nodes]

/-- The tokens that a tree covers; none for nothing. -/
def span? : Passed → Option Span
  | .nothing => none
  | .node n => some n.span

/-- The spans of the terminals among some nodes. -/
def terminals (nodes : List (MatchNode Passed)) : List Span :=
  (nodes.filter (·.kind = .terminal)).map (·.span)

/-- The terminals of a tree from left to right. -/
def leaves (v : Passed) : List Span := terminals v.nodes

theorem terminals_append (nodes others : List (MatchNode Passed)) :
    terminals (nodes ++ others) = terminals nodes ++ terminals others := by
  simp [terminals]

/-- The span from one position up to another stops there. -/
theorem stop_sub {p q : Nat} (hpq : p ≤ q) : Span.stop ⟨p, q - p⟩ = q := Nat.add_sub_cancel' hpq

/-- The tokens from one position up to another, one by one. -/
def tokensUpTo (p q : Nat) : List Span := (List.range' p (q - p)).map (⟨·, 1⟩)

theorem tokensUpTo_append {p q r : Nat} (hpq : p ≤ q) (hqr : q ≤ r) :
    tokensUpTo p q ++ tokensUpTo q r = tokensUpTo p r := by
  have hq : p + (q - p) = q := by omega
  have hr : q - p + (r - q) = r - p := by omega
  have happend := List.range'_append_1 (s := p) (m := q - p) (n := r - q)
  rw [hq, hr] at happend
  rw [tokensUpTo, tokensUpTo, tokensUpTo, ← List.map_append, happend]

section Faithful

variable [DecidableEq N] [ToString K] [ToString N] (g : Grammar K N Passed)
  (input : Array (Token K))

/-- What an operator leaves: a predicate leaves nothing, and every other operator a node of its
kind, with its grammar text. -/
def Of (id : NodeId) : Passed → Prop
  | .nothing => ∃ operator, g.arena.get? id = some operator ∧ operator.kind.isPredicate
  | .node n => ∃ operator, g.arena.get? id = some operator ∧ n.kind = operator.kind ∧
      n.peg = g.arena.render id

/-- What a node says is true of the operator at an id, of the tokens of the input, and of what the
sources of the match have left: nothing is lost of the node's tokens and nothing is there twice. -/
structure Faithful (id : NodeId) (operator : Operator K N NodeId) (sources : List NodeId)
    (n : MatchNode Passed) : Prop where
  stands : g.arena.get? id = some operator
  kind : n.kind = operator.kind
  peg : n.peg = g.arena.render id
  inside : n.span.stop ≤ input.size
  text : n.text =
    String.join ((input.extract n.span.start n.span.stop).toList.map (·.text))
  builds : g.BuildsOn operator sources
  operands : List.Forall₂ (Of g) sources n.operands
  abutting : n.kind ≠ .terminal →
    Abutting n.span.start (n.operands.filterMap span?) n.span.stop
  terminal : ∀ tag, operator = .terminal tag →
    n.span.length = 1 ∧ (input[n.span.start]?).map (·.tag) = some tag
  single : n.kind = .nonTerminal ∨ n.kind = .orderedChoice → n.operands.length = 1
  optional : n.kind = .optional → n.operands.length ≤ 1

/-- A tree spells the tokens from one position up to another: it is what the operator at an id
leaves, it covers them, all its nodes are faithful, and its leaves are the tokens. -/
structure Spells (id : NodeId) (p q : Nat) (v : Passed) : Prop where
  of : v.Of g id
  abutting : Abutting p v.span?.toList q
  faithful : ∀ n ∈ v.nodes, ∃ id operator sources, Faithful g input id operator sources n
  leaves : v.leaves = tokensUpTo p q

/-- The trees that spell what was matched. Probing leaves nothing. -/
def yield : Yield Passed := fun mode id p q v => mode = .consuming → Spells g input id p q v

variable {g input} {id : NodeId} {operator : Operator K N NodeId} {sources : List NodeId}
  {p q : Nat} {values : List Passed} {run : Run N Passed}

/-- Several trees spell the tokens that they cover together. -/
theorem spells_inTurn (h : (yield g input).InTurn .consuming sources p q values) :
    p ≤ q ∧ List.Forall₂ (Of g) sources values ∧ Abutting p (values.filterMap span?) q ∧
      (∀ n ∈ nodesAll values, ∃ id operator sources, Faithful g input id operator sources n) ∧
      terminals (nodesAll values) = tokensUpTo p q := by
  induction h with
  | @nil p =>
    refine ⟨Nat.le_refl p, .nil, rfl, ?_, ?_⟩
    · simp [nodesAll]
    · simp [nodesAll, terminals, tokensUpTo]
  | @cons o rest p q r value values hpq hfirst _ ih =>
    obtain ⟨hqr, hof, habutting, hfaithful, hleaves⟩ := ih
    have hvalue := hfirst rfl
    refine ⟨Nat.le_trans hpq hqr, .cons hvalue.of hof, ?_, ?_, ?_⟩
    · -- What a predicate leaves covers no token, so leaving it out leaves no hole.
      have hfilter : (value :: values).filterMap span? =
          value.span?.toList ++ values.filterMap span? := by
        cases value <;> rfl
      rw [hfilter]
      exact hvalue.abutting.append habutting
    · rw [nodesAll]
      exact List.forall_mem_append.2 ⟨hvalue.faithful, hfaithful⟩
    · rw [nodesAll, terminals_append, hleaves, ← tokensUpTo_append hpq hqr]
      exact congrArg (· ++ tokensUpTo q r) hvalue.leaves

/-- The node that the passthrough makes of a match. -/
def made (g : Grammar K N Passed) (input : Array (Token K)) (id : NodeId) (kind : Kind)
    (span : Span) (values : List Passed) : MatchNode Passed :=
  ⟨kind, span, String.join ((input.extract span.start span.stop).toList.map (·.text)),
    g.arena.render id, values⟩

omit [DecidableEq N] in
/-- The passthrough makes a node. -/
theorem fire_eq_made (hg : g.PassesThrough) (hget : g.arena.get? id = some operator)
    (hkind : operator.kind.isPredicate = false) (hl : g.Labelled run.labels) {span : Span}
    (hspan : span.stop ≤ input.size) (values : List Passed) :
    (g.fire input id span values .consuming run).1 =
      .node (made g input id operator.kind span values) := by
  have haction := hg hget
  rw [Kind.passing?, hkind] at haction
  rw [if_neg Bool.false_ne_true] at haction
  rw [Grammar.fire_value hg.pureActions hl]
  simp only [Grammar.valueOf, haction, Action.passthrough, Reply.value, Match.text, Match.tokens,
    if_pos hspan, made]

/-- The node of a terminal spells its token. -/
theorem spells_terminal {tag : K} {token : Token K} (hget : g.arena.get? id = some (.terminal tag))
    (htoken : input[p]? = some token) (htag : token.tag = tag) :
    Spells g input id p (p + 1) (.node (made g input id .terminal ⟨p, 1⟩ [])) where
  of := ⟨_, hget, rfl, rfl⟩
  abutting := ⟨rfl, rfl⟩
  faithful := by
    rw [nodes_node]
    refine List.forall_mem_cons.2 ⟨⟨id, .terminal tag, [], ?_⟩, by simp [made, nodesAll]⟩
    exact {
      stands := hget
      kind := rfl
      peg := rfl
      inside := (Array.getElem?_eq_some_iff.1 htoken).1
      text := rfl
      builds := rfl
      operands := .nil
      abutting := fun hne => absurd rfl hne
      terminal := fun tag' htag' => by
        cases htag'
        exact ⟨rfl, by simp [made, htoken, htag]⟩
      single := by simp [made]
      optional := by simp [made] }
  leaves := by
    have hone : p + 1 - p = 1 := by omega
    simp [leaves, nodes_node, terminals, made, nodesAll, tokensUpTo, hone]

/-- The node of any other operator spells what the sources of its match have spelt. -/
theorem spells_node (hget : g.arena.get? id = some operator) (hkind : operator.kind ≠ .terminal)
    (hsources : g.BuildsOn operator sources)
    (hvalues : (yield g input).InTurn .consuming sources p q values) (hq : q ≤ input.size) :
    Spells g input id p q (.node (made g input id operator.kind ⟨p, q - p⟩ values)) := by
  obtain ⟨hpq, hof, habutting, hfaithful, hleaves⟩ := spells_inTurn hvalues
  have hstop : Span.stop ⟨p, q - p⟩ = q := stop_sub hpq
  have hlength : values.length = sources.length := hof.length_eq.symm
  refine ⟨⟨operator, hget, rfl, rfl⟩, ⟨rfl, hstop⟩, ?_, ?_⟩
  · rw [nodes_node]
    refine List.forall_mem_cons.2 ⟨⟨id, operator, sources, ?_⟩, hfaithful⟩
    exact {
      stands := hget
      kind := rfl
      peg := rfl
      inside := Nat.le_trans (Nat.le_of_eq hstop) hq
      text := rfl
      builds := hsources
      operands := hof
      abutting := fun _ => by rwa [made, hstop]
      terminal := by
        rintro tag rfl
        exact (hkind rfl).elim
      single := fun h => hlength.trans (hsources.length_eq_one h)
      optional := fun h => hlength.trans_le (hsources.length_le_one h) }
  · rw [leaves, nodes_node, ← hleaves]
    simp [terminals, made, hkind]

/-- The tree of an operator that is no predicate is a node that covers what was matched. -/
theorem Spells.root {v : Passed} (h : Spells g input id 0 q v)
    (hget : g.arena.get? id = some operator) (hkind : operator.kind.isPredicate = false) :
    ∃ root, v = .node root ∧ root.kind = operator.kind ∧ root.peg = g.arena.render id ∧
      root.span = ⟨0, q⟩ ∧
      (∀ n ∈ v.nodes, ∃ id operator sources, Faithful g input id operator sources n) ∧
      v.leaves = (List.range q).map (⟨·, 1⟩) := by
  obtain ⟨hof, habutting, hfaithful, hleaves⟩ := h
  have htokens : tokensUpTo 0 q = (List.range q).map (⟨·, 1⟩) := by
    rw [tokensUpTo, Nat.sub_zero, List.range_eq_range']
  cases v with
  | nothing =>
    obtain ⟨op, hop, hpredicate⟩ := hof
    cases hget.symm.trans hop
    rw [hkind] at hpredicate
    cases hpredicate
  | node root =>
    obtain ⟨op, hop, hsame, hpeg⟩ := hof
    cases hget.symm.trans hop
    obtain ⟨hstart, hstop⟩ := habutting
    have hlength : root.span.length = q := by
      rwa [Abutting, Span.stop, hstart, Nat.zero_add] at hstop
    have hspan : root.span = ⟨0, q⟩ :=
      calc root.span = ⟨root.span.start, root.span.length⟩ := rfl
        _ = ⟨0, q⟩ := by rw [hstart, hlength]
    exact ⟨root, rfl, hsame, hpeg, hspan, hfaithful, hleaves.trans htokens⟩

variable (input)

/-- **Trees that spell what was matched are a closed yield.** -/
theorem closed_yield (hg : g.PassesThrough) :
    (yield g input).Closed g input fun run => g.Labelled run.labels where
  terminal id tag p token mode run hget htoken htag hl := by
    rintro rfl
    have hinside : Span.stop ⟨p, 1⟩ ≤ input.size := (Array.getElem?_eq_some_iff.1 htoken).1
    rw [fire_eq_made hg hget rfl hl hinside]
    exact spells_terminal hget htoken htag
  draws id operator sources p q values mode run hget hdraws hvalues hq hl := by
    rintro rfl
    obtain ⟨hpredicate, hterminal, hsources⟩ := Grammar.BuildsOn.of_draws (g := g) hdraws
    have hinside : Span.stop ⟨p, q - p⟩ ≤ input.size :=
      (stop_sub (spells_inTurn hvalues).1).trans_le hq
    rw [fire_eq_made hg hget hpredicate hl hinside]
    exact spells_node hget hterminal hsources hvalues hq
  call id name body p q value mode run hget hbody hpq hq hinner hl := by
    rintro rfl
    have haction : (g.arena.action? id).isSome := by
      rw [hg hget]
      rfl
    have hinside : Span.stop ⟨p, q - p⟩ ≤ input.size := (stop_sub hpq).trans_le hq
    rw [if_pos ⟨rfl, haction⟩, fire_eq_made hg hget rfl hl hinside]
    exact spells_node hget Kind.noConfusion ⟨body, hbody, rfl⟩ (.single hpq hinner) hq
  predicate id operator p mode hget hpredicate := by
    intro _
    refine ⟨⟨operator, hget, hpredicate⟩, rfl, ?_, ?_⟩
    · show ∀ n ∈ nodes .nothing, _
      simp [nodes]
    · show leaves .nothing = _
      simp [leaves, nodes, terminals, tokensUpTo]

end Faithful

end Passed

/-! ## Whole parses -/

namespace Grammar

variable [DecidableEq K] [DecidableEq N] [ToString K] [ToString N] {b : Builder K N Passed}
  {start : N} {rules : List (Rule N)} {g : Grammar K N Passed}

/-- **Passthrough trees lose and duplicate nothing.** The value of a match of a whole input is the
node of the start symbol. It covers all tokens, every node of it is faithful, and its leaves are the
tokens from left to right, each once. -/
theorem parseWith_passthrough (hb : b.Passing) (hg : b.build start rules = .ok g)
    (input : Array (Token K)) (context : Context N Passed) {labels : Labels}
    (hl : g.Labelled labels) {next : Nat} {span : Span} {value : Passed}
    (h : (g.parseWith input context labels).1 = .matched next span value) :
    ∃ root, value = .node root ∧ root.kind = .nonTerminal ∧
      root.peg = g.arena.render g.startNode ∧ root.span = ⟨0, input.size⟩ ∧
      (∀ n ∈ value.nodes, ∃ id operator sources,
        Passed.Faithful g input id operator sources n) ∧
      value.leaves = (List.range input.size).map (⟨·, 1⟩) := by
  have hrun : g.StockedRun input.size (Passed.yield g input) (fun run => g.Labelled run.labels)
      { context := context.reset, labels } := ⟨hl, stocked_reset context⟩
  have hends : EndsUnless True _ (Outcome.Yields input.size (Passed.yield g input) .consuming
      g.startNode 0) (g.evalKeeping input (fun _ _ => true) (g.depthBound input.size) g.startNode 0
        .consuming { context := context.reset, labels }) :=
    evalKeeping_yields hg (Passed.closed_yield input (hb.passesThrough hg))
      (fun _ _ _ _ _ _ hl => fire_labelled hl) (fun _ _ hl => hl) _ (.inl rfl) .consuming 0
      (Nat.zero_le _) hrun
  rw [← eval_eq] at hends
  rw [parseWith, evalStart] at h
  -- A match of the whole input is a result, so the depth was enough for this one.
  rcases hends with ⟨-, hnone⟩ | ⟨o, run, hsome, ⟨-, hgives⟩, -⟩
  · rw [hnone] at h
    cases h
  rw [hsome] at h
  cases o with
  | failed q => cases h
  | matched next' span' value' =>
    dsimp only [Outcome.complete] at h
    split at h
    · next hall =>
      cases h
      subst hall
      exact (hgives rfl).root (get?_startNode hg) rfl
    · cases h

/-- The operators of the left-recursive rule `S => (S [a] | [a])`, the rule's own last. -/
def leftNested : List (Operator Char Char NodeId) :=
  [.nonTerminal 'S', .terminal 'a', .sequence [⟨0, 0⟩, ⟨0, 1⟩], .orderedChoice [⟨0, 2⟩, ⟨0, 1⟩]]

/-- Two tokens match it. -/
theorem isMatch_leftNested : ∃ (b : Builder Char Char Passed) (g : Grammar Char Char Passed),
    (Builder.new 0 .passing).addAll leftNested = (.ok (), b) ∧
      b.build 'S' [⟨'S', ⟨0, 3⟩⟩] = .ok g ∧
      (g.parseWith #[⟨'a', ⟨0, 1⟩, "a"⟩, ⟨'a', ⟨1, 1⟩, "a"⟩] {} ∅).1.isMatch :=
  ⟨_, _, rfl, rfl, by decide +kernel⟩

/-- The tree of a left-recursive match has both tokens. -/
theorem parseWith_passthrough_leftNested :
    ∃ (b : Builder Char Char Passed) (g : Grammar Char Char Passed) (next : Nat) (span : Span)
      (root : MatchNode Passed), b.Passing ∧ b.build 'S' [⟨'S', ⟨0, 3⟩⟩] = .ok g ∧ g.Labelled ∅ ∧
        (g.parseWith #[⟨'a', ⟨0, 1⟩, "a"⟩, ⟨'a', ⟨1, 1⟩, "a"⟩] {} ∅).1 =
          .matched next span (.node root) ∧
        root.span = ⟨0, 2⟩ ∧ (Passed.node root).leaves = [⟨0, 1⟩, ⟨1, 1⟩] := by
  obtain ⟨b, g, hadd, hg, hmatch⟩ := isMatch_leftNested
  have hb : b.Passing := (Builder.Passing.new 0).addAll hadd
  generalize hparse : (g.parseWith _ {} ∅).1 = o at hmatch
  cases o with
  | failed q => cases hmatch
  | matched next span value =>
    obtain ⟨root, rfl, -, -, hspan, -, hleaves⟩ :=
      parseWith_passthrough hb hg _ {} g.labelled_empty hparse
    exact ⟨b, g, next, span, root, hb, hg, g.labelled_empty, hparse, hspan, hleaves⟩

end Grammar

end Packrat
