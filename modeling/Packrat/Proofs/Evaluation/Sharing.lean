import Packrat.Proofs.Evaluation.Refinement
import Packrat.Proofs.Evaluation.TreeMoves

/-!
# Sharing of operators

An operator of an arena can be an operand in several places, so grammars with the same trees may
share more or less. `Grammar.parseWith_of_spliced_eq` says how far parses depend on it. As long as
no call is refused they do not, since plain evaluations follow the trees
(`Grammar.Silent.plainEval_follows`). Where calls are refused, it matters which non-terminals are
the same, because a call is refused to an operator and not to a name. Grammars that share their
non-terminals alike (`Grammar.SharedAlike`) keep the same books under other ids, and still parse
alike (`Grammar.Silent.evalKeeping_translated`); others need not.
-/

namespace Packrat

variable {K N T T₁ T₂ : Type}

/-- Outcomes that agree with the same outcome but for values agree with one another. -/
theorem Outcome.Rel.of_rel {o₁ : Outcome T₁} {o₂ : Outcome T₂} {o : Outcome T}
    (h₁ : Outcome.Rel (fun _ _ => True) o₁ o) (h₂ : Outcome.Rel (fun _ _ => True) o₂ o) :
    Outcome.Rel (fun _ _ => True) o₁ o₂ := by
  cases h₁ <;> cases h₂ <;> constructor
  trivial

/-- Outcomes that agree one after the other but for values. -/
theorem Outcome.Rel.trans {T : Type} {o₁ : Outcome T₁} {o₂ : Outcome T₂} {o : Outcome T}
    (h₁ : Outcome.Rel (fun _ _ => True) o₁ o) (h₂ : Outcome.Rel (fun _ _ => True) o o₂) :
    Outcome.Rel (fun _ _ => True) o₁ o₂ := by
  cases h₁ <;> cases h₂ <;> constructor
  trivial

variable [DecidableEq N]

/-! ## Bodies of rules -/

namespace Grammar

section Bodies

variable {g g₁ g₂ : Grammar K N Unit} {ev ev₁ ev₂ : Evaluator N Unit} {name : N}

/-- The move of the body of a rule. -/
def bodyMove (g : Grammar K N Unit) (ev : Evaluator N Unit) (name : N) : Move N :=
  fun p mode run =>
    match g.body? name with
    | none => some (.failed p, run)
    | some body => ev body p mode run

/-- The body of a rule is steady if operators are. -/
theorem bodyMove_steady {J : Run N Unit → Prop} (hev : ∀ id, Move.Steady J (ev id)) (name : N) :
    (g.bodyMove ev name).Steady J := by
  intro p mode r o r' hJ ho
  unfold bodyMove at ho
  split at ho
  · cases ho
    exact ⟨hJ, trivial⟩
  · exact hev _ p mode hJ ho

/-- Bodies move alike if operators that are twins do. -/
theorem bodyMove_follows {S : Run N Unit → Run N Unit → Prop} {Twin : NodeId → NodeId → Prop}
    (hbody : Option.Rel Twin (g₁.body? name) (g₂.body? name))
    (hev : ∀ id₁ id₂, Twin id₁ id₂ → Move.FollowedBy (fun _ _ => True) S (ev₁ id₁) (ev₂ id₂)) :
    Move.FollowedBy (fun _ _ => True) S (g₁.bodyMove ev₁ name) (g₂.bodyMove ev₂ name) := by
  intro p mode r₁ r₂ hS
  unfold bodyMove
  generalize g₁.body? name = body₁, g₂.body? name = body₂ at hbody
  cases hbody with
  | none => exact .some ⟨rfl, trivial⟩ hS
  | some htwin => exact hev _ _ htwin p mode hS

variable [ToString K] [ToString N] {input : Array (Token K)} {id : NodeId} {p : Nat} {mode : Mode}
  {run : Run N Unit}

omit [DecidableEq N] in
theorem Silent.finishCall_eq (h : g.Silent) (o : Outcome Unit) :
    g.finishCall input id mode o run = (o, run) := by
  cases o with
  | failed q => rfl
  | matched next span value => simp [finishCall, h id]

/-- A plain call is the body of its rule. -/
theorem Silent.plainCall_eq (h : g.Silent) :
    g.plainCall input ev id name = g.bodyMove ev name := by
  funext p mode run
  unfold plainCall bodyMove
  cases g.body? name with
  | none => rfl
  | some body =>
    dsimp only
    split
    · next hnone => exact hnone.symm
    · next hinner => rw [hinner, h.finishCall_eq]

/-- A call whose outcome is known has this outcome. -/
theorem Silent.callKeeping_hit {keep : Keep N Unit} (h : g.Silent) {hit : Outcome Unit}
    (hfind : run.context.memo.find? name p mode = some hit) :
    g.callKeeping input keep ev id name p mode run =
      some (hit, { run with context := run.context.countCall.countHit }) := by
  rw [Grammar.callKeeping_hit hfind, h.finishCall_eq]

/-- A call that evaluates the body of its rule has the outcome of the body. -/
theorem Silent.callKeeping_miss {keep : Keep N Unit} (h : g.Silent)
    (hfind : run.context.memo.find? name p mode = none) (hid : id ∉ run.context.activeAt p) :
    g.callKeeping input keep ev id name p mode run =
      (g.bodyMove ev name p mode { run with context := run.context.countCall.enter id p }).map
        fun x => (x.1, { x.2 with
          context := .close keep run.context.countCall x.2.context id name p mode x.1 }) := by
  simp only [callKeeping, Context.memo_countCall, hfind, Context.activeAt_countCall, hid, if_false,
    h.finishCall_eq, bodyMove]
  cases g.body? name with
  | none => rfl
  | some body =>
    dsimp only
    split
    · next hnone => rw [hnone]; rfl
    · next hinner => rw [hinner]; rfl

end Bodies

/-! ## Evaluation without books -/

variable [ToString K] [ToString N]

/-- Plain calls of bodies that are twins follow one another. -/
theorem Silent.plainEval_follows [DecidableEq K] {input : Array (Token K)}
    {g₁ g₂ : Grammar K N Unit} (hg₁ : g₁.Silent) (hg₂ : g₂.Silent)
    {Twin : NodeId → NodeId → Prop}
    (htwin : ∀ ⦃id₁ id₂⦄, Twin id₁ id₂ → ∃ t₁ t₂, g₁.arena.marked.unfold? id₁ = some t₁ ∧
      g₂.arena.marked.unfold? id₂ = some t₂ ∧
      t₁.spliced.rename Prod.fst = t₂.spliced.rename Prod.fst)
    (hbody : ∀ name, Option.Rel Twin (g₁.body? name) (g₂.body? name)) (n : Nat) :
    ∃ k, ∀ id₁ id₂, Twin id₁ id₂ → Move.FollowedBy (fun _ _ => True) (fun _ _ => True)
      (g₁.plainEval input n id₁) (g₂.plainEval input k id₂) := by
  refine hg₁.evalCalling_follows hg₂ monotoneCalls_plainCall monotoneCalls_plainCall
    (fun _ _ _ => ⟨trivial, trivial⟩) ?_ ?_ htwin ?_ n
  · intro ev hev id name
    rw [hg₁.plainCall_eq]
    exact bodyMove_steady hev name
  · intro ev hev id name
    rw [hg₂.plainCall_eq]
    exact bodyMove_steady hev name
  · rintro ev₁ ev₂ - hev ⟨name, id₁⟩ ⟨_, id₂⟩ rfl
    rw [hg₁.plainCall_eq, hg₂.plainCall_eq]
    exact bodyMove_follows (hbody name) hev

end Grammar

/-! ## Books under other ids -/

/-- No outcome in the memo table goes back. -/
def Run.Onward (r : Run N Unit) : Prop :=
  ∀ ⦃name p mode o⦄, r.context.memo.find? name p mode = some o → o.Forward p

/-- The books of two runs agree if the ids in the first are translated by `σ`. -/
structure Translated (σ : NodeId → NodeId) (r₁ r₂ : Run N Unit) : Prop where
  active : ∀ p, r₂.context.activeAt p = (r₁.context.activeAt p).map σ
  stats : r₁.context.stats = r₂.context.stats
  memo : ∀ name p mode, r₁.context.memo.find? name p mode = r₂.context.memo.find? name p mode
  onward : r₁.Onward

namespace Translated

variable {σ : NodeId → NodeId} {r₁ r₂ : Run N Unit} {name : N} {id : NodeId} {p : Nat} {mode : Mode}
  {o : Outcome Unit}

theorem onward_right (h : Translated σ r₁ r₂) : r₂.Onward := fun name p mode _ ho =>
  h.onward ((h.memo name p mode).trans ho)

/-- Books that have just been opened agree. -/
theorem reset (σ : NodeId → NodeId) (c₁ c₂ : Context N Unit) :
    Translated σ { context := c₁.reset } { context := c₂.reset } where
  active p := by simp
  stats := rfl
  memo _ _ _ := rfl
  onward name p mode o h := by simp at h

/-- Entering a non-terminal keeps the books in agreement. -/
theorem enter (h : Translated σ r₁ r₂) (id : NodeId) (p : Nat) :
    Translated σ { r₁ with context := r₁.context.countCall.enter id p }
      { r₂ with context := r₂.context.countCall.enter (σ id) p } where
  active q := by
    simp only [Context.activeAt_enter, Context.activeAt_countCall, h.active]
    split <;> rfl
  stats := by simp only [Context.enter, Context.countCall, h.stats]
  memo := h.memo
  onward := h.onward

/-- Writing down an outcome keeps the books in agreement. -/
theorem close (hσ : Function.Injective σ) (h : Translated σ r₁ r₂)
    (before₁ before₂ : Context N Unit) (id : NodeId) (name : N) (mode : Mode)
    (ho : o.Forward p) :
    Translated σ
      { r₁ with context := .close (fun _ _ => true) before₁ r₁.context id name p mode o }
      { r₂ with context := .close (fun _ _ => true) before₂ r₂.context (σ id) name p mode o } where
  active q := by
    simp only [Context.activeAt_close, Context.activeAt_leave, h.active]
    split
    · exact (List.map_erase hσ _).symm
    · rfl
  stats := h.stats
  memo name' p' mode' := by
    simp only [Context.close, if_true, Context.memo_record, Context.memo_leave, Memo.find?_insert,
      h.memo]
  onward name' p' mode' o' hfind := by
    rcases Context.find?_close hfind with hold | ⟨-, -, rfl, -, rfl⟩
    exacts [h.onward hold, ho]

end Translated

namespace Grammar

variable [ToString K] [ToString N] {input : Array (Token K)}

/-- Calls are steady if operators are. -/
theorem Silent.callKeeping_steady {g : Grammar K N Unit} (hg : g.Silent) {keep : Keep N Unit}
    {ev : Evaluator N Unit} (hev : ∀ id, Move.Steady Run.Onward (ev id)) (id : NodeId) (name : N) :
    Move.Steady Run.Onward (g.callKeeping input keep ev id name) := by
  intro p mode r o r' hJ ho
  cases hfind : r.context.memo.find? name p mode with
  | some hit =>
    rw [hg.callKeeping_hit hfind] at ho
    cases ho
    exact ⟨hJ, hJ hfind⟩
  | none =>
    by_cases hid : id ∈ r.context.activeAt p
    · rw [callKeeping_cut hfind hid] at ho
      cases ho
      exact ⟨hJ, trivial⟩
    · rw [hg.callKeeping_miss hfind hid, Option.map_eq_some_iff] at ho
      obtain ⟨⟨o, mid⟩, hbody, ho⟩ := ho
      cases ho
      have hentered : Run.Onward { r with context := r.context.countCall.enter id p } := hJ
      obtain ⟨hmid, hforward⟩ := bodyMove_steady hev name p mode hentered hbody
      refine ⟨fun name' p' mode' o' hfind' => ?_, hforward⟩
      rcases Context.find?_close hfind' with hold | ⟨-, -, rfl, -, rfl⟩
      exacts [hmid hold, hforward]

/-- **Grammars that share their non-terminals alike keep the same books**, under other ids. -/
theorem Silent.evalKeeping_translated [DecidableEq K] {g₁ g₂ : Grammar K N Unit} (hg₁ : g₁.Silent)
    (hg₂ : g₂.Silent) {σ : NodeId → NodeId} (hσ : Function.Injective σ)
    {Twin : NodeId → NodeId → Prop}
    (htwin : ∀ ⦃id₁ id₂⦄, Twin id₁ id₂ → ∃ t₁ t₂, g₁.arena.marked.unfold? id₁ = some t₁ ∧
      g₂.arena.marked.unfold? id₂ = some t₂ ∧
      t₁.spliced.rename (Prod.map id σ) = t₂.spliced.rename id)
    (hbody : ∀ name, Option.Rel Twin (g₁.body? name) (g₂.body? name)) (n : Nat) :
    ∃ k, ∀ id₁ id₂, Twin id₁ id₂ → Move.FollowedBy (fun _ _ => True) (Translated σ)
      (g₁.evalKeeping input (fun _ _ => true) n id₁)
      (g₂.evalKeeping input (fun _ _ => true) k id₂) := by
  refine hg₁.evalCalling_follows hg₂ monotoneCalls_callKeeping monotoneCalls_callKeeping
    (fun _ _ hS => ⟨hS.onward, hS.onward_right⟩) (fun ev hev => hg₁.callKeeping_steady hev)
    (fun ev hev => hg₂.callKeeping_steady hev) htwin ?_ n
  rintro ev₁ ev₂ hev₁ hev ⟨name, id₁⟩ _ rfl p mode r₁ r₂ hS
  dsimp only [Prod.map, id]
  cases hfind : r₁.context.memo.find? name p mode with
  | some hit =>
    rw [hg₁.callKeeping_hit hfind, hg₂.callKeeping_hit ((hS.memo name p mode).symm.trans hfind)]
    refine .some ⟨rfl, trivial⟩ ⟨hS.active, ?_, hS.memo, hS.onward⟩
    simp only [Context.countHit, Context.countCall, hS.stats]
  | none =>
    have hfind₂ := (hS.memo name p mode).symm.trans hfind
    -- Different ids are translated to different ones, so the same calls are refused.
    have hmem : σ id₁ ∈ r₂.context.activeAt p ↔ id₁ ∈ r₁.context.activeAt p := by
      rw [hS.active, List.mem_map_of_injective hσ]
    by_cases hid : id₁ ∈ r₁.context.activeAt p
    · rw [callKeeping_cut hfind hid, callKeeping_cut hfind₂ (hmem.2 hid)]
      refine .some ⟨rfl, trivial⟩ ⟨hS.active, ?_, hS.memo, hS.onward⟩
      simp only [Context.countCut, Context.countCall, hS.stats]
    · rw [hg₁.callKeeping_miss hfind hid, hg₂.callKeeping_miss hfind₂ (mt hmem.1 hid)]
      intro o r₁' ho
      rw [Option.map_eq_some_iff] at ho
      obtain ⟨⟨o, mid₁⟩, hinner₁, ho⟩ := ho
      cases ho
      obtain ⟨_, mid₂, hinner₂, ⟨rfl, -⟩, hmid⟩ :=
        (bodyMove_follows (hbody name) hev p mode (hS.enter id₁ p)).exists hinner₁
      have hforward := (bodyMove_steady hev₁ name p mode (hS.enter id₁ p).onward hinner₁).2
      rw [hinner₂]
      exact .inr ⟨o, _, rfl, ⟨rfl, trivial⟩, hmid.close hσ _ _ id₁ name mode hforward⟩

/-! ## Trees of grammars without actions -/

/-- The tree of the rule with a name, with its non-terminals named by their ids as well. -/
def markedTree? (g : Grammar K N T) (name : N) : Option (Expr K (N × NodeId)) :=
  (g.body? name).bind g.arena.marked.unfold?

/-- The grammars share their non-terminals alike: `σ` takes every non-terminal of the first to the
one in its place in the second, and different ones to different ones. -/
structure SharedAlike (σ : NodeId → NodeId) (g₁ : Grammar K N T₁) (g₂ : Grammar K N T₂) : Prop where
  injective : Function.Injective σ
  startNode : σ g₁.startNode = g₂.startNode
  bodies : ∀ name, (g₁.markedTree? name).map (fun t => t.spliced.rename (Prod.map id σ)) =
    (g₂.markedTree? name).map Expr.spliced

omit [DecidableEq N] [ToString K] [ToString N] in
/-- Trees do not depend on the actions. -/
theorem unfold?_marked_silent (g : Grammar K N T) (id : NodeId) :
    g.silent.arena.marked.unfold? id = g.arena.marked.unfold? id := by
  have hget : ∀ id, g.silent.arena.marked.get? id = g.arena.marked.get? id := by
    intro id
    rw [Arena.get?_marked, Arena.get?_marked, silent, Arena.get?_silent]
  have hsize : g.silent.arena.marked.size = g.arena.marked.size := by
    simp [silent, Arena.size, Arena.marked, Arena.silent]
  rw [ Arena.unfold?, Arena.unfold?, hsize]
  exact Arena.fold_congr hget _ _ _ _

omit [DecidableEq N] [ToString K] [ToString N] in
theorem silent_silent (g : Grammar K N T) : g.silent.Silent := g.arena.action?_silent

omit [DecidableEq N] [ToString K] [ToString N] in
theorem pureActions_silent (g : Grammar K N T) : g.silent.PureActions := by
  intro id action haction
  rw [g.silent_silent id] at haction
  cases haction

section Built

variable {b : Builder K N T} {start : N} {rules : List (Rule N)} {g : Grammar K N T} {name : N}
  {body : NodeId}

omit [ToString K] [ToString N] in
/-- The body of a rule has a tree. -/
theorem exists_tree_of_body? (hb : b.Made) (hg : b.build start rules = .ok g)
    (hbody : g.body? name = some body) :
    ∃ t, g.arena.marked.unfold? body = some t ∧ g.markedTree? name = some t ∧
      g.tree? name = some (t.rename Prod.fst) := by
  obtain ⟨rule, hrule, rfl⟩ := Option.map_eq_some_iff.1 hbody
  have hlive : g.Live rule.body := .inr ⟨rule, List.mem_of_find?_eq_some hrule, .root⟩
  obtain ⟨t, ht, htree, -⟩ := hlive.exists_unfold hb hg
  refine ⟨t, ht, ?_, ?_⟩
  · rw [markedTree?, hbody]
    exact ht
  · rw [tree?, hbody]
    exact htree

omit [ToString K] [ToString N] in
/-- The tree of the start node. -/
theorem unfold?_marked_startNode (hg : b.build start rules = .ok g) :
    g.arena.marked.unfold? g.startNode = some (.nonTerminal (start, g.startNode)) := by
  obtain ⟨-, -, hstart, -, -⟩ := Builder.build_eq_ok hg
  have hget : g.arena.marked.get? g.startNode = some (.nonTerminal (start, g.startNode)) := by
    rw [Arena.get?_marked, get?_startNode hg, hstart]
    rfl
  have hone : g.arena.marked.unfolding 1 g.startNode =
      some (.nonTerminal (start, g.startNode)) :=
    Arena.unfolding_succ_eq_some.2 ⟨_, hget, .nonTerminal rfl⟩
  exact Arena.unfolding_mono hone (Nat.lt_of_le_of_lt (Nat.zero_le _) (Arena.owned_of_get? hget).2)

end Built

/-! ## Whole parses -/

/-- Operators in the same place: the start nodes, and the bodies of rules with the same name. -/
def Twins (g₁ : Grammar K N T₁) (g₂ : Grammar K N T₂) (id₁ id₂ : NodeId) : Prop :=
  (id₁ = g₁.startNode ∧ id₂ = g₂.startNode) ∨
    ∃ name, g₁.body? name = some id₁ ∧ g₂.body? name = some id₂

section Built

variable {b₁ : Builder K N T₁} {b₂ : Builder K N T₂} {start : N} {rules₁ rules₂ : List (Rule N)}
  {g₁ : Grammar K N T₁} {g₂ : Grammar K N T₂}

omit [ToString K] [ToString N] in
/-- Grammars with the same trees have rules with the same names. -/
theorem twins_bodies (hb₁ : b₁.Made) (hb₂ : b₂.Made) (hg₁ : b₁.build start rules₁ = .ok g₁)
    (hg₂ : b₂.build start rules₂ = .ok g₂)
    (htrees : ∀ name, (g₁.tree? name).map Expr.spliced = (g₂.tree? name).map Expr.spliced)
    (name : N) : Option.Rel (g₁.Twins g₂) (g₁.body? name) (g₂.body? name) := by
  have hsame := congrArg Option.isSome (htrees name)
  rw [Option.isSome_map, Option.isSome_map] at hsame
  cases hbody₁ : g₁.body? name with
  | none =>
    cases hbody₂ : g₂.body? name with
    | none => exact .none
    | some body₂ =>
      obtain ⟨t₂, -, -, htree₂⟩ := exists_tree_of_body? hb₂ hg₂ hbody₂
      rw [htree₂, tree?, hbody₁] at hsame
      cases hsame
  | some body₁ =>
    cases hbody₂ : g₂.body? name with
    | none =>
      obtain ⟨t₁, -, -, htree₁⟩ := exists_tree_of_body? hb₁ hg₁ hbody₁
      rw [htree₁, tree?, hbody₂] at hsame
      cases hsame
    | some body₂ => exact .some (.inr ⟨name, hbody₁, hbody₂⟩)

omit [ToString K] [ToString N] in
/-- Operators in the same place have trees that agree if the trees of rules do, however names are
compared. -/
theorem twins_trees {ν : Type} {f₁ f₂ : N × NodeId → ν} (hb₁ : b₁.Made) (hb₂ : b₂.Made)
    (hg₁ : b₁.build start rules₁ = .ok g₁) (hg₂ : b₂.build start rules₂ = .ok g₂)
    (hstart : f₁ (start, g₁.startNode) = f₂ (start, g₂.startNode))
    (hbodies : ∀ ⦃name t₁ t₂⦄, g₁.markedTree? name = some t₁ → g₂.markedTree? name = some t₂ →
      g₁.tree? name = some (t₁.rename Prod.fst) → g₂.tree? name = some (t₂.rename Prod.fst) →
      t₁.spliced.rename f₁ = t₂.spliced.rename f₂) ⦃id₁ id₂ : NodeId⦄
    (htwins : g₁.Twins g₂ id₁ id₂) :
    ∃ t₁ t₂, g₁.silent.arena.marked.unfold? id₁ = some t₁ ∧
      g₂.silent.arena.marked.unfold? id₂ = some t₂ ∧
      t₁.spliced.rename f₁ = t₂.spliced.rename f₂ := by
  simp only [unfold?_marked_silent]
  rcases htwins with ⟨rfl, rfl⟩ | ⟨name, hbody₁, hbody₂⟩
  · refine ⟨_, _, unfold?_marked_startNode hg₁, unfold?_marked_startNode hg₂, ?_⟩
    exact congrArg Expr.nonTerminal hstart
  · obtain ⟨t₁, ht₁, hmarked₁, htree₁⟩ := exists_tree_of_body? hb₁ hg₁ hbody₁
    obtain ⟨t₂, ht₂, hmarked₂, htree₂⟩ := exists_tree_of_body? hb₂ hg₂ hbody₂
    exact ⟨t₁, t₂, ht₁, ht₂, hbodies hmarked₁ hmarked₂ htree₁ htree₂⟩

variable [DecidableEq K]

/-- What is derivable for one start node is derivable for the other. -/
theorem parses_silent_of_spliced_eq (hb₁ : b₁.Made) (hb₂ : b₂.Made)
    (hg₁ : b₁.build start rules₁ = .ok g₁) (hg₂ : b₂.build start rules₂ = .ok g₂)
    (htrees : ∀ name, (g₁.tree? name).map Expr.spliced = (g₂.tree? name).map Expr.spliced)
    {o : Outcome Unit} (h : g₁.silent.Parses input g₁.silent.startNode 0 .consuming o) :
    g₂.silent.Parses input g₂.silent.startNode 0 .consuming o := by
  have hbodies : ∀ ⦃name t₁ t₂⦄, g₁.markedTree? name = some t₁ → g₂.markedTree? name = some t₂ →
      g₁.tree? name = some (t₁.rename Prod.fst) → g₂.tree? name = some (t₂.rename Prod.fst) →
      t₁.spliced.rename Prod.fst = t₂.spliced.rename Prod.fst := by
    intro name t₁ t₂ _ _ htree₁ htree₂
    have hsame := htrees name
    rw [htree₁, htree₂] at hsame
    rw [← Expr.spliced_rename, ← Expr.spliced_rename]
    exact Option.some.inj hsame
  have hempty : g₁.silent.Labelled ({} : Run N Unit).labels := labelled_empty _
  obtain ⟨depth, hdepth⟩ := h.yields g₁.pureActions_silent
  obtain ⟨run, hrun, -⟩ := hdepth depth (Nat.le_refl _) hempty
  obtain ⟨k, hk⟩ := g₁.silent_silent.plainEval_follows g₂.silent_silent
    (twins_trees hb₁ hb₂ hg₁ hg₂ rfl hbodies) (twins_bodies hb₁ hb₂ hg₁ hg₂ htrees) depth
  have hstart : g₁.Twins g₂ g₁.silent.startNode g₂.silent.startNode := .inl ⟨rfl, rfl⟩
  have hempty' : g₂.silent.Labelled ({} : Run N Unit).labels := labelled_empty _
  obtain ⟨_, run', hrun', ⟨rfl, -⟩, -⟩ := (hk _ _ hstart 0 .consuming trivial).exists hrun
  exact parses_of_plainEval (Builder.build_silent hg₂) g₂.pureActions_silent (.inl rfl) hempty'
    hrun'

/-- A parse refuses no call exactly if the start node has a derivable outcome, and then returns
it. -/
theorem parseWith_silent_cuts {b : Builder K N T} {rules : List (Rule N)} {g : Grammar K N T}
    (hb : b.Made) (hg : b.build start rules = .ok g) (input : Array (Token K)) :
    ((g.silent.parseWith input {} ∅).2.context.stats.cuts = 0 ↔
        ∃ o, g.silent.Parses input g.silent.startNode 0 .consuming o) ∧
      ∀ o, g.silent.Parses input g.silent.startNode 0 .consuming o →
        (g.silent.parseWith input {} ∅).1 = o.complete input.size := by
  have hg' := Builder.build_silent hg
  have hempty : g.silent.Labelled ∅ := labelled_empty _
  obtain ⟨raw, run, hraw⟩ := evalKeeping_start_isSome hb.silent hg' input (fun _ _ => true) {} ∅
  obtain ⟨-, hderived⟩ := parses_of_evalKeeping_start hg' g.pureActions_silent hempty hraw
  have hfound := fun {o} (ho : g.silent.Parses input g.silent.startNode 0 .consuming o) =>
    evalKeeping_start_of_parses hg' g.pureActions_silent hempty ho hraw
  have hrun : (g.silent.parseWith input {} ∅).2 = run := by
    rw [← eval_eq] at hraw
    simp only [parseWith, evalStart, hraw]
  rw [hrun]
  refine ⟨⟨fun hcuts => ⟨raw, hderived hcuts⟩, ?_⟩, fun o => ?_⟩
  · rintro ⟨o, ho⟩
    exact (hfound ho).2
  · exact parseWith_of_parses hb.silent hg' g.pureActions_silent {} hempty

/-- Grammars that share their non-terminals alike parse alike, and keep the same books under other
ids. -/
theorem parseWith_silent_translated (hb₁ : b₁.Made) (hb₂ : b₂.Made)
    (hg₁ : b₁.build start rules₁ = .ok g₁) (hg₂ : b₂.build start rules₂ = .ok g₂)
    (htrees : ∀ name, (g₁.tree? name).map Expr.spliced = (g₂.tree? name).map Expr.spliced)
    {σ : NodeId → NodeId} (hσ : SharedAlike σ g₁ g₂) (input : Array (Token K)) :
    (g₁.silent.parseWith input {} ∅).1 = (g₂.silent.parseWith input {} ∅).1 ∧
      Translated σ (g₁.silent.parseWith input {} ∅).2 (g₂.silent.parseWith input {} ∅).2 := by
  have hbodies : ∀ ⦃name t₁ t₂⦄, g₁.markedTree? name = some t₁ → g₂.markedTree? name = some t₂ →
      g₁.tree? name = some (t₁.rename Prod.fst) → g₂.tree? name = some (t₂.rename Prod.fst) →
      t₁.spliced.rename (Prod.map id σ) = t₂.spliced.rename id := by
    intro name t₁ t₂ ht₁ ht₂ _ _
    have hsame := hσ.bodies name
    rw [ht₁, ht₂] at hsame
    rw [Expr.rename_id]
    exact Option.some.inj hsame
  have hnames : Prod.map id σ (start, g₁.startNode) = id (start, g₂.startNode) :=
    congrArg (Prod.mk start) hσ.startNode
  have hstart : g₁.Twins g₂ g₁.silent.startNode g₂.silent.startNode := .inl ⟨rfl, rfl⟩
  obtain ⟨o₁, run₁, h₁⟩ := evalKeeping_start_isSome hb₁.silent (Builder.build_silent hg₁) input
    (fun _ _ => true) {} ∅
  obtain ⟨o₂, run₂, h₂⟩ := evalKeeping_start_isSome hb₂.silent (Builder.build_silent hg₂) input
    (fun _ _ => true) {} ∅
  obtain ⟨k, hk⟩ := g₁.silent_silent.evalKeeping_translated g₂.silent_silent hσ.injective
    (twins_trees hb₁ hb₂ hg₁ hg₂ hnames hbodies) (twins_bodies hb₁ hb₂ hg₁ hg₂ htrees)
    (g₁.silent.depthBound input.size)
  obtain ⟨_, run, h, ⟨rfl, -⟩, hS⟩ :=
    (hk _ _ hstart 0 .consuming (.reset σ {} {})).exists h₁
  -- Both depths give the same result.
  have hsame := evalKeeping_mono (Nat.le_max_left k (g₂.silent.depthBound input.size)) h
  rw [evalKeeping_mono (Nat.le_max_right k (g₂.silent.depthBound input.size)) h₂] at hsame
  cases hsame
  rw [← eval_eq] at h₁ h₂
  have hparse₁ : g₁.silent.parseWith input {} ∅ = (o₁.complete input.size, run₁) := by
    simp only [parseWith, evalStart, h₁]
  have hparse₂ : g₂.silent.parseWith input {} ∅ = (o₁.complete input.size, run₂) := by
    simp only [parseWith, evalStart, h₂]
  rw [hparse₁, hparse₂]
  exact ⟨rfl, hS⟩

/-- They keep the same counts. -/
theorem parseWith_silent_of_sharedAlike (hb₁ : b₁.Made) (hb₂ : b₂.Made)
    (hg₁ : b₁.build start rules₁ = .ok g₁) (hg₂ : b₂.build start rules₂ = .ok g₂)
    (htrees : ∀ name, (g₁.tree? name).map Expr.spliced = (g₂.tree? name).map Expr.spliced)
    {σ : NodeId → NodeId} (hσ : SharedAlike σ g₁ g₂) (input : Array (Token K)) :
    (g₁.silent.parseWith input {} ∅).1 = (g₂.silent.parseWith input {} ∅).1 ∧
      (g₁.silent.parseWith input {} ∅).2.context.stats =
        (g₂.silent.parseWith input {} ∅).2.context.stats := by
  obtain ⟨houtcome, hbooks⟩ := parseWith_silent_translated hb₁ hb₂ hg₁ hg₂ htrees hσ input
  exact ⟨houtcome, hbooks.stats⟩

/-- **Grammars with the same trees parse alike**, but for the values that actions make, as long as
no call is refused: then the other parse refuses none either. If the grammars share their
non-terminals alike, they parse alike anyhow, and keep the same counts. Sequences within sequences
may be spliced, and other operators may be shared in any way. -/
theorem parseWith_of_spliced_eq [Inhabited T₁] [Inhabited T₂] (hb₁ : b₁.Made) (hb₂ : b₂.Made)
    (hg₁ : b₁.build start rules₁ = .ok g₁) (hg₂ : b₂.build start rules₂ = .ok g₂)
    (htrees : ∀ name, (g₁.tree? name).map Expr.spliced = (g₂.tree? name).map Expr.spliced)
    (input : Array (Token K)) (context₁ : Context N T₁) (context₂ : Context N T₂)
    (labels₁ labels₂ : Labels) :
    ((g₁.parseWith input context₁ labels₁).2.context.stats.cuts = 0 ↔
        (g₂.parseWith input context₂ labels₂).2.context.stats.cuts = 0) ∧
      ((g₁.parseWith input context₁ labels₁).2.context.stats.cuts = 0 →
        Outcome.Rel (fun _ _ => True) (g₁.parseWith input context₁ labels₁).1
          (g₂.parseWith input context₂ labels₂).1) ∧
      ∀ σ, SharedAlike σ g₁ g₂ →
        Outcome.Rel (fun _ _ => True) (g₁.parseWith input context₁ labels₁).1
            (g₂.parseWith input context₂ labels₂).1 ∧
          (g₁.parseWith input context₁ labels₁).2.context.stats =
            (g₂.parseWith input context₂ labels₂).2.context.stats := by
  obtain ⟨hrel₁, hbooks₁⟩ := parseWith_silent hb₁ hg₁ input context₁ labels₁
  obtain ⟨hrel₂, hbooks₂⟩ := parseWith_silent hb₂ hg₂ input context₂ labels₂
  obtain ⟨hcuts₁, hparse₁⟩ := parseWith_silent_cuts hb₁ hg₁ input
  obtain ⟨hcuts₂, hparse₂⟩ := parseWith_silent_cuts hb₂ hg₂ input
  have hover : ∀ o, g₁.silent.Parses input g₁.silent.startNode 0 .consuming o →
      g₂.silent.Parses input g₂.silent.startNode 0 .consuming o := fun o =>
    parses_silent_of_spliced_eq hb₁ hb₂ hg₁ hg₂ htrees
  have hback : ∀ o, g₂.silent.Parses input g₂.silent.startNode 0 .consuming o →
      g₁.silent.Parses input g₁.silent.startNode 0 .consuming o := fun o =>
    parses_silent_of_spliced_eq hb₂ hb₁ hg₂ hg₁ fun name => (htrees name).symm
  rw [hbooks₁.stats, hbooks₂.stats, hcuts₁, hcuts₂]
  refine ⟨⟨fun ⟨o, ho⟩ => ⟨o, hover o ho⟩, fun ⟨o, ho⟩ => ⟨o, hback o ho⟩⟩, ?_, fun σ hσ => ?_⟩
  · rintro ⟨o, ho⟩
    rw [hparse₁ o ho] at hrel₁
    rw [hparse₂ o (hover o ho)] at hrel₂
    exact hrel₁.of_rel hrel₂
  · obtain ⟨houtcome, hstats⟩ :=
      parseWith_silent_of_sharedAlike hb₁ hb₂ hg₁ hg₂ htrees hσ input
    rw [houtcome] at hrel₁
    exact ⟨hrel₁.of_rel hrel₂, hstats⟩

end Built

end Grammar

/-! ## Sharing that shows -/

namespace Grammar

/-- The grammar of the builder that has made the given operators, without actions. -/
def of (operators : List (Operator K N NodeId)) (start : N) (rules : List (Rule N)) :
    Grammar K N Unit :=
  ⟨(Builder.of (operators ++ [.nonTerminal start])).arena, rules, start, ⟨0, operators.length⟩,
    operators.length + 1, by simp [Builder.of, Arena.size]⟩

/-- The grammar is built if nothing is wrong with its rules. -/
theorem exists_build_of {operators : List (Operator K N NodeId)} {start : N}
    {rules : List (Rule N)}
    (h : ∀ index (hi : index < operators.length), operators[index].hasEnoughOperands ∧
      ∀ o ∈ operators[index].operands, o.index < index)
    (hrules : (Builder.of operators).arena.ruleError? start rules = none) :
    ∃ (b : Builder K N Unit) (rules' : List (Rule N)),
      b.Made ∧ b.build start rules' = .ok (Grammar.of operators start rules) := by
  refine ⟨.of operators, rules, Builder.made_of h, ?_⟩
  rw [Builder.build, hrules]
  have hnone : ({} : Registry K N Unit).forName start = none := rfl
  simp [Arena.push, Arena.idAt, Arena.ids, Arena.size, Builder.of, hnone, Grammar.of,
    Array.replicate_succ]

/-- The rule `S => [x] S | [x]`, with one operator for both terminals. -/
def onceTerminal : Grammar Char Char Unit :=
  .of [.terminal 'x', .nonTerminal 'S', .sequence [⟨0, 0⟩, ⟨0, 1⟩],
    .orderedChoice [⟨0, 2⟩, ⟨0, 0⟩]] 'S' [⟨'S', ⟨0, 3⟩⟩]

/-- The rule `S => [x] S | [x]`, with an operator for each terminal. -/
def twiceTerminal : Grammar Char Char Unit :=
  .of [.terminal 'x', .nonTerminal 'S', .sequence [⟨0, 0⟩, ⟨0, 1⟩], .terminal 'x',
    .orderedChoice [⟨0, 2⟩, ⟨0, 3⟩]] 'S' [⟨'S', ⟨0, 4⟩⟩]

/-- Both share their non-terminals alike, so they parse every input alike. -/
theorem parseWith_of_spliced_eq_rightRecursive :
    ∃ (b₁ b₂ : Builder Char Char Unit) (rules₁ rules₂ : List (Rule Char)),
      b₁.Made ∧ b₁.build 'S' rules₁ = .ok onceTerminal ∧
      b₂.Made ∧ b₂.build 'S' rules₂ = .ok twiceTerminal ∧
      ∀ input : Array (Token Char),
        Outcome.Rel (fun _ _ => True) (onceTerminal.parseWith input {} ∅).1
            (twiceTerminal.parseWith input {} ∅).1 ∧
          (onceTerminal.parseWith input {} ∅).2.context.stats =
            (twiceTerminal.parseWith input {} ∅).2.context.stats := by
  obtain ⟨b₁, rules₁, hb₁, hg₁⟩ : ∃ (b : Builder Char Char Unit) (rules : List (Rule Char)),
      b.Made ∧ b.build 'S' rules = .ok onceTerminal := exists_build_of (by decide) rfl
  obtain ⟨b₂, rules₂, hb₂, hg₂⟩ : ∃ (b : Builder Char Char Unit) (rules : List (Rule Char)),
      b.Made ∧ b.build 'S' rules = .ok twiceTerminal := exists_build_of (by decide) rfl
  refine ⟨b₁, b₂, rules₁, rules₂, hb₁, hg₁, hb₂, hg₂, fun input => ?_⟩
  have htree₁ : onceTerminal.tree? 'S' = some (.orderedChoice
      [.sequence [.terminal 'x', .nonTerminal 'S'], .terminal 'x']) := rfl
  have htree₂ : twiceTerminal.tree? 'S' = some (.orderedChoice
      [.sequence [.terminal 'x', .nonTerminal 'S'], .terminal 'x']) := rfl
  have hmarked₁ : onceTerminal.markedTree? 'S' = some (.orderedChoice
      [.sequence [.terminal 'x', .nonTerminal ('S', ⟨0, 1⟩)], .terminal 'x']) := rfl
  have hmarked₂ : twiceTerminal.markedTree? 'S' = some (.orderedChoice
      [.sequence [.terminal 'x', .nonTerminal ('S', ⟨0, 1⟩)], .terminal 'x']) := rfl
  -- The start nodes are at different places; the other non-terminal is at the same one.
  refine (parseWith_of_spliced_eq hb₁ hb₂ hg₁ hg₂ (fun name => ?_) input {} {} ∅ ∅).2.2
    (Equiv.swap ⟨0, 4⟩ ⟨0, 5⟩) ⟨Equiv.injective _, rfl, fun name => ?_⟩
  · by_cases hname : 'S' = name
    · rw [← hname, htree₁, htree₂]
    · simp [tree?, body?, onceTerminal, twiceTerminal, of, hname]
  · by_cases hname : 'S' = name
    · rw [← hname, hmarked₁, hmarked₂]
      rfl
    · simp [markedTree?, body?, onceTerminal, twiceTerminal, of, hname]

/-- The rules `S => A` and `A => A [x] | [x]`, with one operator for both calls of `A`. -/
def onceCalled : Grammar Char Char Unit :=
  .of [.nonTerminal 'A', .terminal 'x', .sequence [⟨0, 0⟩, ⟨0, 1⟩],
    .orderedChoice [⟨0, 2⟩, ⟨0, 1⟩]] 'S' [⟨'S', ⟨0, 0⟩⟩, ⟨'A', ⟨0, 3⟩⟩]

/-- The rules `S => A` and `A => A [x] | [x]`, with an operator for each call of `A`. -/
def twiceCalled : Grammar Char Char Unit :=
  .of [.nonTerminal 'A', .nonTerminal 'A', .terminal 'x', .sequence [⟨0, 1⟩, ⟨0, 2⟩],
    .orderedChoice [⟨0, 3⟩, ⟨0, 2⟩]] 'S' [⟨'S', ⟨0, 0⟩⟩, ⟨'A', ⟨0, 4⟩⟩]

/-- **Sharing can change the outcome.** If the call of `A` within `A` is the operator that is the
body of `S`, it is refused, and `A` matches one token. If it is another one, it is entered once, and
the call within it is refused. -/
theorem exists_parseWith_ne_of_shared :
    ∃ (b₁ b₂ : Builder Char Char Unit) (rules₁ rules₂ : List (Rule Char))
      (input : Array (Token Char)),
      b₁.Made ∧ b₁.build 'S' rules₁ = .ok onceCalled ∧
      b₂.Made ∧ b₂.build 'S' rules₂ = .ok twiceCalled ∧
      (∀ name, onceCalled.tree? name = twiceCalled.tree? name) ∧
      input.toList.map (·.tag) = ['x', 'x'] ∧
      (onceCalled.parseWith input {} ∅).1.isMatch = false ∧
      (onceCalled.parseWith input {} ∅).1.next = 1 ∧
      (twiceCalled.parseWith input {} ∅).1.isMatch = true ∧
      (twiceCalled.parseWith input {} ∅).1.next = 2 := by
  obtain ⟨b₁, rules₁, hb₁, hg₁⟩ : ∃ (b : Builder Char Char Unit) (rules : List (Rule Char)),
      b.Made ∧ b.build 'S' rules = .ok onceCalled := exists_build_of (by decide) rfl
  obtain ⟨b₂, rules₂, hb₂, hg₂⟩ : ∃ (b : Builder Char Char Unit) (rules : List (Rule Char)),
      b.Made ∧ b.build 'S' rules = .ok twiceCalled := exists_build_of (by decide) rfl
  refine ⟨b₁, b₂, rules₁, rules₂, #[⟨'x', ⟨0, 1⟩, "x"⟩, ⟨'x', ⟨1, 1⟩, "x"⟩], hb₁, hg₁, hb₂, hg₂,
    fun name => ?_, rfl, ?_⟩
  · have hstart₁ : onceCalled.tree? 'S' = some (.nonTerminal 'A') := rfl
    have hstart₂ : twiceCalled.tree? 'S' = some (.nonTerminal 'A') := rfl
    have hcalled₁ : onceCalled.tree? 'A' = some (.orderedChoice
        [.sequence [.nonTerminal 'A', .terminal 'x'], .terminal 'x']) := rfl
    have hcalled₂ : twiceCalled.tree? 'A' = some (.orderedChoice
        [.sequence [.nonTerminal 'A', .terminal 'x'], .terminal 'x']) := rfl
    by_cases hstart : 'S' = name
    · rw [← hstart, hstart₁, hstart₂]
    · by_cases hcalled : 'A' = name
      · rw [← hcalled, hcalled₁, hcalled₂]
      · simp [tree?, body?, onceCalled, twiceCalled, of, hstart, hcalled]
  · decide +kernel

end Grammar

end Packrat
