import Packrat.Proofs.Construction
import Packrat.Proofs.Expressions

/-!
# Unfolding an arena

An arena that reaches no foreign id unfolds to a tree, because operands are older than the operators
that use them (`Arena.Ordered.exists_unfold`); so everything in a grammar that takes part in parses
unfolds (`Grammar.Live.exists_unfold`). What is computed from the operators of the arena bottom up
is what is computed from the tree (`Arena.fold_of_unfolding`).

`Arena.marked` names each non-terminal by its id as well, so that the tree at an id tells which of
its non-terminals are the same operator.
-/

namespace Packrat

variable {K N T β : Type}

/-! ## Trees in an arena -/

namespace Arena

/-- The tree of the operator at an id, if it is not deeper than this. -/
def unfolding (a : Arena K N T) (depth : Nat) (id : NodeId) : Option (Expr K N) :=
  a.fold (fun layer => layer.allSome?.map Operator.toExpr) none depth id

variable {a : Arena K N T} {id : NodeId} {depth : Nat} {e : Expr K N}

/-- The operator at an id unfolds if its operands do. -/
theorem unfolding_succ_eq_some : a.unfolding (depth + 1) id = some e ↔
    ∃ op, a.get? id = some op ∧
      Operator.Rel Eq (fun o item => a.unfolding depth o = some item) op e.operator := by
  rw [unfolding, fold]
  cases a.get? id with
  | none => simp
  | some op =>
    simp only [Option.map_eq_some_iff, Option.some.injEq, exists_eq_left']
    rw [← Operator.allSome?_map_eq_some]
    constructor
    · rintro ⟨op', hop', rfl⟩
      rw [Expr.operator_toExpr]
      exact hop'
    · intro h
      exact ⟨_, h, e.toExpr_operator⟩

/-- **A value computed from the operators of an arena is that of the tree**, at every depth that is
enough for the tree. -/
theorem fold_of_unfolding (h : a.unfolding depth id = some e) (layer : Operator K N β → β)
    (foreign : β) {depth' : Nat} (hle : depth ≤ depth') :
    a.fold layer foreign depth' id = e.fold layer := by
  induction depth generalizing id e depth' with
  | zero => cases h
  | succ depth ih =>
    obtain ⟨depth', rfl⟩ := Nat.exists_eq_succ_of_ne_zero (by omega : depth' ≠ 0)
    obtain ⟨op, hop, hrel⟩ := unfolding_succ_eq_some.1 h
    have hmap : op.map (a.fold layer foreign depth') = e.operator.map (Expr.fold layer) :=
      (hrel.imp (fun _ _ h => h) fun o _ item _ ho => ih ho (by omega)).map_eq
    rw [fold, hop, Expr.fold_eq, ← hmap]

/-- The text of an operator is that of its tree. -/
theorem render_eq_text [ToString K] [ToString N] (h : a.unfold? id = some e) :
    a.render id = e.text :=
  fold_of_unfolding h _ _ (Nat.le_refl _)

/-- More depth unfolds to the same tree. -/
theorem unfolding_mono (h : a.unfolding depth id = some e) {depth' : Nat} (hle : depth ≤ depth') :
    a.unfolding depth' id = some e := by
  induction depth generalizing id e depth' with
  | zero => cases h
  | succ depth ih =>
    obtain ⟨depth', rfl⟩ := Nat.exists_eq_succ_of_ne_zero (by omega : depth' ≠ 0)
    obtain ⟨op, hop, hrel⟩ := unfolding_succ_eq_some.1 h
    have hrel' := hrel.imp (fun _ _ h => h) fun o _ item _ ho => ih ho (Nat.le_of_succ_le_succ hle)
    exact unfolding_succ_eq_some.2 ⟨op, hop, hrel'⟩

/-- A tree of operators with enough operands is full. -/
theorem full_of_unfolding (ha : ∀ ⦃id op⦄, a.get? id = some op → op.hasEnoughOperands)
    (h : a.unfolding depth id = some e) : e.Full := by
  induction depth generalizing id e with
  | zero => cases h
  | succ depth ih =>
    obtain ⟨op, hop, hrel⟩ := unfolding_succ_eq_some.1 h
    rw [Expr.full_iff, ← hrel.hasEnoughOperands]
    refine ⟨ha hop, fun item hitem => ?_⟩
    obtain ⟨o, -, ho⟩ := hrel.exists_of_mem hitem
    exact ih ho

/-- A tree has the tags and names of the operators that it is unfolded from. -/
theorem over_of_unfolding {P : K → Prop} {Q : N → Prop} {S : NodeId → Prop}
    (hS : ∀ ⦃id op⦄, S id → a.get? id = some op → op.Over P Q ∧ ∀ o ∈ op.operands, S o)
    (hid : S id) (h : a.unfolding depth id = some e) : e.Over P Q := by
  induction depth generalizing id e with
  | zero => cases h
  | succ depth ih =>
    obtain ⟨op, hop, hrel⟩ := unfolding_succ_eq_some.1 h
    obtain ⟨hover, hops⟩ := hS hid hop
    refine Expr.over_iff.2 ⟨hrel.over.2 hover, fun item hitem => ?_⟩
    obtain ⟨o, ho, hitem⟩ := hrel.exists_of_mem hitem
    exact ih (hops o ho) hitem

/-- What is reachable from an id that unfolds is owned, and has the tags and names of the tree. -/
theorem exists_over_of_reaches {P : K → Prop} {Q : N → Prop} {root : NodeId}
    (h : a.unfolding depth root = some e) (hover : e.Over P Q) (hid : a.Reaches root id) :
    ∃ op, a.get? id = some op ∧ op.Over P Q := by
  -- Everything on the way unfolds to a part of the tree.
  have htree : ∃ depth t, a.unfolding (depth + 1) id = some t ∧ t.Over P Q := by
    induction hid with
    | root =>
      cases depth with
      | zero => cases h
      | succ depth => exact ⟨depth, e, h, hover⟩
    | @operand id o operator _ hget ho ih =>
      obtain ⟨depth, t, ht, htover⟩ := ih
      obtain ⟨op, hop, hrel⟩ := unfolding_succ_eq_some.1 ht
      rw [hget] at hop
      cases hop
      obtain ⟨item, hitem, hunfold⟩ := hrel.flip.exists_of_mem ho
      cases depth with
      | zero => cases hunfold
      | succ depth => exact ⟨depth, item, hunfold, (Expr.over_iff.1 htover).2 item hitem⟩
  obtain ⟨depth, t, ht, htover⟩ := htree
  obtain ⟨op, hop, hrel⟩ := unfolding_succ_eq_some.1 ht
  exact ⟨op, hop, hrel.over.1 (Expr.over_iff.1 htover).1⟩

/-- An ordered arena unfolds where it reaches no foreign id. -/
theorem Ordered.exists_unfold (ha : a.Ordered) {P : NodeId → Prop}
    (hP : ∀ ⦃id⦄, P id → ∃ op, a.get? id = some op ∧ ∀ o ∈ op.operands, P o) (hid : P id) :
    ∃ e, a.unfold? id = some e := by
  have hdepth : ∀ index, ∀ id : NodeId, P id → id.index = index →
      ∃ e, a.unfolding (index + 1) id = some e := by
    intro index
    induction index using Nat.strong_induction_on with
    | _ index ih =>
      rintro id hid rfl
      obtain ⟨op, hop, hops⟩ := hP hid
      -- Operands are older, so they unfold at this depth.
      have hoperands : ∀ o ∈ op.operands, ∃ item, a.unfolding id.index o = some item := by
        intro o ho
        obtain ⟨op', hop', -⟩ := hP (hops o ho)
        have hlt := ha hop o ho (owned_of_get? hop').1
        obtain ⟨item, hitem⟩ := ih o.index hlt o (hops o ho) rfl
        exact ⟨item, unfolding_mono hitem hlt⟩
      obtain ⟨op', hrel⟩ := Operator.exists_rel hoperands
      refine ⟨op'.toExpr, unfolding_succ_eq_some.2 ⟨op, hop, ?_⟩⟩
      rwa [Expr.operator_toExpr]
  obtain ⟨e, he⟩ := hdepth id.index id hid rfl
  obtain ⟨op, hop, -⟩ := hP hid
  exact ⟨e, unfolding_mono he (owned_of_get? hop).2⟩

/-- Arenas with the same operators have the same values. -/
theorem fold_congr {T₁ T₂ : Type} {a₁ : Arena K N T₁} {a₂ : Arena K N T₂}
    (h : ∀ id, a₁.get? id = a₂.get? id) (layer : Operator K N β → β) (foreign : β) (depth : Nat)
    (id : NodeId) : a₁.fold layer foreign depth id = a₂.fold layer foreign depth id := by
  induction depth generalizing id with
  | zero => rfl
  | succ depth ih =>
    have hoperands : a₁.fold layer foreign depth = a₂.fold layer foreign depth := funext ih
    rw [fold, fold, h id, hoperands]

/-! ## Which non-terminals are the same -/

/-- The arena with every non-terminal named by its id as well. -/
def marked (a : Arena K N T) : Arena K (N × NodeId) T where
  id := a.id
  operators := a.operators.mapIdx fun index op => op.rename (·, a.idAt index)
  actions := a.actions
  aligned := by simp [a.aligned]

theorem get?_marked (a : Arena K N T) (id : NodeId) :
    a.marked.get? id = (a.get? id).map (Operator.rename (·, id)) := by
  by_cases hid : id.arena = a.id
  · have hat : a.idAt id.index = id := by rw [idAt, ← hid]
    simp only [get?, marked, hid, if_true, Array.getElem?_mapIdx, hat]
  · simp [get?, marked, hid]

/-- The trees of a marked arena are those of the arena, once the marks are taken off. -/
theorem unfolding_of_marked {t : Expr K (N × NodeId)}
    (h : a.marked.unfolding depth id = some t) :
    a.unfolding depth id = some (t.rename Prod.fst) := by
  induction depth generalizing id t with
  | zero => cases h
  | succ depth ih =>
    obtain ⟨op, hop, hrel⟩ := unfolding_succ_eq_some.1 h
    rw [get?_marked, Option.map_eq_some_iff] at hop
    obtain ⟨op, hop, rfl⟩ := hop
    refine unfolding_succ_eq_some.2 ⟨op, hop, ?_⟩
    rw [Expr.operator_rename]
    have hnames : Operator.Rel (fun name x => name = Prod.fst x)
        (fun o item => a.unfolding depth o = some (item.rename Prod.fst)) op t.operator :=
      hrel.of_rename.imp (fun _ _ h => h ▸ rfl) fun o _ item _ ho => ih ho
    have hmap : Operator.Rel (fun name x => name = Prod.fst x)
        (fun o item => a.unfolding depth o = some item) (op.map fun o => o)
        (t.operator.map (Expr.rename Prod.fst)) := hnames.map (fun o => o) (Expr.rename Prod.fst)
    rw [Operator.map_self] at hmap
    exact hmap.rename

/-- An arena with the operators of another one under other ids has its trees, with the other ids as
marks. -/
theorem unfolding_marked_of_map {T₁ T₂ : Type} {a₁ : Arena K N T₁} {a₂ : Arena K N T₂}
    {σ : NodeId → NodeId} (hσ : ∀ id, a₂.get? (σ id) = (a₁.get? id).map (Operator.map σ))
    {t : Expr K (N × NodeId)} (h : a₁.marked.unfolding depth id = some t) :
    a₂.marked.unfolding depth (σ id) = some (t.rename fun x => (x.1, σ x.2)) := by
  induction depth generalizing id t with
  | zero => cases h
  | succ depth ih =>
    obtain ⟨op, hop, hrel⟩ := unfolding_succ_eq_some.1 h
    rw [get?_marked, Option.map_eq_some_iff] at hop
    obtain ⟨op, hop, rfl⟩ := hop
    have hget : a₂.marked.get? (σ id) = some ((op.rename (·, σ id)).map σ) := by
      rw [get?_marked, hσ, hop, Operator.map_rename]
      rfl
    refine unfolding_succ_eq_some.2 ⟨_, hget, ?_⟩
    rw [Expr.operator_rename, ← Operator.map_rename]
    refine Operator.Rel.map _ _ (Operator.Rel.rename (Operator.Rel.rename_left ?_))
    refine hrel.of_rename.imp ?_ fun o _ item _ ho => ih ho
    rintro name x rfl
    rfl

/-- A marked arena is ordered like the arena. -/
theorem Ordered.marked (ha : a.Ordered) : a.marked.Ordered := by
  intro id op hop o ho
  rw [get?_marked, Option.map_eq_some_iff] at hop
  obtain ⟨op, hop, rfl⟩ := hop
  refine ha hop o ?_
  cases op <;> exact ho

end Arena

/-! ## The trees of a grammar -/

/-- Every operator of a builder has enough operands. -/
theorem Builder.Made.hasEnoughOperands {b : Builder K N T} (h : b.Made) {id : NodeId}
    {op : Operator K N NodeId} (hop : b.arena.get? id = some op) : op.hasEnoughOperands := by
  induction h generalizing id op with
  | new => simp [Builder.new, Arena.empty, Arena.get?] at hop
  | withRegistry _ _ ih => exact ih hop
  | @addWith b b' operator action new _ _ hadd ih =>
    obtain ⟨kept, harena⟩ := Builder.addWith_eq_ok hadd
    rw [harena, Arena.get?_push] at hop
    split at hop
    · cases hop
      unfold Builder.addWith at hadd
      split at hadd
      · next henough => exact henough
      · cases hadd
    · exact ih hop

namespace Grammar

variable [DecidableEq N] {b : Builder K N T} {start : N} {rules : List (Rule N)}
  {g : Grammar K N T} {id : NodeId}

/-- The tree of the rule with a name. -/
def tree? (g : Grammar K N T) (name : N) : Option (Expr K N) :=
  (g.body? name).bind g.arena.unfold?

/-- Every operator of a grammar has enough operands. -/
theorem hasEnoughOperands (hb : b.Made) (hg : b.build start rules = .ok g)
    {op : Operator K N NodeId} (hop : g.arena.get? id = some op) : op.hasEnoughOperands := by
  obtain ⟨-, -, -, -, harena⟩ := Builder.build_eq_ok hg
  rw [harena, Arena.get?_push] at hop
  split at hop
  · cases hop
    rfl
  · exact hb.hasEnoughOperands hop

/-- **What takes part in parses unfolds**, with and without marks. -/
theorem Live.exists_unfold (hb : b.Made) (hg : b.build start rules = .ok g) (hid : g.Live id) :
    ∃ t, g.arena.marked.unfold? id = some t ∧
      g.arena.unfold? id = some (t.rename Prod.fst) ∧ (t.rename Prod.fst).Full := by
  have hclosed : ∀ ⦃id⦄, g.Live id →
      ∃ op, g.arena.marked.get? id = some op ∧ ∀ o ∈ op.operands, g.Live o := by
    intro id hid
    obtain ⟨op, hop, hops, -⟩ := hid.closed hg
    refine ⟨op.rename (·, id), by rw [Arena.get?_marked, hop]; rfl, ?_⟩
    cases op <;> exact hops
  obtain ⟨t, ht⟩ := (Grammar.ordered hb hg).marked.exists_unfold hclosed hid
  have hsize : g.arena.marked.size = g.arena.size := by simp [Arena.size, Arena.marked]
  have htree : g.arena.unfold? id = some (t.rename Prod.fst) := by
    rw [ Arena.unfold?, hsize] at ht
    exact Arena.unfolding_of_marked ht
  exact ⟨t, ht, htree, Arena.full_of_unfolding (fun _ _ => hasEnoughOperands hb hg) htree⟩

end Grammar

end Packrat
