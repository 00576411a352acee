import Packrat.Proofs.Evaluation.Simulation
import Packrat.Proofs.Validation

/-!
# Descending through an arena

In an ordered arena the operands of an operator are older than the operator, those of other arenas
apart; so to go from an operator to its operands comes to an end (`Arena.Ordered.wellFounded`).
Whatever is computed from the operators bottom up is computed by a recursion without a bound on the
depth, and there is only one way to do so (`Arena.Ordered.eq_fold_iff`): trees and texts are of this
kind. In the same way an operator has an outcome as soon as all calls of rules do
(`Grammar.evalCalling_total`), although the evaluator is one that runs out of depth.
-/

namespace Packrat

variable {K N T β : Type}

namespace Arena

variable {a : Arena K N T} {id o : NodeId} {layer : Operator K N β → β} {foreign : β}
  {depth depth' : Nat}

/-! ## Operands are older -/

/-- The operator at `o` is an operand of the one at `id`, and both belong to the arena. -/
def IsOperand (a : Arena K N T) (o id : NodeId) : Prop :=
  ∃ op, a.get? id = some op ∧ o ∈ op.operands ∧ a.owns o

/-- An operand is older. -/
theorem Ordered.index_lt (ha : a.Ordered) (h : a.IsOperand o id) : o.index < id.index := by
  obtain ⟨op, hop, ho, hown⟩ := h
  exact ha hop o ho (isSome_get?_iff.1 (owns_iff.1 hown)).1

/-- **To go from operators to their operands comes to an end.** -/
theorem Ordered.wellFounded (ha : a.Ordered) : WellFounded a.IsOperand :=
  Subrelation.wf ha.index_lt (measure NodeId.index).wf

/-! ## Bottom up -/

/-- The value at an id from the values at its operands. -/
def layered (a : Arena K N T) (layer : Operator K N β → β) (foreign : β) (f : NodeId → β)
    (id : NodeId) : β :=
  match a.get? id with
  | none => foreign
  | some op => layer (op.map f)

theorem fold_succ (a : Arena K N T) (layer : Operator K N β → β) (foreign : β) (depth : Nat)
    (id : NodeId) : a.fold layer foreign (depth + 1) id =
      a.layered layer foreign (a.fold layer foreign depth) id := by
  rw [fold]
  rfl

theorem layered_of_not_owns (h : ¬ a.owns id) (f : NodeId → β) :
    a.layered layer foreign f id = foreign := by
  rw [owns_iff, Option.not_isSome_iff_eq_none] at h
  rw [layered, h]

/-- A foreign id has the foreign value at every depth. -/
theorem fold_of_not_owns (h : ¬ a.owns id) : a.fold layer foreign depth id = foreign := by
  cases depth with
  | zero => rfl
  | succ depth => rw [fold_succ, layered_of_not_owns h]

/-- The value at an id needs the values at operands of the arena only. -/
theorem layered_congr {f f' : NodeId → β} (hforeign : ∀ o, ¬ a.owns o → f o = f' o)
    (h : ∀ o, a.IsOperand o id → f o = f' o) :
    a.layered layer foreign f id = a.layered layer foreign f' id := by
  unfold layered
  cases hop : a.get? id with
  | none => rfl
  | some op =>
    refine congrArg layer (Operator.map_congr fun o ho => ?_)
    by_cases hown : a.owns o
    · exact h o ⟨op, hop, ho, hown⟩
    · exact hforeign o hown

/-- A value does not depend on the depth, if this is beyond the index. -/
theorem Ordered.fold_eq (ha : a.Ordered) (hdepth : a.owns id → id.index < depth)
    (hdepth' : a.owns id → id.index < depth') :
    a.fold layer foreign depth id = a.fold layer foreign depth' id := by
  induction id using ha.wellFounded.induction generalizing depth depth' with
  | _ id ih =>
    by_cases hown : a.owns id
    · obtain ⟨d, rfl⟩ : ∃ d, depth = d + 1 := ⟨depth - 1, by have := hdepth hown; omega⟩
      obtain ⟨d', rfl⟩ : ∃ d', depth' = d' + 1 := ⟨depth' - 1, by have := hdepth' hown; omega⟩
      rw [fold_succ, fold_succ]
      refine layered_congr (fun o ho => ?_) fun o ho => ?_
      · rw [fold_of_not_owns ho, fold_of_not_owns ho]
      · have hlt := ha.index_lt ho
        refine ih o ho (fun _ => ?_) fun _ => ?_
        · have := hdepth hown
          omega
        · have := hdepth' hown
          omega
    · rw [fold_of_not_owns hown, fold_of_not_owns hown]

/-- **There is one way to compute values bottom up**, and a fold to the depth of the arena, or a
greater one, computes them. -/
theorem Ordered.eq_fold_iff (ha : a.Ordered) (f : NodeId → β) (hdepth : a.size ≤ depth) :
    (∀ id, f id = a.layered layer foreign f id) ↔ f = a.fold layer foreign depth := by
  have hindex : ∀ id, a.owns id → id.index < depth := by
    intro id hown
    have := (isSome_get?_iff.1 (owns_iff.1 hown)).2
    omega
  constructor
  · intro hf
    funext id
    induction id using ha.wellFounded.induction with
    | _ id ih =>
      have hmore : a.fold layer foreign depth id = a.fold layer foreign (depth + 1) id :=
        ha.fold_eq (hindex id) fun hown => Nat.lt_succ_of_lt (hindex id hown)
      rw [hf, hmore, fold_succ]
      refine layered_congr (fun o ho => ?_) ih
      rw [hf, layered_of_not_owns ho, fold_of_not_owns ho]
  · rintro rfl id
    rw [← fold_succ]
    exact ha.fold_eq (hindex id) fun hown => Nat.lt_succ_of_lt (hindex id hown)

end Arena

/-! ## Evaluation between calls -/

namespace Grammar

variable {input : Array (Token K)} {ev : Evaluator N T} {operand : NodeId} {mode : Mode}

/-- A repetition comes to an end if its operand always has an outcome: each turn that is followed by
another one leaves fewer tokens. -/
theorem repetition_isSome (hev : ∀ p (run : Run N T), (ev operand p mode run).isSome)
    (turns p : Nat) (hturns : input.size - p < turns) (values : List T) (run : Run N T) :
    (repetition input ev operand mode turns p values run).isSome := by
  induction turns generalizing p values run with
  | zero => omega
  | succ turns ih =>
    obtain ⟨⟨o, run'⟩, ho⟩ := Option.isSome_iff_exists.1 (hev p run)
    rw [repetition, ho]
    cases o with
    | failed q => rfl
    | matched next span value =>
      dsimp only
      split
      · exact ih next (by omega) _ _
      · rfl

variable [ToString K] [ToString N] [Inhabited T] {g : Grammar K N T} {id : NodeId} {start : Nat}

/-- A sequence has an outcome if its operands always do. -/
theorem sequence_isSome {operands : List NodeId}
    (hev : ∀ o ∈ operands, ∀ p (run : Run N T), (ev o p mode run).isSome) (p : Nat)
    (values : List T) (run : Run N T) :
    (g.sequence input ev id start mode operands p values run).isSome := by
  induction operands generalizing p values run with
  | nil => rfl
  | cons operand rest ih =>
    obtain ⟨hfirst, hrest⟩ := List.forall_mem_cons.1 hev
    obtain ⟨⟨o, run'⟩, ho⟩ := Option.isSome_iff_exists.1 (hfirst p run)
    rw [sequence, ho]
    cases o with
    | failed q => rfl
    | matched next span value => exact ih hrest next _ _

/-- So does a choice. -/
theorem choice_isSome {operands : List NodeId}
    (hev : ∀ o ∈ operands, ∀ p (run : Run N T), (ev o p mode run).isSome) (run : Run N T) :
    (g.choice input ev id start mode operands run).isSome := by
  induction operands generalizing run with
  | nil => rfl
  | cons operand rest ih =>
    obtain ⟨hfirst, hrest⟩ := List.forall_mem_cons.1 hev
    obtain ⟨⟨o, run'⟩, ho⟩ := Option.isSome_iff_exists.1 (hfirst start run)
    rw [choice, ho]
    cases o with
    | failed q => exact ih hrest _
    | matched next span value => rfl

variable [DecidableEq K] {callRule : CallRule N T}

/-- **An operator has an outcome if its operands always do**, and the rule that it calls. -/
theorem step_isSome
    (hcall : ∀ name p mode (run : Run N T), (callRule id name p mode run).isSome)
    (hev : ∀ op, g.arena.get? id = some op → ∀ o ∈ op.operands, ∀ p mode (run : Run N T),
      (ev o p mode run).isSome) (p : Nat) (mode : Mode) (run : Run N T) :
    (g.step input callRule ev id p mode run).isSome := by
  rw [step]
  cases hop : g.arena.get? id with
  | none => rfl
  | some op =>
    have hops := hev op hop
    cases op with
    | terminal tag =>
      dsimp only
      split <;> rfl
    | nonTerminal name => exact hcall name p mode run
    | emptyString =>
      dsimp only
      split <;> rfl
    | sequence operands => exact sequence_isSome (fun o ho q => hops o ho q mode) p [] run
    | orderedChoice operands => exact choice_isSome (fun o ho q => hops o ho q mode) run
    | optional operand =>
      obtain ⟨⟨o, run'⟩, ho⟩ := Option.isSome_iff_exists.1
        (hops operand List.mem_cons_self p mode run)
      simp only [ho]
      cases o with
      | matched next span value => rfl
      | failed q =>
        dsimp only
        split <;> rfl
    | zeroOrMore operand =>
      have hturns : (repetition input ev operand mode (input.size + 1) p [] run).isSome :=
        repetition_isSome (hops operand List.mem_cons_self · mode) _ p (by omega) [] run
      obtain ⟨⟨⟨stop, values⟩, run'⟩, hr⟩ := Option.isSome_iff_exists.1 hturns
      simp only [hr]
      rfl
    | oneOrMore operand =>
      have hturns : (repetition input ev operand mode (input.size + 1) p [] run).isSome :=
        repetition_isSome (hops operand List.mem_cons_self · mode) _ p (by omega) [] run
      obtain ⟨⟨⟨stop, values⟩, run'⟩, hr⟩ := Option.isSome_iff_exists.1 hturns
      simp only [hr]
      cases values <;> rfl
    | andPredicate operand =>
      obtain ⟨⟨o, run'⟩, ho⟩ := Option.isSome_iff_exists.1
        (hops operand List.mem_cons_self p .probing run)
      simp only [ho]
      cases o <;> rfl
    | notPredicate operand =>
      obtain ⟨⟨o, run'⟩, ho⟩ := Option.isSome_iff_exists.1
        (hops operand List.mem_cons_self p .probing run)
      simp only [ho]
      cases o <;> rfl

/-- **If every call of a rule has an outcome, so has every operator**, and the same at every depth
beyond that of the arena: between two calls evaluation descends from operators to their operands. -/
theorem evalCalling_total (ha : g.arena.Ordered)
    (hcall : ∀ id name p mode (run : Run N T), (callRule id name p mode run).isSome) (id : NodeId)
    (p : Nat) (mode : Mode) (run : Run N T) :
    ∃ x, ∀ depth, g.arena.size < depth →
      g.evalCalling input (fun _ => callRule) depth id p mode run = some x := by
  have hdepth : ∀ depth, (g.arena.owns id → id.index + 1 < depth) → 0 < depth →
      ∀ p mode (run : Run N T),
        (g.evalCalling input (fun _ => callRule) depth id p mode run).isSome := by
    induction id using ha.wellFounded.induction with
    | _ id ih =>
      intro depth hindex hpos p mode run
      obtain ⟨d, rfl⟩ : ∃ d, depth = d + 1 := ⟨depth - 1, by omega⟩
      refine step_isSome (hcall id) (fun op hop o ho => ?_) p mode run
      have hown : g.arena.owns id := Arena.owns_iff.2 (hop ▸ rfl)
      have hd := hindex hown
      by_cases hown' : g.arena.owns o
      · have hoperand : g.arena.IsOperand o id := ⟨op, hop, ho, hown'⟩
        have hlt := ha.index_lt hoperand
        exact ih o hoperand d (fun _ => by omega) (by omega)
      · -- A foreign operand fails at once.
        have hnone : g.arena.get? o = none := by
          rwa [Arena.owns_iff, Option.not_isSome_iff_eq_none] at hown'
        obtain ⟨d, rfl⟩ : ∃ d', d = d' + 1 := ⟨d - 1, by omega⟩
        intro p mode run
        exact step_isSome (hcall o) (fun op hop => by rw [hnone] at hop; cases hop) p mode run
  have hleast : g.arena.owns id → id.index + 1 < g.arena.size + 1 := by
    intro hown
    have := (Arena.isSome_get?_iff.1 (Arena.owns_iff.1 hown)).2
    omega
  obtain ⟨x, hx⟩ := Option.isSome_iff_exists.1
    (hdepth (g.arena.size + 1) hleast (Nat.succ_pos _) p mode run)
  have hmono : MonotoneCalls fun _ : Evaluator N T => callRule := by
    intro ev₁ ev₂ _ id name p mode run x h
    exact h
  exact ⟨x, fun depth hlt => evalCalling_mono hmono hlt hx⟩

end Grammar

end Packrat
