import Mathlib.Data.List.Forall2
import Packrat.Peg.Eval

/-!
# Evaluations side by side

Two evaluators may differ in how they call rules, in the mode, in the values that actions make, or
in the books they keep. `Grammar.step` treats both alike: if rule calls and operands of the second
follow those of the first, so does the operator that has them (`Alike.step`). One evaluation
follows another (`Follows`) if it has a result wherever the other has one, and the results are
related: the outcomes agree but for values (`Outcome.Rel`), and the runs are in a relation `S` that
firing an action keeps.

Everything that compares two evaluators is an instance: more depth, other labels, another mode,
with or without a memo table. `Grammar.evalCalling` is evaluation with a given way to call rules,
and more depth never changes a result of it (`Grammar.evalCalling_mono`).
-/

namespace Packrat

variable {K N T₁ T₂ : Type}

/-- The outcomes agree in all but their values, which are related by `V`. -/
inductive Outcome.Rel (V : T₁ → T₂ → Prop) : Outcome T₁ → Outcome T₂ → Prop
  | matched (next : Nat) (span : Span) {v₁ : T₁} {v₂ : T₂} :
      V v₁ v₂ → Rel V (.matched next span v₁) (.matched next span v₂)
  | failed (position : Nat) : Rel V (.failed position) (.failed position)

/-- Outcomes with equal values are equal. -/
theorem Outcome.Rel.eq {T : Type} {o₁ o₂ : Outcome T} (h : Outcome.Rel (· = ·) o₁ o₂) :
    o₁ = o₂ := by
  cases h with
  | matched next span hv => rw [hv]
  | failed position => rfl

/-- Every outcome is related to itself by equality. -/
theorem Outcome.Rel.refl {T : Type} (o : Outcome T) : Outcome.Rel (· = ·) o o := by
  cases o with
  | matched next span v => exact .matched next span rfl
  | failed position => exact .failed position

/-- Where the first evaluation has a result, the second has one too, and the results are related by
`R` and the runs by `S`. If `lax` holds, the second may also run out of depth. -/
def Follows {α β : Type} (lax : Prop) (R : α → β → Prop) (S : Run N T₁ → Run N T₂ → Prop)
    (x₁ : Option (α × Run N T₁)) (x₂ : Option (β × Run N T₂)) : Prop :=
  ∀ ⦃a r₁⦄, x₁ = some (a, r₁) → (lax ∧ x₂ = none) ∨ ∃ b r₂, x₂ = some (b, r₂) ∧ R a b ∧ S r₁ r₂

/-- Two results at hand that are related. -/
theorem Follows.some {α β : Type} {lax : Prop} {R : α → β → Prop}
    {S : Run N T₁ → Run N T₂ → Prop} {a : α} {b : β} {r₁ : Run N T₁} {r₂ : Run N T₂}
    (hR : R a b) (hS : S r₁ r₂) : Follows lax R S (some (a, r₁)) (some (b, r₂)) := by
  intro o r hr
  cases hr
  exact .inr ⟨_, _, rfl, hR, hS⟩

/-- A second evaluation that may run out of depth and does so. -/
theorem Follows.none {α β : Type} {lax : Prop} {R : α → β → Prop}
    {S : Run N T₁ → Run N T₂ → Prop} {x₁ : Option (α × Run N T₁)} (h : lax) :
    Follows lax R S x₁ (none : Option (β × Run N T₂)) :=
  fun _ _ _ => .inl ⟨h, rfl⟩

/-- An evaluation whose results the second has as well is followed by it exactly. -/
theorem Follows.exists {α β : Type} {R : α → β → Prop} {S : Run N T₁ → Run N T₂ → Prop}
    {x₁ : Option (α × Run N T₁)} {x₂ : Option (β × Run N T₂)} {a : α} {r₁ : Run N T₁}
    (h : Follows False R S x₁ x₂) (hx : x₁ = .some (a, r₁)) :
    ∃ b r₂, x₂ = .some (b, r₂) ∧ R a b ∧ S r₁ r₂ :=
  (h hx).resolve_left fun h => h.1

/-- The mode in which the operands of an operator are tried. -/
def Operator.operandMode {ι : Type} (op : Operator K N ι) (mode : Mode) : Mode :=
  if op.kind.isPredicate then .probing else mode

namespace Grammar

variable {lax : Prop}

/-- How the ends of two repetitions are related: they stop at the same place, with related
values. -/
def StopsAlike (V : T₁ → T₂ → Prop) (x₁ : Nat × List T₁) (x₂ : Nat × List T₂) : Prop :=
  x₁.1 = x₂.1 ∧ List.Forall₂ V x₁.2 x₂.2

/-- The turns of a repetition. -/
theorem repetition_follows {input : Array (Token K)} {V : T₁ → T₂ → Prop}
    {S : Run N T₁ → Run N T₂ → Prop} {m₁ m₂ : Mode} {ev₁ : Evaluator N T₁} {ev₂ : Evaluator N T₂}
    {operand : NodeId}
    (hev : ∀ p ⦃r₁ r₂⦄, S r₁ r₂ →
      Follows lax (Outcome.Rel V) S (ev₁ operand p m₁ r₁) (ev₂ operand p m₂ r₂)) (turns : Nat) :
    ∀ (p : Nat) ⦃vs₁ vs₂ r₁ r₂⦄, List.Forall₂ V vs₁ vs₂ → S r₁ r₂ →
      Follows lax (StopsAlike V) S (repetition input ev₁ operand m₁ turns p vs₁ r₁)
        (repetition input ev₂ operand m₂ turns p vs₂ r₂) := by
  induction turns with
  | zero =>
    intro p vs₁ vs₂ r₁ r₂ hv hS o r hr
    cases hr
  | succ turns ih =>
    intro p vs₁ vs₂ r₁ r₂ hv hS o r hr
    rw [repetition] at hr ⊢
    split at hr
    · cases hr
    · next hop =>
      rcases hev p hS hop with ⟨hlax, hop₂⟩ | ⟨_, r₂', hop₂, ⟨⟩, hS'⟩ <;> rw [hop₂]
      · exact Follows.none hlax hr
      · exact Follows.some ⟨rfl, hv⟩ hS' hr
    · next hop =>
      rcases hev p hS hop with ⟨hlax, hop₂⟩ | ⟨_, r₂', hop₂, ⟨_, _, hval⟩, hS'⟩ <;>
        rw [hop₂] <;> dsimp only
      · exact Follows.none hlax hr
      split at hr
      · next hgo =>
        rw [if_pos hgo]
        exact ih _ (.cons hval hv) hS' hr
      · next hstop =>
        rw [if_neg hstop]
        exact Follows.some ⟨rfl, .cons hval hv⟩ hS' hr

section SideBySide

variable [ToString K] [ToString N] [Inhabited T₁] [Inhabited T₂]

/-- What two evaluations, in the modes `m₁` and `m₂`, must have in common: the operators, and that
firing the action of an operator keeps values related by `V` and runs related by `S`. -/
structure Alike (g₁ : Grammar K N T₁) (g₂ : Grammar K N T₂) (input : Array (Token K))
    (V : T₁ → T₂ → Prop) (S : Run N T₁ → Run N T₂ → Prop) (m₁ m₂ : Mode) : Prop where
  operators : ∀ id, g₁.arena.get? id = g₂.arena.get? id
  default : V default default
  fire : ∀ id span ⦃vs₁ vs₂ r₁ r₂⦄, List.Forall₂ V vs₁ vs₂ → S r₁ r₂ →
    V (g₁.fire input id span vs₁ m₁ r₁).1 (g₂.fire input id span vs₂ m₂ r₂).1 ∧
      S (g₁.fire input id span vs₁ m₁ r₁).2 (g₂.fire input id span vs₂ m₂ r₂).2

namespace Alike

variable {g₁ : Grammar K N T₁} {g₂ : Grammar K N T₂} {input : Array (Token K)}
  {V : T₁ → T₂ → Prop} {S : Run N T₁ → Run N T₂ → Prop} {m₁ m₂ : Mode}
  {ev₁ : Evaluator N T₁} {ev₂ : Evaluator N T₂}

/-- Firing at the end of a match keeps outcomes and runs related. -/
theorem finish (h : Alike g₁ g₂ input V S m₁ m₂) (id : NodeId) (next : Nat) (span : Span)
    {vs₁ : List T₁} {vs₂ : List T₂} {r₁ : Run N T₁} {r₂ : Run N T₂} (hv : List.Forall₂ V vs₁ vs₂)
    (hS : S r₁ r₂) :
    Follows lax (Outcome.Rel V) S
      (some (.matched next span (g₁.fire input id span vs₁ m₁ r₁).1,
        (g₁.fire input id span vs₁ m₁ r₁).2))
      (some (.matched next span (g₂.fire input id span vs₂ m₂ r₂).1,
        (g₂.fire input id span vs₂ m₂ r₂).2)) := by
  have ⟨hval, hrun⟩ := h.fire id span hv hS
  exact .some (.matched _ _ hval) hrun

/-- A non-terminal with an action applies it on both sides. -/
theorem finishCall {mode : Mode} (h : Alike g₁ g₂ input V S mode mode)
    (hact : ∀ id, (g₁.arena.action? id).isSome = (g₂.arena.action? id).isSome) (id : NodeId)
    {o₁ : Outcome T₁} {o₂ : Outcome T₂} {r₁ : Run N T₁} {r₂ : Run N T₂}
    (ho : Outcome.Rel V o₁ o₂) (hS : S r₁ r₂) :
    Follows lax (Outcome.Rel V) S (some (g₁.finishCall input id mode o₁ r₁))
      (some (g₂.finishCall input id mode o₂ r₂)) := by
  cases ho with
  | failed position => exact .some (.failed position) hS
  | matched next span hv =>
    simp only [Grammar.finishCall, hact id]
    split
    · exact h.finish id next span (.cons hv .nil) hS
    · exact .some (.matched next span hv) hS

/-- The operands of a sequence, one after the other. -/
theorem sequence (h : Alike g₁ g₂ input V S m₁ m₂)
    (id : NodeId) (start : Nat) {operands : List NodeId}
    (hev : ∀ o ∈ operands, ∀ p ⦃r₁ r₂⦄, S r₁ r₂ →
      Follows lax (Outcome.Rel V) S (ev₁ o p m₁ r₁) (ev₂ o p m₂ r₂)) :
    ∀ (p : Nat) ⦃vs₁ vs₂ r₁ r₂⦄, List.Forall₂ V vs₁ vs₂ → S r₁ r₂ →
      Follows lax (Outcome.Rel V) S (g₁.sequence input ev₁ id start m₁ operands p vs₁ r₁)
        (g₂.sequence input ev₂ id start m₂ operands p vs₂ r₂) := by
  induction operands with
  | nil =>
    intro p vs₁ vs₂ r₁ r₂ hv hS
    exact h.finish id _ _ (List.rel_reverse hv) hS
  | cons operand rest ih =>
    intro p vs₁ vs₂ r₁ r₂ hv hS o r hr
    have hfirst := hev operand List.mem_cons_self p hS
    have hrest := ih fun o ho => hev o (List.mem_cons_of_mem _ ho)
    rw [Grammar.sequence] at hr ⊢
    split at hr
    · cases hr
    · next hop =>
      rcases hfirst hop with ⟨hlax, hop₂⟩ | ⟨_, r₂', hop₂, ⟨⟩, hS'⟩ <;> rw [hop₂]
      · exact Follows.none hlax hr
      · exact Follows.some (.failed _) hS' hr
    · next hop =>
      rcases hfirst hop with ⟨hlax, hop₂⟩ | ⟨_, r₂', hop₂, ⟨_, _, hval⟩, hS'⟩ <;>
        rw [hop₂]
      · exact Follows.none hlax hr
      · exact hrest _ (.cons hval hv) hS' hr

/-- The operands of a choice, until one matches. -/
theorem choice (h : Alike g₁ g₂ input V S m₁ m₂)
    (id : NodeId) (start : Nat) {operands : List NodeId}
    (hev : ∀ o ∈ operands, ∀ p ⦃r₁ r₂⦄, S r₁ r₂ →
      Follows lax (Outcome.Rel V) S (ev₁ o p m₁ r₁) (ev₂ o p m₂ r₂)) :
    ∀ ⦃r₁ r₂⦄, S r₁ r₂ →
      Follows lax (Outcome.Rel V) S (g₁.choice input ev₁ id start m₁ operands r₁)
        (g₂.choice input ev₂ id start m₂ operands r₂) := by
  induction operands with
  | nil =>
    intro r₁ r₂ hS
    exact .some (.failed start) hS
  | cons operand rest ih =>
    intro r₁ r₂ hS o r hr
    have hfirst := hev operand List.mem_cons_self start hS
    have hrest := ih fun o ho => hev o (List.mem_cons_of_mem _ ho)
    rw [Grammar.choice] at hr ⊢
    split at hr
    · cases hr
    · next hop =>
      rcases hfirst hop with ⟨hlax, hop₂⟩ | ⟨_, r₂', hop₂, ⟨⟩, hS'⟩ <;> rw [hop₂]
      · exact Follows.none hlax hr
      · exact hrest hS' hr
    · next hop =>
      rcases hfirst hop with ⟨hlax, hop₂⟩ | ⟨_, r₂', hop₂, ⟨_, _, hval⟩, hS'⟩ <;>
        rw [hop₂]
      · exact Follows.none hlax hr
      · exact h.finish id _ _ (.cons hval .nil) hS' hr

variable [DecidableEq K]
  {call₁ : NodeId → N → Nat → Mode → Run N T₁ → Option (Outcome T₁ × Run N T₁)}
  {call₂ : NodeId → N → Nat → Mode → Run N T₂ → Option (Outcome T₂ × Run N T₂)}

/-- **An operator follows an operator whose rule calls and operands it follows**, each in the mode
in which it is tried. -/
theorem step_of_modes (h : Alike g₁ g₂ input V S m₁ m₂)
    {id : NodeId} {start : Nat} {r₁ : Run N T₁} {r₂ : Run N T₂}
    (hev : ∀ operator, g₁.arena.get? id = some operator → ∀ o ∈ operator.operands,
      ∀ p ⦃r₁ r₂⦄, S r₁ r₂ → Follows lax (Outcome.Rel V) S
        (ev₁ o p (operator.operandMode m₁) r₁) (ev₂ o p (operator.operandMode m₂) r₂))
    (hcall : ∀ name, g₁.arena.get? id = some (.nonTerminal name) →
      Follows lax (Outcome.Rel V) S (call₁ id name start m₁ r₁) (call₂ id name start m₂ r₂))
    (hS : S r₁ r₂) :
    Follows lax (Outcome.Rel V) S (g₁.step input call₁ ev₁ id start m₁ r₁)
      (g₂.step input call₂ ev₂ id start m₂ r₂) := by
  unfold Grammar.step
  rw [← h.operators id]
  cases hop : g₁.arena.get? id with
  | none => exact .some (.failed start) hS
  | some operator =>
    replace hev := hev operator hop
    cases operator with
    | terminal tag =>
      dsimp only
      split
      · exact h.finish id _ _ .nil hS
      · exact .some (.failed start) hS
    | nonTerminal name => exact hcall name hop
    | emptyString =>
      dsimp only
      split
      · exact h.finish id _ _ .nil hS
      · exact .some (.failed start) hS
    | sequence operands => exact h.sequence id start hev start .nil hS
    | orderedChoice operands => exact h.choice id start hev hS
    | optional operand =>
      have hoperand : ∀ p ⦃r₁ r₂⦄, S r₁ r₂ → Follows lax (Outcome.Rel V) S
          (ev₁ operand p m₁ r₁) (ev₂ operand p m₂ r₂) := hev operand (.head _)
      intro o r hr
      dsimp only at hr ⊢
      split at hr
      · cases hr
      · next hop₁ =>
        rcases hoperand start hS hop₁ with
          ⟨hlax, hop₂⟩ | ⟨_, r₂', hop₂, ⟨_, _, hval⟩, hS'⟩ <;> rw [hop₂]
        · exact Follows.none hlax hr
        · exact h.finish id _ _ (.cons hval .nil) hS' hr
      · next hop₁ =>
        rcases hoperand start hS hop₁ with
          ⟨hlax, hop₂⟩ | ⟨_, r₂', hop₂, ⟨⟩, hS'⟩ <;> rw [hop₂] <;> dsimp only
        · exact Follows.none hlax hr
        split at hr
        · next hle =>
          rw [if_pos hle]
          exact h.finish id _ _ .nil hS' hr
        · next hle =>
          rw [if_neg hle]
          exact Follows.some (.failed start) hS' hr
    | zeroOrMore operand =>
      have hoperand : ∀ p ⦃r₁ r₂⦄, S r₁ r₂ → Follows lax (Outcome.Rel V) S
          (ev₁ operand p m₁ r₁) (ev₂ operand p m₂ r₂) := hev operand (.head _)
      intro o r hr
      dsimp only at hr ⊢
      split at hr
      · cases hr
      · next hrep =>
        rcases repetition_follows hoperand (input.size + 1) start .nil hS hrep with
          ⟨hlax, hrep₂⟩ | ⟨⟨_, vs₂⟩, r₂', hrep₂, ⟨rfl, hvs⟩, hS'⟩ <;> rw [hrep₂]
        · exact Follows.none hlax hr
        · exact h.finish id _ _ (List.rel_reverse hvs) hS' hr
    | oneOrMore operand =>
      have hoperand : ∀ p ⦃r₁ r₂⦄, S r₁ r₂ → Follows lax (Outcome.Rel V) S
          (ev₁ operand p m₁ r₁) (ev₂ operand p m₂ r₂) := hev operand (.head _)
      intro o r hr
      dsimp only at hr ⊢
      split at hr
      · cases hr
      · next hrep =>
        rcases repetition_follows hoperand (input.size + 1) start .nil hS hrep with
          ⟨hlax, hrep₂⟩ | ⟨⟨_, vs₂⟩, r₂', hrep₂, ⟨rfl, ⟨⟩⟩, hS'⟩ <;> rw [hrep₂]
        · exact Follows.none hlax hr
        · exact Follows.some (.failed start) hS' hr
      · next hne hrep =>
        rcases repetition_follows hoperand (input.size + 1) start .nil hS hrep with
          ⟨hlax, hrep₂⟩ | ⟨⟨_, vs₂⟩, r₂', hrep₂, ⟨rfl, hvs⟩, hS'⟩ <;> rw [hrep₂]
        · exact Follows.none hlax hr
        cases hvs with
        | nil => exact absurd rfl hne
        | cons hval hrest => exact h.finish id _ _ (List.rel_reverse (.cons hval hrest)) hS' hr
    | andPredicate operand =>
      have hoperand : ∀ p ⦃r₁ r₂⦄, S r₁ r₂ → Follows lax (Outcome.Rel V) S
          (ev₁ operand p .probing r₁) (ev₂ operand p .probing r₂) := hev operand (.head _)
      intro o r hr
      dsimp only at hr ⊢
      split at hr
      · cases hr
      · next hop₁ =>
        rcases hoperand start hS hop₁ with
          ⟨hlax, hop₂⟩ | ⟨_, r₂', hop₂, ⟨⟩, hS'⟩ <;> rw [hop₂]
        · exact Follows.none hlax hr
        · exact Follows.some (.matched _ _ h.default) hS' hr
      · next hop₁ =>
        rcases hoperand start hS hop₁ with
          ⟨hlax, hop₂⟩ | ⟨_, r₂', hop₂, ⟨⟩, hS'⟩ <;> rw [hop₂]
        · exact Follows.none hlax hr
        · exact Follows.some (.failed start) hS' hr
    | notPredicate operand =>
      have hoperand : ∀ p ⦃r₁ r₂⦄, S r₁ r₂ → Follows lax (Outcome.Rel V) S
          (ev₁ operand p .probing r₁) (ev₂ operand p .probing r₂) := hev operand (.head _)
      intro o r hr
      dsimp only at hr ⊢
      split at hr
      · cases hr
      · next hop₁ =>
        rcases hoperand start hS hop₁ with
          ⟨hlax, hop₂⟩ | ⟨_, r₂', hop₂, ⟨⟩, hS'⟩ <;> rw [hop₂]
        · exact Follows.none hlax hr
        · exact Follows.some (.failed start) hS' hr
      · next hop₁ =>
        rcases hoperand start hS hop₁ with
          ⟨hlax, hop₂⟩ | ⟨_, r₂', hop₂, ⟨⟩, hS'⟩ <;> rw [hop₂]
        · exact Follows.none hlax hr
        · exact Follows.some (.matched _ _ h.default) hS' hr

/-- The same with all operands followed in both modes. -/
theorem step (h : Alike g₁ g₂ input V S m₁ m₂)
    {id : NodeId} {start : Nat} {r₁ : Run N T₁} {r₂ : Run N T₂}
    (hev : ∀ operator, g₁.arena.get? id = some operator → ∀ o ∈ operator.operands,
      ∀ p ⦃r₁ r₂⦄, S r₁ r₂ → Follows lax (Outcome.Rel V) S (ev₁ o p m₁ r₁) (ev₂ o p m₂ r₂))
    (hprobe : ∀ operator, g₁.arena.get? id = some operator → ∀ o ∈ operator.operands,
      ∀ p ⦃r₁ r₂⦄, S r₁ r₂ →
        Follows lax (Outcome.Rel V) S (ev₁ o p .probing r₁) (ev₂ o p .probing r₂))
    (hcall : ∀ name, g₁.arena.get? id = some (.nonTerminal name) →
      Follows lax (Outcome.Rel V) S (call₁ id name start m₁ r₁) (call₂ id name start m₂ r₂))
    (hS : S r₁ r₂) :
    Follows lax (Outcome.Rel V) S (g₁.step input call₁ ev₁ id start m₁ r₁)
      (g₂.step input call₂ ev₂ id start m₂ r₂) :=
  h.step_of_modes (fun operator hop o ho p r₁ r₂ hS => by
    unfold Operator.operandMode
    split
    · exact hprobe operator hop o ho p hS
    · exact hev operator hop o ho p hS) hcall hS

end Alike

end SideBySide

/-! ## Evaluation with a given way to call rules -/

/-- How a rule is called by the non-terminal at an id. -/
abbrev CallRule (N T : Type) :=
  NodeId → N → Nat → Mode → Run N T → Option (Outcome T × Run N T)

/-- What the first evaluator finds, the second finds too. -/
def Below {T : Type} (ev₁ ev₂ : Evaluator N T) : Prop :=
  ∀ ⦃id p mode run x⦄, ev₁ id p mode run = some x → ev₂ id p mode run = some x

section Depth

variable {T : Type} [ToString K] [ToString N] [Inhabited T] (g : Grammar K N T)
  (input : Array (Token K))

/-- An evaluation and itself. -/
theorem alike_self (mode : Mode) : Alike g g input (· = ·) (· = ·) mode mode where
  operators _ := rfl
  default := rfl
  fire id span vs₁ vs₂ r₁ r₂ hv hS := by
    rw [List.forall₂_eq_eq_eq] at hv
    subst hv hS
    exact ⟨rfl, rfl⟩

variable [DecidableEq K]

/-- Evaluation with a bound on the depth, where `callRule` says how rules are called. -/
def evalCalling (callRule : Evaluator N T → CallRule N T) : (depth : Nat) → Evaluator N T
  | 0 => fun _ _ _ _ => none
  | depth + 1 =>
    g.step input (callRule (evalCalling callRule depth)) (evalCalling callRule depth)

/-- A way to call rules that finds more if the bodies of rules are found more often. -/
def MonotoneCalls (callRule : Evaluator N T → CallRule N T) : Prop :=
  ∀ ⦃ev₁ ev₂⦄, Below ev₁ ev₂ → ∀ ⦃id name p mode run x⦄,
    callRule ev₁ id name p mode run = some x → callRule ev₂ id name p mode run = some x

variable {g input} {callRule : Evaluator N T → CallRule N T}

/-- An operator finds more if its rule calls and operands do. -/
theorem step_below {call₁ call₂ : CallRule N T} {ev₁ ev₂ : Evaluator N T} (hev : Below ev₁ ev₂)
    (hcall : ∀ ⦃id name p mode run x⦄, call₁ id name p mode run = some x →
      call₂ id name p mode run = some x) :
    Below (g.step input call₁ ev₁) (g.step input call₂ ev₂) := by
  have hoperand : ∀ mode id p ⦃r₁ r₂⦄, r₁ = r₂ → Follows False (Outcome.Rel (· = ·)) (· = ·)
      (ev₁ id p mode r₁) (ev₂ id p mode r₂) := by
    rintro mode id p run _ rfl o run' h
    exact .inr ⟨o, run', hev h, .refl o, rfl⟩
  intro id p mode run x hx
  obtain ⟨o, run'⟩ := x
  obtain ⟨o', _, hx', ho, rfl⟩ := ((alike_self g input mode).step
    (fun _ _ o _ => hoperand mode o) (fun _ _ o _ => hoperand .probing o)
    (fun name _ o run' h => .inr ⟨o, run', hcall h, .refl o, rfl⟩) rfl).exists hx
  rw [ho.eq]
  exact hx'

/-- Evaluation finds more if rule calls do. -/
theorem evalCalling_below {callRule' : Evaluator N T → CallRule N T}
    (hcall : ∀ ⦃ev₁ ev₂⦄, Below ev₁ ev₂ → ∀ ⦃id name p mode run x⦄,
      callRule ev₁ id name p mode run = some x → callRule' ev₂ id name p mode run = some x)
    (depth : Nat) :
    Below (g.evalCalling input callRule depth) (g.evalCalling input callRule' depth) := by
  induction depth with
  | zero => exact nofun
  | succ depth ih => exact step_below ih (hcall ih)

/-- One more level of depth. -/
theorem evalCalling_below_succ (hcall : MonotoneCalls callRule) (depth : Nat) :
    Below (g.evalCalling input callRule depth) (g.evalCalling input callRule (depth + 1)) := by
  induction depth with
  | zero => exact nofun
  | succ depth ih => exact step_below ih (hcall ih)

/-- **More depth changes no result.** -/
theorem evalCalling_mono (hcall : MonotoneCalls callRule) {n k : Nat} (h : n ≤ k) :
    Below (g.evalCalling input callRule n) (g.evalCalling input callRule k) := by
  induction h with
  | refl => exact fun _ _ _ _ _ hx => hx
  | step _ ih => exact fun _ _ _ _ _ hx => evalCalling_below_succ hcall _ (ih hx)

end Depth

end Grammar

end Packrat
