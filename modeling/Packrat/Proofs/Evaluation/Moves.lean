import Packrat.Proofs.Evaluation.Silent
import Packrat.Proofs.Expressions

/-!
# Evaluation as moves

A grammar without actions evaluates its operators as moves (`Move`): from a position and a run to an
outcome and a run. `Operator.move` is the move of an operator from those of its operands, and what
`Grammar.step` does is just that (`Grammar.Silent.step_eq_move`).

Operators move alike if their operands do (`Operator.move_follows`). Here the operators need not be
of the same arena, nor of an arena at all.
-/

namespace Packrat

variable {K N ν ν₁ ν₂ : Type}

/-! ## Moves -/

/-- What happens from a position on, in a mode and with a run: an outcome without a value, or
nothing if the bound on the depth was too small. -/
abbrev Move (N : Type) := Nat → Mode → Run N Unit → Option (Outcome Unit × Run N Unit)

namespace Move

/-- One move after the other: where they end, or where one fails. -/
def inOrder (mode : Mode) : List (Move N) → (position : Nat) → Run N Unit →
    Option (Except Nat Nat × Run N Unit)
  | [], position, run => some (.ok position, run)
  | m :: rest, position, run =>
    match m position mode run with
    | none => none
    | some (.failed q, run) => some (.error q, run)
    | some (.matched next _ _, run) => inOrder mode rest next run

/-- The first of the moves that matches. -/
def firstOf (start : Nat) (mode : Mode) : List (Move N) → Run N Unit →
    Option (Outcome Unit × Run N Unit)
  | [], run => some (.failed start, run)
  | m :: rest, run =>
    match m start mode run with
    | none => none
    | some (.failed _, run) => firstOf start mode rest run
    | some (.matched next span _, run) => some (.matched next span (), run)

/-- A move as often as it matches, and whether it has matched. -/
def again (size : Nat) (m : Move N) (mode : Mode) : (turns position : Nat) → (turned : Bool) →
    Run N Unit → Option ((Nat × Bool) × Run N Unit)
  | 0, _, _, _ => none
  | turns + 1, position, turned, run =>
    match m position mode run with
    | none => none
    | some (.failed _, run) => some ((position, turned), run)
    | some (.matched next _ _, run) =>
      if position < next ∧ next < size then again size m mode turns next true run
      else some ((next, true), run)

end Move

/-- The move of an operator, from the moves of its operands and how names are called. -/
def Operator.move [DecidableEq K] (input : Array (Token K)) (call : ν → Move N) :
    Operator K ν (Move N) → Move N
  | .terminal tag, p, _, run =>
    some (if (input[p]?).any (·.tag = tag) then .matchedAt p 1 () else .failed p, run)
  | .nonTerminal name, p, mode, run => call name p mode run
  | .emptyString, p, _, run =>
    some (if p ≤ input.size then .matchedAt p 0 () else .failed p, run)
  | .sequence ms, p, mode, run =>
    match Move.inOrder mode ms p run with
    | none => none
    | some (.error q, run) => some (.failed q, run)
    | some (.ok stop, run) => some (.matchedAt p (stop - p) (), run)
  | .orderedChoice ms, p, mode, run => Move.firstOf p mode ms run
  | .optional m, p, mode, run =>
    match m p mode run with
    | none => none
    | some (.matched next span _, run) => some (.matched next span (), run)
    | some (.failed _, run) =>
      some (if p ≤ input.size then .matchedAt p 0 () else .failed p, run)
  | .zeroOrMore m, p, mode, run =>
    match Move.again input.size m mode (input.size + 1) p false run with
    | none => none
    | some ((stop, _), run) => some (.matchedAt p (stop - p) (), run)
  | .oneOrMore m, p, mode, run =>
    match Move.again input.size m mode (input.size + 1) p false run with
    | none => none
    | some ((_, false), run) => some (.failed p, run)
    | some ((stop, true), run) => some (.matchedAt p (stop - p) (), run)
  | .andPredicate m, p, _, run =>
    match m p .probing run with
    | none => none
    | some (.matched _ _ _, run) => some (.matchedAt p 0 (), run)
    | some (.failed _, run) => some (.failed p, run)
  | .notPredicate m, p, _, run =>
    match m p .probing run with
    | none => none
    | some (.matched _ _ _, run) => some (.failed p, run)
    | some (.failed _, run) => some (.matchedAt p 0 (), run)

namespace Grammar

variable [ToString K] [ToString N] {g : Grammar K N Unit}
  {input : Array (Token K)} {callRule : CallRule N Unit} {ev : Evaluator N Unit} {id : NodeId}
  {mode : Mode} {p : Nat} {run : Run N Unit}

/-- A grammar without actions. -/
def Silent (g : Grammar K N Unit) : Prop := ∀ id, g.arena.action? id = none

theorem Silent.fire_eq (h : g.Silent) (span : Span) (values : List Unit) :
    g.fire input id span values mode run = ((), run) := by
  cases mode <;> simp only [fire, h id]

/-- A sequence moves through its operands. -/
theorem Silent.sequence_eq (h : g.Silent) (start : Nat) (operands : List NodeId)
    (values : List Unit) :
    g.sequence input ev id start mode operands p values run =
      match Move.inOrder mode (operands.map ev) p run with
      | none => none
      | some (.error q, run) => some (.failed q, run)
      | some (.ok stop, run) => some (.matchedAt start (stop - start) (), run) := by
  induction operands generalizing p values run with
  | nil => simp only [sequence, h.fire_eq, List.map_nil, Move.inOrder]
  | cons operand rest ih =>
    rw [sequence, List.map_cons, Move.inOrder]
    cases ev operand p mode run with
    | none => rfl
    | some x =>
      obtain ⟨o, run'⟩ := x
      cases o with
      | failed q => rfl
      | matched next span value => exact ih _

/-- A choice is the first of its operands that matches. -/
theorem Silent.choice_eq (h : g.Silent) (start : Nat) (operands : List NodeId) :
    g.choice input ev id start mode operands run =
      Move.firstOf start mode (operands.map ev) run := by
  induction operands generalizing run with
  | nil => rfl
  | cons operand rest ih =>
    rw [choice, List.map_cons, Move.firstOf]
    cases ev operand start mode run with
    | none => rfl
    | some x =>
      obtain ⟨o, run'⟩ := x
      cases o with
      | failed q => exact ih
      | matched next span value => simp only [h.fire_eq]

omit [ToString K] [ToString N] in
/-- A repetition is its operand again and again; it has values if it has matched. -/
theorem repetition_eq_again (operand : NodeId) (turns : Nat) (values : List Unit) :
    (repetition input ev operand mode turns p values run).map
        (fun x => ((x.1.1, !x.1.2.isEmpty), x.2)) =
      Move.again input.size (ev operand) mode turns p (!values.isEmpty) run := by
  induction turns generalizing p values run with
  | zero => rfl
  | succ turns ih =>
    rw [repetition, Move.again]
    cases ev operand p mode run with
    | none => rfl
    | some x =>
      obtain ⟨o, run'⟩ := x
      cases o with
      | failed q => rfl
      | matched next span value =>
        dsimp only
        split
        · rw [ih]
          rfl
        · rfl

omit [ToString K] [ToString N] in
/-- A repetition from its beginning. -/
theorem repetition_eq_again_nil (operand : NodeId) (turns : Nat) :
    (repetition input ev operand mode turns p [] run).map
        (fun x => ((x.1.1, !x.1.2.isEmpty), x.2)) =
      Move.again input.size (ev operand) mode turns p false run :=
  repetition_eq_again operand turns []

/-- **Evaluation without actions is a matter of moves.** -/
theorem Silent.step_eq_move [DecidableEq K] (h : g.Silent) :
    g.step input callRule ev id p mode run =
      match g.arena.get? id with
      | none => some (.failed p, run)
      | some op => (op.map ev).move input (callRule id) p mode run := by
  unfold step
  cases g.arena.get? id with
  | none => rfl
  | some op =>
    cases op with
    | terminal tag =>
      dsimp only [Operator.map, Operator.move]
      split <;> simp only [h.fire_eq]
    | nonTerminal name => rfl
    | emptyString =>
      dsimp only [Operator.map, Operator.move]
      split <;> simp only [h.fire_eq]
    | sequence operands => exact h.sequence_eq p operands []
    | orderedChoice operands => exact h.choice_eq p operands
    | optional operand =>
      dsimp only [Operator.map, Operator.move]
      cases ev operand p mode run with
      | none => rfl
      | some x =>
        obtain ⟨o, run'⟩ := x
        cases o with
        | matched next span value => simp only [h.fire_eq]
        | failed q =>
          dsimp only
          split <;> simp only [h.fire_eq]
    | zeroOrMore operand =>
      dsimp only [Operator.map, Operator.move]
      rw [← repetition_eq_again_nil]
      cases repetition input ev operand mode (input.size + 1) p [] run with
      | none => rfl
      | some x => simp only [h.fire_eq, Option.map_some]
    | oneOrMore operand =>
      dsimp only [Operator.map, Operator.move]
      rw [← repetition_eq_again_nil]
      cases repetition input ev operand mode (input.size + 1) p [] run with
      | none => rfl
      | some x =>
        obtain ⟨⟨stop, values⟩, run'⟩ := x
        cases values with
        | nil => rfl
        | cons value values =>
          simp only [h.fire_eq, Option.map_some, List.isEmpty_cons, Bool.not_false]
    | andPredicate operand | notPredicate operand =>
      dsimp only [Operator.map, Operator.move]
      cases ev operand p .probing run with
      | none => rfl
      | some x =>
        obtain ⟨o, run'⟩ := x
        cases o <;> rfl

end Grammar

/-! ## Moves that follow one another -/

/-- A match does not end before the position where it was tried. -/
def Outcome.Forward {T : Type} (p : Nat) : Outcome T → Prop
  | .matched next _ _ => p ≤ next
  | .failed _ => True

/-- A property of the outcomes at a position that matches from there on have, and failures. -/
structure Regular (P : Nat → Outcome Unit → Prop) : Prop where
  matchedAt : ∀ p length, P p (.matchedAt p length ())
  failed : ∀ p q, P p (.failed q)

theorem regular_true : Regular fun _ _ => True := ⟨fun _ _ => trivial, fun _ _ => trivial⟩

theorem regular_forward : Regular fun p o => o.Forward p :=
  ⟨fun p length => Nat.le_add_right p length, fun _ _ => trivial⟩

/-- From runs related by `S`, the second move has every outcome that the first has, with the
property `P`, and leaves related runs. -/
def Move.FollowedBy (P : Nat → Outcome Unit → Prop) (S : Run N Unit → Run N Unit → Prop)
    (m₁ m₂ : Move N) : Prop :=
  ∀ p mode ⦃r₁ r₂⦄, S r₁ r₂ →
    Follows False (fun o₁ o₂ => o₁ = o₂ ∧ P p o₁) S (m₁ p mode r₁) (m₂ p mode r₂)

namespace Move

variable {P : Nat → Outcome Unit → Prop} {S : Run N Unit → Run N Unit → Prop} {mode : Mode}
  {ms₁ ms₂ : List (Move N)} {m₁ m₂ m₃ : Move N} {r₁ r₂ : Run N Unit}

/-- What one move finds, the other finds too. -/
abbrev Le (m₁ m₂ : Move N) : Prop := FollowedBy (fun _ _ => True) (· = ·) m₁ m₂

/-- A move that finds what another finds. -/
theorem le_of_forall (h : ∀ p mode run x, m₁ p mode run = some x →
    m₂ p mode run = some x) : Le m₁ m₂ := by
  rintro p mode run _ rfl o run' ho
  exact .inr ⟨o, run', h p mode run _ ho, ⟨rfl, trivial⟩, rfl⟩

theorem Le.eq_some (h : Le m₁ m₂) {p : Nat} {mode : Mode} {run : Run N Unit}
    {x : Outcome Unit × Run N Unit} (hx : m₁ p mode run = some x) : m₂ p mode run = some x := by
  obtain ⟨o, run'⟩ := x
  obtain ⟨_, _, hx₂, ⟨rfl, -⟩, rfl⟩ := (h p mode rfl).exists hx
  exact hx₂

theorem Le.trans (h : Le m₁ m₂) (h' : Le m₂ m₃) : Le m₁ m₃ :=
  le_of_forall fun _ _ _ _ hx => h'.eq_some (h.eq_some hx)

/-- Moves one after the other follow one another. -/
theorem inOrder_follows (h : List.Forall₂ (FollowedBy P S) ms₁ ms₂) (p : Nat) (hS : S r₁ r₂) :
    Follows False (· = ·) S (inOrder mode ms₁ p r₁) (inOrder mode ms₂ p r₂) := by
  induction h generalizing p r₁ r₂ with
  | nil => exact .some rfl hS
  | cons hm _ ih =>
    intro x r hr
    rw [inOrder] at hr ⊢
    split at hr
    · cases hr
    · next hfirst =>
      obtain ⟨_, r₂', hfirst₂, ⟨rfl, -⟩, hS'⟩ := (hm p mode hS).exists hfirst
      rw [hfirst₂]
      exact Follows.some rfl hS' hr
    · next hfirst =>
      obtain ⟨_, r₂', hfirst₂, ⟨rfl, -⟩, hS'⟩ := (hm p mode hS).exists hfirst
      rw [hfirst₂]
      exact ih _ hS' hr

/-- The first moves that match follow one another. -/
theorem firstOf_follows (hP : Regular P) (h : List.Forall₂ (FollowedBy P S) ms₁ ms₂) (p : Nat)
    (hS : S r₁ r₂) : Follows False (fun o₁ o₂ => o₁ = o₂ ∧ P p o₁) S (firstOf p mode ms₁ r₁)
      (firstOf p mode ms₂ r₂) := by
  induction h generalizing r₁ r₂ with
  | nil => exact .some ⟨rfl, hP.failed p p⟩ hS
  | cons hm _ ih =>
    intro x r hr
    rw [firstOf] at hr ⊢
    split at hr
    · cases hr
    · next hfirst =>
      obtain ⟨_, r₂', hfirst₂, ⟨rfl, -⟩, hS'⟩ := (hm p mode hS).exists hfirst
      rw [hfirst₂]
      exact ih hS' hr
    · next hfirst =>
      obtain ⟨_, r₂', hfirst₂, ⟨rfl, hPo⟩, hS'⟩ := (hm p mode hS).exists hfirst
      rw [hfirst₂]
      cases hr
      exact .inr ⟨_, _, rfl, ⟨rfl, hPo⟩, hS'⟩

/-- Repeated moves follow one another. -/
theorem again_follows (h : FollowedBy P S m₁ m₂) (size turns p : Nat) (turned : Bool)
    (hS : S r₁ r₂) : Follows False (· = ·) S (again size m₁ mode turns p turned r₁)
      (again size m₂ mode turns p turned r₂) := by
  induction turns generalizing p turned r₁ r₂ with
  | zero => exact nofun
  | succ turns ih =>
    intro x r hr
    rw [again] at hr ⊢
    split at hr
    · cases hr
    · next hfirst =>
      obtain ⟨_, r₂', hfirst₂, ⟨rfl, -⟩, hS'⟩ := (h p mode hS).exists hfirst
      rw [hfirst₂]
      exact Follows.some rfl hS' hr
    · next hfirst =>
      obtain ⟨_, r₂', hfirst₂, ⟨rfl, -⟩, hS'⟩ := (h p mode hS).exists hfirst
      rw [hfirst₂]
      dsimp only
      split at hr
      · next hgo =>
        rw [if_pos hgo]
        exact ih _ _ hS' hr
      · next hstop =>
        rw [if_neg hstop]
        exact Follows.some rfl hS' hr

end Move

/-- **Related operators move alike**, if their operands and the rules that they call do. -/
theorem Operator.move_follows [DecidableEq K] {input : Array (Token K)}
    {P : Nat → Outcome Unit → Prop} (hP : Regular P) {S : Run N Unit → Run N Unit → Prop}
    {Q : ν₁ → ν₂ → Prop} {call₁ : ν₁ → Move N} {call₂ : ν₂ → Move N}
    (hcall : ∀ x y, Q x y → Move.FollowedBy P S (call₁ x) (call₂ y))
    {op₁ : Operator K ν₁ (Move N)} {op₂ : Operator K ν₂ (Move N)}
    (h : Operator.Rel Q (Move.FollowedBy P S) op₁ op₂) :
    Move.FollowedBy P S (op₁.move input call₁) (op₂.move input call₂) := by
  intro p mode r₁ r₂ hS
  have hempty : P p (if p ≤ input.size then .matchedAt p 0 () else .failed p) := by
    split
    exacts [hP.matchedAt p 0, hP.failed p p]
  cases h with
  | terminal tag =>
    refine .some ⟨rfl, ?_⟩ hS
    split
    exacts [hP.matchedAt p 1, hP.failed p p]
  | nonTerminal h => exact hcall _ _ h p mode hS
  | emptyString => exact .some ⟨rfl, hempty⟩ hS
  | sequence h =>
    intro o r hr
    dsimp only [move] at hr ⊢
    split at hr
    · cases hr
    · next hall =>
      obtain ⟨_, r₂', hall₂, rfl, hS'⟩ := (Move.inOrder_follows h p hS).exists hall
      rw [hall₂]
      cases hr
      exact .inr ⟨_, _, rfl, ⟨rfl, hP.failed p _⟩, hS'⟩
    · next hall =>
      obtain ⟨_, r₂', hall₂, rfl, hS'⟩ := (Move.inOrder_follows h p hS).exists hall
      rw [hall₂]
      cases hr
      exact .inr ⟨_, _, rfl, ⟨rfl, hP.matchedAt p _⟩, hS'⟩
  | orderedChoice h => exact Move.firstOf_follows hP h p hS
  | optional h =>
    intro o r hr
    dsimp only [move] at hr ⊢
    split at hr
    · cases hr
    · next hop =>
      obtain ⟨_, r₂', hop₂, ⟨rfl, hPo⟩, hS'⟩ := (h p mode hS).exists hop
      rw [hop₂]
      cases hr
      exact .inr ⟨_, _, rfl, ⟨rfl, hPo⟩, hS'⟩
    · next hop =>
      obtain ⟨_, r₂', hop₂, ⟨rfl, -⟩, hS'⟩ := (h p mode hS).exists hop
      rw [hop₂]
      cases hr
      exact .inr ⟨_, _, rfl, ⟨rfl, hempty⟩, hS'⟩
  | zeroOrMore h =>
    intro o r hr
    dsimp only [move] at hr ⊢
    split at hr
    · cases hr
    · next hrep =>
      obtain ⟨_, r₂', hrep₂, rfl, hS'⟩ := (Move.again_follows h _ _ p false hS).exists hrep
      rw [hrep₂]
      cases hr
      exact .inr ⟨_, _, rfl, ⟨rfl, hP.matchedAt p _⟩, hS'⟩
  | oneOrMore h =>
    intro o r hr
    dsimp only [move] at hr ⊢
    split at hr
    · cases hr
    · next hrep =>
      obtain ⟨_, r₂', hrep₂, rfl, hS'⟩ := (Move.again_follows h _ _ p false hS).exists hrep
      rw [hrep₂]
      cases hr
      exact .inr ⟨_, _, rfl, ⟨rfl, hP.failed p p⟩, hS'⟩
    · next hrep =>
      obtain ⟨_, r₂', hrep₂, rfl, hS'⟩ := (Move.again_follows h _ _ p false hS).exists hrep
      rw [hrep₂]
      cases hr
      exact .inr ⟨_, _, rfl, ⟨rfl, hP.matchedAt p _⟩, hS'⟩
  | andPredicate h =>
    intro o r hr
    dsimp only [move] at hr ⊢
    split at hr
    · cases hr
    · next hop =>
      obtain ⟨_, r₂', hop₂, ⟨rfl, -⟩, hS'⟩ := (h p .probing hS).exists hop
      rw [hop₂]
      cases hr
      exact .inr ⟨_, _, rfl, ⟨rfl, hP.matchedAt p 0⟩, hS'⟩
    · next hop =>
      obtain ⟨_, r₂', hop₂, ⟨rfl, -⟩, hS'⟩ := (h p .probing hS).exists hop
      rw [hop₂]
      cases hr
      exact .inr ⟨_, _, rfl, ⟨rfl, hP.failed p p⟩, hS'⟩
  | notPredicate h =>
    intro o r hr
    dsimp only [move] at hr ⊢
    split at hr
    · cases hr
    · next hop =>
      obtain ⟨_, r₂', hop₂, ⟨rfl, -⟩, hS'⟩ := (h p .probing hS).exists hop
      rw [hop₂]
      cases hr
      exact .inr ⟨_, _, rfl, ⟨rfl, hP.failed p p⟩, hS'⟩
    · next hop =>
      obtain ⟨_, r₂', hop₂, ⟨rfl, -⟩, hS'⟩ := (h p .probing hS).exists hop
      rw [hop₂]
      cases hr
      exact .inr ⟨_, _, rfl, ⟨rfl, hP.matchedAt p 0⟩, hS'⟩

end Packrat
