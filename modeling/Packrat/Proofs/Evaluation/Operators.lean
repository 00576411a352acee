import Mathlib.Logic.Relation
import Packrat.Proofs.Evaluation.Yields

/-!
# What an operator does with its operands

Whatever the books say, an outcome stays within the input (`Outcome.Within`), and what an operator
matches is made of what its operands match. `Extent` is a property of matches without their values,
and `Extent.Closed` says that it passes from operands to operators in each of the ways in which an
operator can match. It is a yield that looks at no value (`Extent.Closed.yield`).

`Grammar.step_keeps` says all of this at once of one operator: if its operands and the rule that it
calls end within the input, with matches in the extent, and keep a property `J` of runs, so does the
operator.
-/

namespace Packrat

variable {K N T : Type}

/-! ## Extents -/

/-- What operators may match: the operator at an id, the tokens from one position up to another. -/
abbrev Extent := NodeId → Nat → Nat → Prop

/-- The operands match one after the other, from one position up to another. -/
def Extent.InTurn (E : Extent) : List NodeId → Nat → Nat → Prop
  | [] => Eq
  | operand :: rest => Relation.Comp (E operand) (Extent.InTurn E rest)

/-- Whether the operator can match no token without the help of an operand. -/
def Operator.skips {ι : Type} : Operator K N ι → Bool
  | .emptyString => true
  | .optional _ => true
  | .zeroOrMore _ => true
  | .andPredicate _ => true
  | .notPredicate _ => true
  | _ => false

/-- The extent holds of everything that operators make of matches in the extent. -/
structure Extent.Closed [DecidableEq N] (g : Grammar K N T) (input : Array (Token K)) (E : Extent) :
    Prop where
  terminal : ∀ ⦃id tag p token⦄, g.arena.get? id = some (.terminal tag) →
    input[p]? = some token → token.tag = tag → E id p (p + 1)
  nonTerminal : ∀ ⦃id name body p q⦄, g.arena.get? id = some (.nonTerminal name) →
    g.body? name = some body → E body p q → E id p q
  skip : ∀ ⦃id operator p⦄, g.arena.get? id = some operator → operator.skips → E id p p
  sequence : ∀ ⦃id operands p q⦄, g.arena.get? id = some (.sequence operands) →
    E.InTurn operands p q → E id p q
  orderedChoice : ∀ ⦃id operands o p q⦄, g.arena.get? id = some (.orderedChoice operands) →
    o ∈ operands → E o p q → E id p q
  optional : ∀ ⦃id operand p q⦄, g.arena.get? id = some (.optional operand) →
    E operand p q → E id p q
  zeroOrMore : ∀ ⦃id operand p q⦄, g.arena.get? id = some (.zeroOrMore operand) →
    Relation.TransGen (E operand) p q → E id p q
  oneOrMore : ∀ ⦃id operand p q⦄, g.arena.get? id = some (.oneOrMore operand) →
    Relation.TransGen (E operand) p q → E id p q

/-- If the outcome is a match, it goes up to a position with `P`. -/
def Outcome.Upto (P : Nat → Prop) : Outcome T → Prop
  | .matched next _ _ => P next
  | .failed _ => True

/-- An outcome of the operator at an id that stays within an input of `n` tokens and, if it is a
match, in an extent. -/
def Outcome.Fits (n : Nat) (E : Extent) (id : NodeId) (start : Nat) (o : Outcome T) : Prop :=
  o.Within n start ∧ o.Upto (E id start)

/-- The extent of everything. -/
def Extent.all : Extent := fun _ _ _ => True

theorem Extent.closed_all [DecidableEq N] (g : Grammar K N T) (input : Array (Token K)) :
    Extent.all.Closed g input := by
  constructor <;> intros <;> trivial

theorem Outcome.upto_all {id : NodeId} {start : Nat} (o : Outcome T) :
    o.Upto (Extent.all id start) := by
  cases o <;> trivial

/-- An extent as a yield of whatever values. -/
def Extent.yield (E : Extent) : Yield T := fun _ id p q _ => E id p q

/-- An outcome in an extent is in it as a yield. -/
theorem fits_iff_yields {E : Extent} {n start : Nat} (mode : Mode) {id : NodeId} {o : Outcome T} :
    o.Fits n E id start ↔ o.Yields n E.yield mode id start := by
  cases o <;> rfl

section Yield

variable {E : Extent} {sources : List NodeId} {operand : NodeId} {mode : Mode} {n p q : Nat}
  {values : List T}

/-- Operators that match in turn, without their values. -/
theorem Extent.inTurn_of_yield (h : (E.yield : Yield T).InTurn mode sources p q values) :
    E.InTurn sources p q := by
  induction h with
  | nil => rfl
  | cons _ hfirst _ ih => exact ⟨_, hfirst, ih⟩

/-- An operator that matches one time or more. -/
theorem Extent.InTurn.transGen (h : E.InTurn (List.replicate (n + 1) operand) p q) :
    Relation.TransGen (E operand) p q := by
  induction n generalizing p with
  | zero =>
    obtain ⟨r, hfirst, rfl⟩ := h
    exact .single hfirst
  | succ n ih =>
    obtain ⟨r, hfirst, hrest⟩ := h
    exact .head hfirst (ih hrest)

variable [DecidableEq N] [ToString K] [ToString N] [Inhabited T] {g : Grammar K N T}
  {input : Array (Token K)}

/-- **A closed extent is a closed yield.** -/
theorem Extent.Closed.yield (hE : E.Closed g input) (J : Run N T → Prop) :
    (E.yield : Yield T).Closed g input J where
  terminal _ _ _ _ _ _ hget htoken htag _ := hE.terminal hget htoken htag
  draws id operator sources p q values mode run hget hdraws hvalues _ _ := by
    have hturns := Extent.inTurn_of_yield hvalues
    show E id p q
    cases operator with
    | emptyString =>
      cases hdraws
      cases hturns
      exact hE.skip hget rfl
    | sequence operands =>
      cases hdraws
      exact hE.sequence hget hturns
    | orderedChoice operands =>
      obtain ⟨o, ho, rfl⟩ := hdraws
      obtain ⟨r, hfirst, rfl⟩ := hturns
      exact hE.orderedChoice hget ho hfirst
    | optional operand =>
      rcases hdraws with rfl | rfl
      · cases hturns
        exact hE.skip hget rfl
      · obtain ⟨r, hfirst, rfl⟩ := hturns
        exact hE.optional hget hfirst
    | zeroOrMore operand =>
      obtain ⟨_ | n, rfl⟩ := hdraws
      · cases hturns
        exact hE.skip hget rfl
      · exact hE.zeroOrMore hget hturns.transGen
    | oneOrMore operand =>
      obtain ⟨n, rfl⟩ := hdraws
      exact hE.oneOrMore hget hturns.transGen
    | _ => cases hdraws
  call _ _ _ _ _ _ _ _ hget hbody _ _ hinner _ := hE.nonTerminal hget hbody hinner
  predicate _ operator _ _ hget hpredicate := by
    refine hE.skip hget ?_
    cases operator with
    | andPredicate | notPredicate => rfl
    | _ => cases hpredicate

end Yield

namespace Grammar

/-! ## One operator -/

section Step

variable {input : Array (Token K)} {J : Run N T → Prop} {E : Extent} {ev : Evaluator N T}
  {mode : Mode} {start : Nat} {id : NodeId}

/-- What ends in an extent ends in it as a yield, without an excuse. -/
theorem endsWith_iff_yields {n : Nat} {x : Option (Outcome T × Run N T)} :
    EndsWith J (Outcome.Fits n E id start) x ↔
      EndsUnless False J (Outcome.Yields n E.yield mode id start) x := by
  simp only [EndsUnless, EndsWith, fits_iff_yields mode, false_and, false_or]

/-- More turns than a repetition takes change nothing. -/
theorem repetition_mono {operand : NodeId} {x : (Nat × List T) × Run N T} {turns more : Nat}
    (hle : turns ≤ more) : ∀ {p : Nat} {values : List T} {run : Run N T},
      repetition input ev operand mode turns p values run = some x →
        repetition input ev operand mode more p values run = some x := by
  induction turns generalizing more with
  | zero => exact nofun
  | succ turns ih =>
    intro p values run hx
    obtain ⟨more, rfl⟩ : ∃ j, more = j + 1 := ⟨more - 1, by omega⟩
    rw [repetition] at hx ⊢
    split at hx
    · cases hx
    · exact hx
    · split at hx
      · next hgo =>
        rw [if_pos hgo]
        exact ih (by omega) hx
      · next hstop =>
        rw [if_neg hstop]
        exact hx

variable [DecidableEq N] [ToString K] [ToString N] [Inhabited T] {g : Grammar K N T}

variable [DecidableEq K] {callRule : CallRule N T} {run : Run N T}

/-- **An operator ends within the input and in the extent, and keeps `J`, if its operands and the
rule that it calls do.** -/
theorem step_keeps (hE : E.Closed g input) (hfire : g.FiringKeeps input J)
    {operator : Operator K N NodeId} (hget : g.arena.get? id = some operator)
    (hstart : start ≤ input.size)
    (hev : ∀ o ∈ operator.operands, ∀ mode p, start ≤ p → p ≤ input.size → ∀ ⦃run⦄, J run →
      EndsWith J (Outcome.Fits input.size E o p) (ev o p mode run))
    (hcall : ∀ name, operator = .nonTerminal name →
      EndsWith J (Outcome.Fits input.size E id start) (callRule id name start mode run))
    (hJ : J run) :
    EndsWith J (Outcome.Fits input.size E id start)
      (g.step input callRule ev id start mode run) := by
  refine endsWith_iff_yields.2 (step_yields (hE.yield J) hfire hget hstart ?_ ?_ hJ)
  · exact fun o ho mode p hle hp run hJ => endsWith_iff_yields.1 (hev o ho mode p hle hp hJ)
  · exact fun name hname => endsWith_iff_yields.1 (hcall name hname)

end Step

end Grammar

end Packrat
