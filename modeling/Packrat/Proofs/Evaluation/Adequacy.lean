import Packrat.Proofs.Evaluation.Plain

/-!
# Plain parsing expressions, computed

`Grammar.plainEval` evaluates without any books, with a bound on the depth. It computes the plain
relation: what it finds is derivable (`Grammar.parses_of_plainEval`), and what is derivable it finds
at some depth (`Grammar.Parses.yields`). More depth changes nothing (`Grammar.plainEval_mono`), and
which depth is enough depends neither on the mode nor on the run (`Grammar.Closes`); so a derivable
outcome is the only one (`Grammar.Parses.eq_of_plainEval`).
-/

namespace Packrat.Grammar

variable {K N T : Type} [ToString K] [ToString N]

/-- An evaluation has a result, and leaves the labels true. -/
def Gives {α : Type} (g : Grammar K N T) (x : Option (α × Run N T)) (a : α) : Prop :=
  ∃ run', x = some (a, run') ∧ g.Labelled run'.labels

/-- A result at hand. -/
theorem gives_some {α : Type} {g : Grammar K N T} {run : Run N T} {a : α}
    (hl : g.Labelled run.labels) : g.Gives (some (a, run)) a :=
  ⟨run, rfl, hl⟩

variable [Inhabited T]

/-- A firing gives the value of the match. -/
theorem gives_fire {g : Grammar K N T} {input : Array (Token K)} {id : NodeId} {mode : Mode}
    {run : Run N T} (hpure : g.PureActions) (hl : g.Labelled run.labels) (next : Nat) (span : Span)
    (values : List T) :
    g.Gives (some (Outcome.matched next span (g.fire input id span values mode run).1,
      (g.fire input id span values mode run).2))
      (.matched next span (g.valueOf input id span values mode)) :=
  ⟨_, by rw [fire_value hpure hl], fire_labelled hl⟩

variable [DecidableEq N]

section Definitions

variable (g : Grammar K N T) (input : Array (Token K))

/-- A call of the rule `name` by the non-terminal at `id`, without any books. -/
def plainCall (ev : Evaluator N T) (id : NodeId) (name : N) (start : Nat) (mode : Mode)
    (run : Run N T) : Option (Outcome T × Run N T) :=
  match g.body? name with
  | none => some (.failed start, run)
  | some body =>
    match ev body start mode run with
    | none => none
    | some (inner, run) => some (g.finishCall input id mode inner run)

variable [DecidableEq K]

/-- Evaluation without any books, with a bound on the depth. -/
def plainEval : (depth : Nat) → Evaluator N T := g.evalCalling input (g.plainCall input)

/-- A plain evaluation with depth left. -/
theorem plainEval_succ (depth : Nat) : g.plainEval input (depth + 1) =
    g.step input (g.plainCall input (g.plainEval input depth)) (g.plainEval input depth) := rfl

/-- At this depth the operator has the outcome, whatever true labels there are. -/
def Yields (depth : Nat) (id : NodeId) (p : Nat) (mode : Mode) (o : Outcome T) : Prop :=
  ∀ ⦃run : Run N T⦄, g.Labelled run.labels → g.Gives (g.plainEval input depth id p mode run) o

/-- At this depth the operator has an outcome, in every mode. -/
def Closes (depth : Nat) (id : NodeId) (p : Nat) : Prop :=
  ∀ mode run, (g.plainEval input depth id p mode run).isSome

end Definitions

variable {g : Grammar K N T} {input : Array (Token K)} {id : NodeId} {p : Nat} {mode : Mode}
  {o : Outcome T} {run : Run N T}

/-! ## What is found is derivable -/

/-- A plain call says what its rule says. -/
theorem plainCall_truthful {J R : Context N T → Prop} {ev : Evaluator N T} {name : N}
    {body : NodeId} (hpure : g.PureActions) (hget : g.arena.get? id = some (.nonTerminal name))
    (hbody : g.body? name = some body)
    (hev : g.Truthful J R (g.Parses input body p mode) run (ev body p mode run)) :
    g.Truthful J R (g.Parses input id p mode) run (g.plainCall input ev id name p mode run) := by
  unfold plainCall
  rw [hbody]
  dsimp only
  split
  · exact .nothing
  · next inner run' hinner =>
    obtain ⟨hs', himp⟩ := hev hinner
    exact finishCall_truthful hpure hget hbody hs' himp

/-- A plain call finds more if bodies are found more often. -/
theorem monotoneCalls_plainCall : MonotoneCalls (g.plainCall input) := by
  intro ev₁ ev₂ hev id name p mode run x hx
  unfold plainCall at hx ⊢
  split at hx
  · exact hx
  · split at hx
    · cases hx
    · next hinner =>
      rw [hev hinner]
      exact hx

/-- Whether a plain call has a result depends neither on the mode nor on the run, if that is so for
the bodies of rules. -/
theorem plainCall_follows {ev : Evaluator N T} {m₁ m₂ : Mode} {r₁ r₂ : Run N T} {name : N}
    (hev : ∀ body, Follows False (Outcome.Rel fun _ _ => True) (fun _ _ => True)
      (ev body p m₁ r₁) (ev body p m₂ r₂)) :
    Follows False (Outcome.Rel fun _ _ => True) (fun _ _ => True)
      (g.plainCall input ev id name p m₁ r₁) (g.plainCall input ev id name p m₂ r₂) := by
  unfold plainCall
  split
  · exact .some (.failed p) trivial
  · next body hbody =>
    intro o r₁' hr
    split at hr
    · cases hr
    · next inner₁ _ hinner =>
      obtain ⟨inner₂, r₂', hinner₂, hrel, -⟩ := (hev body).exists hinner
      rw [hinner₂]
      cases hrel with
      | failed q =>
        cases hr
        exact .inr ⟨_, _, rfl, .failed q, trivial⟩
      | matched next span _ =>
        unfold finishCall at hr ⊢
        dsimp only at hr ⊢
        split at hr <;> split <;> cases hr <;>
          exact .inr ⟨_, _, rfl, .matched next span trivial, trivial⟩

variable [DecidableEq K]

section Built

variable {b : Builder K N T} {start : N} {rules : List (Rule N)}

/-- A plain evaluation of an operator that takes part in parses is truthful. -/
theorem plainEval_truthful (hg : b.build start rules = .ok g) (hpure : g.PureActions)
    (depth : Nat) : ∀ ⦃id⦄, g.Live id → ∀ p mode ⦃run⦄, g.Sane (fun _ => True) run →
      g.Truthful (fun _ => True) (fun _ => True) (g.Parses input id p mode) run
        (g.plainEval input depth id p mode run) := by
  induction depth with
  | zero => exact fun id hid p mode run hs => .nothing
  | succ depth ih =>
    intro id hid p mode run hs
    obtain ⟨operator, hget, hops, hcallee⟩ := hid.closed hg
    refine step_truthful hpure hget (fun o ho => ih (hops o ho)) hs fun name hname => ?_
    subst hname
    obtain ⟨body, hbody, hlive⟩ := hcallee name rfl
    exact plainCall_truthful hpure hget hbody (ih hlive p mode hs)

/-- **What a plain evaluation finds is derivable.** -/
theorem parses_of_plainEval (hg : b.build start rules = .ok g) (hpure : g.PureActions)
    (hid : g.Live id) (hl : g.Labelled run.labels) {depth : Nat} {run' : Run N T}
    (h : g.plainEval input depth id p mode run = some (o, run')) : g.Parses input id p mode o :=
  ((plainEval_truthful hg hpure depth hid p mode ⟨trivial, hl⟩ h).2 trivial).2

end Built

/-! ## What is derivable is found -/

/-- A plain call gives what its rule yields. -/
theorem Yields.plainCall {depth : Nat} {name : N} {body : NodeId} (hpure : g.PureActions)
    (hbody : g.body? name = some body) (h : g.Yields input depth body p mode o)
    (hl : g.Labelled run.labels) :
    g.Gives (g.plainCall input (g.plainEval input depth) id name p mode run)
      (g.applied input id mode o) := by
  obtain ⟨run', hrun', hl'⟩ := h hl
  obtain ⟨run'', hout, -, hlabels⟩ := finishCall_eq hpure hl' input id mode o
  refine ⟨run'', ?_, hlabels⟩
  rw [Grammar.plainCall, hbody]
  dsimp only
  rw [hrun', ← hout]

/-- An operator yields an outcome from some depth on, if from some depth on it does one above all
depths with `P`, and `P` holds. -/
theorem yields_of_eventually {P : Nat → Prop} (hP : ∃ depth, ∀ k ≥ depth, P k)
    (h : ∀ k, P k → g.Yields input (k + 1) id p mode o) :
    ∃ depth, ∀ k ≥ depth, g.Yields input k id p mode o := by
  obtain ⟨depth, hdepth⟩ := hP
  refine ⟨depth + 1, fun k hk => ?_⟩
  obtain ⟨j, rfl⟩ : ∃ j, k = j + 1 := ⟨k - 1, by omega⟩
  exact h j (hdepth j (by omega))

/-- An operator without operands yields an outcome from some depth on. -/
theorem yields_of_leaf (h : ∀ k, g.Yields input (k + 1) id p mode o) :
    ∃ depth, ∀ k ≥ depth, g.Yields input k id p mode o :=
  yields_of_eventually ⟨0, fun _ _ => trivial⟩ fun k _ => h k

/-- An operator yields an outcome from some depth on, if it makes it of what its operand yields. -/
theorem yields_of_operand {operand : NodeId} {q : Nat} {mode' : Mode} {inner : Outcome T}
    (hoperand : ∃ depth, ∀ k ≥ depth, g.Yields input k operand q mode' inner)
    (h : ∀ k (run run' : Run N T), g.Labelled run'.labels →
      g.plainEval input k operand q mode' run = some (inner, run') →
      g.Gives (g.plainEval input (k + 1) id p mode run) o) :
    ∃ depth, ∀ k ≥ depth, g.Yields input k id p mode o := by
  refine yields_of_eventually hoperand fun k hk run hl => ?_
  obtain ⟨run', hinner, hl'⟩ := hk hl
  exact h k run run' hl' hinner

/-- How a sequence ends, from how its operands do after the values `before`. -/
def endOfSequence (g : Grammar K N T) (input : Array (Token K)) (id : NodeId) (start : Nat)
    (mode : Mode) (before : List T) : Except Nat (Nat × List T) → Outcome T
  | .error q => .failed q
  | .ok (stop, values) =>
    .matchedAt start (stop - start)
      (g.valueOf input id ⟨start, stop - start⟩ (before.reverse ++ values) mode)

/-- How a choice ends, from the operand that matched. -/
def endOfChoice (g : Grammar K N T) (input : Array (Token K)) (id : NodeId) (start : Nat)
    (mode : Mode) : Option (Nat × Span × T) → Outcome T
  | none => .failed start
  | some (next, span, value) => .matched next span (g.valueOf input id span [value] mode)

mutual

/-- **What is derivable is found, at all depths from some depth on.** -/
theorem Parses.yields (hpure : g.PureActions) {id : NodeId} {p : Nat} {mode : Mode}
    {o : Outcome T} : g.Parses input id p mode o →
      ∃ depth, ∀ k ≥ depth, g.Yields input k id p mode o
  | .terminal hget htoken htag => yields_of_leaf fun k run hl => by
      rw [plainEval_succ, step, hget]
      simp only [htoken, htag, Option.any_some, decide_true, if_true]
      exact gives_fire hpure hl _ _ _
  | .terminalFails hget hfail => yields_of_leaf fun k run hl => by
      rw [plainEval_succ, step, hget]
      cases htoken : input[p]? with
      | none => exact gives_some hl
      | some token =>
        simp only [Option.any_some, hfail token htoken, decide_false]
        exact gives_some hl
  | .nonTerminal hget hbody hparse =>
    yields_of_eventually (hparse.yields hpure) fun k hk run hl => by
      rw [plainEval_succ, step, hget]
      exact Yields.plainCall hpure hbody hk hl
  | .emptyString hget hle => yields_of_leaf fun k run hl => by
      rw [plainEval_succ, step, hget]
      simp only [hle, if_true]
      exact gives_fire hpure hl _ _ _
  | .emptyStringFails hget hlt => yields_of_leaf fun k run hl => by
      rw [plainEval_succ, step, hget]
      simp only [Nat.not_le.2 hlt, if_false]
      exact gives_some hl
  | .sequence hget hall => yields_of_eventually (hall.yields hpure) fun k hk run hl => by
      rw [plainEval_succ, step, hget]
      exact hk id p [] hl
  | .sequenceFails hget hall => yields_of_eventually (hall.yields hpure) fun k hk run hl => by
      rw [plainEval_succ, step, hget]
      exact hk id p [] hl
  | .orderedChoice hget hfirst => yields_of_eventually (hfirst.yields hpure) fun k hk run hl => by
      rw [plainEval_succ, step, hget]
      exact hk id hl
  | .orderedChoiceFails hget hnone =>
    yields_of_eventually (hnone.yields hpure) fun k hk run hl => by
      rw [plainEval_succ, step, hget]
      exact hk id hl
  | .optional hget hparse => yields_of_operand (hparse.yields hpure) fun k run run' hl' hop => by
      rw [plainEval_succ, step, hget]
      simp only [hop]
      exact gives_fire hpure hl' _ _ _
  | .optionalAbsent hget hparse hle =>
    yields_of_operand (hparse.yields hpure) fun k run run' hl' hop => by
      rw [plainEval_succ, step, hget]
      simp only [hop, hle, if_true]
      exact gives_fire hpure hl' _ _ _
  | .optionalFails hget hparse hlt =>
    yields_of_operand (hparse.yields hpure) fun k run run' hl' hop => by
      rw [plainEval_succ, step, hget]
      simp only [hop, Nat.not_le.2 hlt, if_false]
      exact gives_some hl'
  | .zeroOrMore hget hrep => yields_of_eventually (hrep.yields hpure) fun k hk run hl => by
      obtain ⟨run', hrep, hl'⟩ := hk (input.size + 1) [] (by omega) hl
      rw [plainEval_succ, step, hget]
      simp only [hrep, List.append_nil, List.reverse_reverse]
      exact gives_fire hpure hl' _ _ _
  | .oneOrMore hget hrep hne => yields_of_eventually (hrep.yields hpure) fun k hk run hl => by
      obtain ⟨run', hrep, hl'⟩ := hk (input.size + 1) [] (by omega) hl
      have hne' := List.reverse_ne_nil_iff.2 hne
      rw [plainEval_succ, step, hget]
      simp only [hrep, List.append_nil, List.reverse_reverse]
      exact gives_fire hpure hl' _ _ _
  | .oneOrMoreFails hget hrep => yields_of_eventually (hrep.yields hpure) fun k hk run hl => by
      obtain ⟨run', hrep, hl'⟩ := hk (input.size + 1) [] (by omega) hl
      rw [plainEval_succ, step, hget]
      simp only [hrep, List.reverse_nil, List.append_nil]
      exact gives_some hl'
  | .andPredicate hget hparse =>
    yields_of_operand (hparse.yields hpure) fun k run run' hl' hop => by
      rw [plainEval_succ, step, hget]
      simp only [hop]
      exact gives_some hl'
  | .andPredicateFails hget hparse =>
    yields_of_operand (hparse.yields hpure) fun k run run' hl' hop => by
      rw [plainEval_succ, step, hget]
      simp only [hop]
      exact gives_some hl'
  | .notPredicate hget hparse =>
    yields_of_operand (hparse.yields hpure) fun k run run' hl' hop => by
      rw [plainEval_succ, step, hget]
      simp only [hop]
      exact gives_some hl'
  | .notPredicateFails hget hparse =>
    yields_of_operand (hparse.yields hpure) fun k run run' hl' hop => by
      rw [plainEval_succ, step, hget]
      simp only [hop]
      exact gives_some hl'

/-- The operands of a sequence are found. -/
theorem InOrder.yields (hpure : g.PureActions) {operands : List NodeId} {p : Nat} {mode : Mode}
    {res : Except Nat (Nat × List T)} : g.InOrder input operands p mode res →
      ∃ depth, ∀ k ≥ depth, ∀ id start before ⦃run⦄, g.Labelled run.labels →
        g.Gives (g.sequence input (g.plainEval input k) id start mode operands p before run)
          (g.endOfSequence input id start mode before res)
  | .nil => ⟨0, fun k _ id start before run hl => by
      rw [sequence, endOfSequence, List.append_nil]
      exact gives_fire hpure hl _ _ _⟩
  | .fails hparse => by
      obtain ⟨depth, hdepth⟩ := hparse.yields hpure
      refine ⟨depth, fun k hk id start before run hl => ?_⟩
      obtain ⟨run', hop, hl'⟩ := hdepth k hk hl
      rw [sequence, hop]
      exact gives_some hl'
  | .failsLater hparse hrest => by
      obtain ⟨depth₁, h₁⟩ := hparse.yields hpure
      obtain ⟨depth₂, h₂⟩ := hrest.yields hpure
      refine ⟨max depth₁ depth₂, fun k hk id start before run hl => ?_⟩
      obtain ⟨run', hop, hl'⟩ := h₁ k (by omega) hl
      rw [sequence, hop]
      exact h₂ k (by omega) id start _ hl'
  | .cons hparse hrest => by
      obtain ⟨depth₁, h₁⟩ := hparse.yields hpure
      obtain ⟨depth₂, h₂⟩ := hrest.yields hpure
      refine ⟨max depth₁ depth₂, fun k hk id start before run hl => ?_⟩
      obtain ⟨run', hop, hl'⟩ := h₁ k (by omega) hl
      rw [sequence, hop]
      simpa [endOfSequence] using h₂ k (by omega) id start (_ :: before) hl'

/-- The operands of a choice are found. -/
theorem FirstOf.yields (hpure : g.PureActions) {operands : List NodeId} {p : Nat} {mode : Mode}
    {found : Option (Nat × Span × T)} : g.FirstOf input operands p mode found →
      ∃ depth, ∀ k ≥ depth, ∀ id ⦃run⦄, g.Labelled run.labels →
        g.Gives (g.choice input (g.plainEval input k) id p mode operands run)
          (g.endOfChoice input id p mode found)
  | .nil => ⟨0, fun k _ id run hl => gives_some hl⟩
  | .here hparse => by
      obtain ⟨depth, hdepth⟩ := hparse.yields hpure
      refine ⟨depth, fun k hk id run hl => ?_⟩
      obtain ⟨run', hop, hl'⟩ := hdepth k hk hl
      rw [choice, hop]
      exact gives_fire hpure hl' _ _ _
  | .later hparse hrest => by
      obtain ⟨depth₁, h₁⟩ := hparse.yields hpure
      obtain ⟨depth₂, h₂⟩ := hrest.yields hpure
      refine ⟨max depth₁ depth₂, fun k hk id run hl => ?_⟩
      obtain ⟨run', hop, hl'⟩ := h₁ k (by omega) hl
      rw [choice, hop]
      exact h₂ k (by omega) id hl'

/-- The turns of a repetition are found: every turn but the last one advances. -/
theorem Repeats.yields (hpure : g.PureActions) {operand : NodeId} {p stop : Nat} {mode : Mode}
    {values : List T} : g.Repeats input operand p mode stop values →
      ∃ depth, ∀ k ≥ depth, ∀ turns before, input.size - p + 1 ≤ turns → ∀ ⦃run⦄,
        g.Labelled run.labels →
          g.Gives (repetition input (g.plainEval input k) operand mode turns p before run)
            (stop, values.reverse ++ before)
  | .done hparse => by
      obtain ⟨depth, hdepth⟩ := hparse.yields hpure
      refine ⟨depth, fun k hk turns before hturns run hl => ?_⟩
      obtain ⟨run', hop, hl'⟩ := hdepth k hk hl
      obtain ⟨turns, rfl⟩ : ∃ j, turns = j + 1 := ⟨turns - 1, by omega⟩
      rw [repetition, hop]
      exact gives_some hl'
  | .last hparse hstop => by
      obtain ⟨depth, hdepth⟩ := hparse.yields hpure
      refine ⟨depth, fun k hk turns before hturns run hl => ?_⟩
      obtain ⟨run', hop, hl'⟩ := hdepth k hk hl
      obtain ⟨turns, rfl⟩ : ∃ j, turns = j + 1 := ⟨turns - 1, by omega⟩
      rw [repetition, hop]
      dsimp only
      rw [if_neg (by omega)]
      exact gives_some hl'
  | .more hparse hlt hsize hrest => by
      obtain ⟨depth₁, h₁⟩ := hparse.yields hpure
      obtain ⟨depth₂, h₂⟩ := hrest.yields hpure
      refine ⟨max depth₁ depth₂, fun k hk turns before hturns run hl => ?_⟩
      obtain ⟨run', hop, hl'⟩ := h₁ k (by omega) hl
      obtain ⟨turns, rfl⟩ : ∃ j, turns = j + 1 := ⟨turns - 1, by omega⟩
      rw [repetition, hop]
      dsimp only
      rw [if_pos ⟨hlt, hsize⟩]
      simpa using h₂ k (by omega) turns (_ :: before) (by omega) hl'

end

/-! ## Which depth is enough -/

/-- More depth changes no result. -/
theorem plainEval_mono {n k : Nat} (h : n ≤ k) :
    Below (g.plainEval input n) (g.plainEval input k) :=
  evalCalling_mono monotoneCalls_plainCall h

/-- Whether a plain evaluation has a result depends neither on the mode nor on the run. -/
theorem plainEval_follows (depth : Nat) : ∀ (m₁ m₂ : Mode) (id : NodeId) (p : Nat)
    (r₁ r₂ : Run N T), Follows False (Outcome.Rel fun _ _ => True) (fun _ _ => True)
      (g.plainEval input depth id p m₁ r₁) (g.plainEval input depth id p m₂ r₂) := by
  induction depth with
  | zero => exact fun _ _ _ _ _ _ => nofun
  | succ depth ih =>
    intro m₁ m₂ id p r₁ r₂
    have halike : Alike g g input (fun _ _ => True) (fun _ _ => True) m₁ m₂ :=
      ⟨fun _ => rfl, trivial, fun _ _ _ _ _ _ _ _ => ⟨trivial, trivial⟩⟩
    exact halike.step (fun _ _ o _ p r₁ r₂ _ => ih m₁ m₂ o p r₁ r₂)
      (fun _ _ o _ p r₁ r₂ _ => ih .probing .probing o p r₁ r₂)
      (fun name _ => plainCall_follows fun body => ih m₁ m₂ body p r₁ r₂) trivial

/-- One result is enough for a depth to be enough. -/
theorem closes_of_plainEval {depth : Nat} {run' : Run N T}
    (h : g.plainEval input depth id p mode run = some (o, run')) : g.Closes input depth id p := by
  intro mode₂ run₂
  obtain ⟨_, _, h₂, -⟩ := (plainEval_follows depth mode mode₂ id p run run₂).exists h
  rw [h₂]
  rfl

/-- More depth is enough too. -/
theorem Closes.mono {n k : Nat} (h : g.Closes input n id p) (hk : n ≤ k) :
    g.Closes input k id p := by
  intro mode run
  obtain ⟨x, hx⟩ := Option.isSome_iff_exists.1 (h mode run)
  rw [plainEval_mono hk hx]
  rfl

/-- One level more is enough for a call of the rule. -/
theorem Closes.nonTerminal {name : N} {body : NodeId} {depth : Nat}
    (hget : g.arena.get? id = some (.nonTerminal name)) (hbody : g.body? name = some body)
    (h : g.Closes input depth body p) : g.Closes input (depth + 1) id p := by
  intro mode run
  obtain ⟨⟨o, run'⟩, hinner⟩ := Option.isSome_iff_exists.1 (h mode run)
  rw [plainEval_succ, step, hget]
  dsimp only
  rw [plainCall, hbody]
  dsimp only
  rw [hinner]
  rfl

/-- For a derivable outcome some depth is enough. -/
theorem Parses.closes (hpure : g.PureActions) (h : g.Parses input id p mode o) :
    ∃ depth, g.Closes input depth id p := by
  obtain ⟨depth, hdepth⟩ := h.yields hpure
  have hempty : g.Labelled ({} : Run N T).labels := g.labelled_empty
  obtain ⟨run', hrun, -⟩ := hdepth depth (Nat.le_refl _) hempty
  exact ⟨depth, closes_of_plainEval hrun⟩

/-- **What a plain evaluation finds is the only derivable outcome.** -/
theorem Parses.eq_of_plainEval (hpure : g.PureActions) (h : g.Parses input id p mode o)
    (hl : g.Labelled run.labels) {depth : Nat} {o' : Outcome T} {run' : Run N T}
    (hrun : g.plainEval input depth id p mode run = some (o', run')) : o' = o := by
  obtain ⟨k, hk⟩ := h.yields hpure
  obtain ⟨run'', hrun', -⟩ := hk (max depth k) (Nat.le_max_right _ _) hl
  have hsame := plainEval_mono (Nat.le_max_left depth k) hrun
  rw [hrun'] at hsame
  exact congrArg Prod.fst (Option.some.inj hsame).symm

end Packrat.Grammar
