import Packrat.Proofs.Evaluation.Calls
import Packrat.Proofs.Evaluation.Plain

/-!
# What an operator makes of its operands

What an operator matches is made of what its operands match, whatever the books say, and so is the
value of the match. `Yield` is a property of matches with their values. `Yield.Closed` says that it
passes from operands to operators: a match draws on some of the operands (`Operator.Draws`), they
match one after the other from its start to its end (`Yield.InTurn`), and its action is given their
values.

`Grammar.step_yields` says this of one operator, together with what is kept on the way: if its
operands and the rule that it calls end within the input, with matches in the yield, and keep a
property `J` of runs, so does the operator. Where no result is excused, so it is here.

Whole evaluations call rules, whose outcomes may come from the memo table: `Grammar.Stocked` says
that all of them are in the yield. If `J` does not look at the books, every operator that takes part
in parses ends in the yield or runs out of depth (`Grammar.evalKeeping_yields`).
-/

namespace Packrat

variable {K N T : Type}

/-- An outcome at `start` that stays within an input of `n` tokens. -/
def Outcome.Within (n start : Nat) : Outcome T → Prop
  | .matched next span _ => start ≤ next ∧ next ≤ n ∧ span = ⟨start, next - start⟩
  | .failed position => start ≤ position ∧ position ≤ n

/-- If the outcome is a match, it goes up to a position and has a value with `P`. -/
def Outcome.Gives (P : Nat → T → Prop) : Outcome T → Prop
  | .matched next _ value => P next value
  | .failed _ => True

/-! ## Yields -/

/-- What operators may make: the operator at an id, in a mode, of the tokens from one position up to
another, with a value. -/
abbrev Yield (T : Type) := Mode → NodeId → Nat → Nat → T → Prop

/-- The operands that a match draws on, in turn. -/
def Operator.Draws {ι : Type} : Operator K N ι → List ι → Prop
  | .emptyString, sources => sources = []
  | .sequence operands, sources => sources = operands
  | .orderedChoice operands, sources => ∃ operand ∈ operands, sources = [operand]
  | .optional operand, sources => sources = [] ∨ sources = [operand]
  | .zeroOrMore operand, sources => ∃ n, sources = List.replicate n operand
  | .oneOrMore operand, sources => ∃ n, sources = List.replicate (n + 1) operand
  | _, _ => False

namespace Yield

/-- The operators at several ids match one after the other, from one position up to another. -/
inductive InTurn (Y : Yield T) (mode : Mode) : List NodeId → Nat → Nat → List T → Prop
  | nil {p : Nat} : InTurn Y mode [] p p []
  | cons {o : NodeId} {rest : List NodeId} {p q r : Nat} {value : T} {values : List T} :
      p ≤ q → Y mode o p q value → InTurn Y mode rest q r values →
      InTurn Y mode (o :: rest) p r (value :: values)

variable {Y : Yield T} {mode : Mode} {sources : List NodeId} {o : NodeId} {p q r : Nat}
  {value : T} {values : List T}

/-- One operator. -/
theorem InTurn.single (hle : p ≤ q) (h : Y mode o p q value) : Y.InTurn mode [o] p q [value] :=
  .cons hle h .nil

/-- One more operator at the end. -/
theorem InTurn.concat (h : Y.InTurn mode sources p q values) (hle : q ≤ r)
    (ho : Y mode o q r value) : Y.InTurn mode (sources ++ [o]) p r (values ++ [value]) := by
  induction h with
  | nil => exact .single hle ho
  | cons hpq hfirst _ ih => exact .cons hpq hfirst (ih hle ho)

/-- Every operator has a value. -/
theorem InTurn.length_eq (h : Y.InTurn mode sources p q values) :
    values.length = sources.length := by
  induction h with
  | nil => rfl
  | cons _ _ _ ih => rw [List.length_cons, List.length_cons, ih]

variable [DecidableEq N] [ToString K] [ToString N] [Inhabited T]

/-- The yield holds of everything that operators make of matches in the yield, from runs
with `J`. -/
structure Closed (g : Grammar K N T) (input : Array (Token K)) (Y : Yield T)
    (J : Run N T → Prop) : Prop where
  terminal : ∀ ⦃id tag p token mode run⦄, g.arena.get? id = some (.terminal tag) →
    input[p]? = some token → token.tag = tag → J run →
    Y mode id p (p + 1) (g.fire input id ⟨p, 1⟩ [] mode run).1
  draws : ∀ ⦃id operator sources p q values mode run⦄, g.arena.get? id = some operator →
    operator.Draws sources → Y.InTurn mode sources p q values → q ≤ input.size → J run →
    Y mode id p q (g.fire input id ⟨p, q - p⟩ values mode run).1
  call : ∀ ⦃id name body p q value mode run⦄, g.arena.get? id = some (.nonTerminal name) →
    g.body? name = some body → p ≤ q → q ≤ input.size → Y mode body p q value → J run →
    Y mode id p q (if mode = .consuming ∧ (g.arena.action? id).isSome then
      (g.fire input id ⟨p, q - p⟩ [value] mode run).1 else value)
  predicate : ∀ ⦃id operator p mode⦄, g.arena.get? id = some operator →
    operator.kind.isPredicate → Y mode id p p default

/-- From fewer runs on there are fewer matches. -/
theorem Closed.mono {g : Grammar K N T} {input : Array (Token K)} {J J' : Run N T → Prop}
    (h : Y.Closed g input J) (hJ : ∀ run, J' run → J run) : Y.Closed g input J' where
  terminal _ _ _ _ _ _ hget htoken htag hrun := h.terminal hget htoken htag (hJ _ hrun)
  draws _ _ _ _ _ _ _ _ hget hdraws hvalues hq hrun := h.draws hget hdraws hvalues hq (hJ _ hrun)
  call _ _ _ _ _ _ _ _ hget hbody hle hq hinner hrun :=
    h.call hget hbody hle hq hinner (hJ _ hrun)
  predicate _ _ _ _ hget hpredicate := h.predicate hget hpredicate

end Yield

/-- An outcome of the operator at an id that stays within an input of `n` tokens and, if it is a
match, in a yield. -/
def Outcome.Yields (n : Nat) (Y : Yield T) (mode : Mode) (id : NodeId) (start : Nat)
    (o : Outcome T) : Prop :=
  o.Within n start ∧ o.Gives (Y mode id start)

namespace Grammar

/-! ## One operator -/

/-- An evaluation has a result with `R`, and leaves a run with `J`. -/
def EndsWith {α : Type} (J : Run N T → Prop) (R : α → Prop) (x : Option (α × Run N T)) : Prop :=
  ∃ a run', x = some (a, run') ∧ R a ∧ J run'

/-- The same of an evaluation that may have no result, if this is excused. -/
def EndsUnless {α : Type} (lax : Prop) (J : Run N T → Prop) (R : α → Prop)
    (x : Option (α × Run N T)) : Prop :=
  lax ∧ x = none ∨ EndsWith J R x

section Step

variable {input : Array (Token K)} {J : Run N T → Prop} {Y : Yield T} {ev : Evaluator N T}
  {mode : Mode} {start : Nat} {lax : Prop}

/-- The turns of a repetition, after some that have begun at `start`: one is left for every token
that is left. -/
theorem repetition_yields {operand : NodeId}
    (hev : ∀ p, start ≤ p → p ≤ input.size → ∀ ⦃run⦄, J run →
      EndsUnless lax J (Outcome.Yields input.size Y mode operand p) (ev operand p mode run))
    (turns : Nat) :
    ∀ p, start ≤ p → p ≤ input.size → input.size < turns + p → ∀ n values ⦃run⦄,
      Y.InTurn mode (List.replicate n operand) start p values.reverse → J run →
      EndsUnless lax J (fun x : Nat × List T => p ≤ x.1 ∧ x.1 ≤ input.size ∧
          ∃ m, Y.InTurn mode (List.replicate m operand) start x.1 x.2.reverse)
        (repetition input ev operand mode turns p values run) := by
  induction turns with
  | zero =>
    intro p hstart hp hturns
    omega
  | succ turns ih =>
    intro p hstart hp hturns n values run hvalues hJ
    rw [repetition]
    rcases hev p hstart hp hJ with ⟨hlax, hop⟩ | ⟨o, run', hop, ⟨hwithin, hgives⟩, hJ'⟩ <;> rw [hop]
    · exact .inl ⟨hlax, rfl⟩
    cases o with
    | failed q => exact .inr ⟨_, run', rfl, ⟨Nat.le_refl p, hp, n, hvalues⟩, hJ'⟩
    | matched next span value =>
      obtain ⟨hle, hnext, -⟩ := hwithin
      have hmore : Y.InTurn mode (List.replicate (n + 1) operand) start next
          (value :: values).reverse := by
        rw [List.replicate_succ', List.reverse_cons]
        exact hvalues.concat hle hgives
      dsimp only
      split
      · rcases ih next (Nat.le_trans hstart hle) hnext (by omega) (n + 1) (value :: values) hmore
            hJ' with hnone | ⟨x, run'', hx, ⟨hlex, hxn, hend⟩, hJ''⟩
        · exact .inl hnone
        · exact .inr ⟨x, run'', hx, ⟨Nat.le_trans hle hlex, hxn, hend⟩, hJ''⟩
      · exact .inr ⟨_, run', rfl, ⟨hle, hnext, n + 1, hmore⟩, hJ'⟩

variable [ToString K] [ToString N] [Inhabited T] {g : Grammar K N T} {id : NodeId}

/-- Firing an action for tokens of the input keeps `J`. -/
def FiringKeeps (g : Grammar K N T) (input : Array (Token K)) (J : Run N T → Prop) : Prop :=
  ∀ ⦃id span values mode run⦄, span.stop ≤ input.size → J run →
    J (g.fire input id span values mode run).2

/-- A firing ends a match of the tokens from `start` up to `stop`. -/
theorem fire_yields (hfire : g.FiringKeeps input J) {run : Run N T} {stop : Nat} {values : List T}
    (hle : start ≤ stop) (hstop : stop ≤ input.size)
    (hvalue : Y mode id start stop (g.fire input id ⟨start, stop - start⟩ values mode run).1)
    (hJ : J run) :
    EndsUnless lax J (Outcome.Yields input.size Y mode id start)
      (some (.matched stop ⟨start, stop - start⟩
          (g.fire input id ⟨start, stop - start⟩ values mode run).1,
        (g.fire input id ⟨start, stop - start⟩ values mode run).2)) := by
  have hinside : Span.stop ⟨start, stop - start⟩ ≤ input.size := by
    simp only [Span.stop]
    omega
  exact .inr ⟨_, _, rfl, ⟨⟨hle, hstop, rfl⟩, hvalue⟩, hfire hinside hJ⟩

/-- The same match, as a start with a length. -/
theorem fire_yields_matchedAt (hfire : g.FiringKeeps input J) {run : Run N T} {stop : Nat}
    {values : List T} (hle : start ≤ stop) (hstop : stop ≤ input.size)
    (hvalue : Y mode id start stop (g.fire input id ⟨start, stop - start⟩ values mode run).1)
    (hJ : J run) :
    EndsUnless lax J (Outcome.Yields input.size Y mode id start)
      (some (.matchedAt start (stop - start)
          (g.fire input id ⟨start, stop - start⟩ values mode run).1,
        (g.fire input id ⟨start, stop - start⟩ values mode run).2)) := by
  have hnext : start + (stop - start) = stop := by omega
  rw [Outcome.matchedAt, hnext]
  exact fire_yields hfire hle hstop hvalue hJ

omit [ToString K] [ToString N] [Inhabited T] in
/-- A failure at `start`. -/
theorem yields_failed {run : Run N T} (hstart : start ≤ input.size) (hJ : J run) :
    EndsUnless lax J (Outcome.Yields input.size Y mode id start)
      (some ((.failed start : Outcome T), run)) :=
  .inr ⟨_, run, rfl, ⟨⟨Nat.le_refl start, hstart⟩, trivial⟩, hJ⟩

variable [DecidableEq N]

/-- The operands of a sequence, one after the other, after those that have begun at `start`. -/
theorem sequence_yields (hY : Y.Closed g input J) (hfire : g.FiringKeeps input J)
    {operands : List NodeId} (hget : g.arena.get? id = some (.sequence operands))
    {rest : List NodeId}
    (hev : ∀ o ∈ rest, ∀ p, start ≤ p → p ≤ input.size → ∀ ⦃run⦄, J run →
      EndsUnless lax J (Outcome.Yields input.size Y mode o p) (ev o p mode run)) :
    ∀ before p, operands = before ++ rest → start ≤ p → p ≤ input.size → ∀ values ⦃run⦄,
      Y.InTurn mode before start p values.reverse → J run →
      EndsUnless lax J (Outcome.Yields input.size Y mode id start)
        (g.sequence input ev id start mode rest p values run) := by
  induction rest with
  | nil =>
    intro before p hoperands hstart hp values run hvalues hJ
    rw [List.append_nil] at hoperands
    exact fire_yields_matchedAt hfire hstart hp (hY.draws hget hoperands.symm hvalues hp hJ) hJ
  | cons operand rest ih =>
    intro before p hoperands hstart hp values run hvalues hJ
    rw [sequence]
    rcases hev operand List.mem_cons_self p hstart hp hJ with
      ⟨hlax, hop⟩ | ⟨o, run', hop, ⟨hwithin, hgives⟩, hJ'⟩ <;> rw [hop]
    · exact .inl ⟨hlax, rfl⟩
    cases o with
    | failed q =>
      exact .inr ⟨_, run', rfl, ⟨⟨Nat.le_trans hstart hwithin.1, hwithin.2⟩, trivial⟩, hJ'⟩
    | matched next span value =>
      obtain ⟨hle, hnext, -⟩ := hwithin
      refine ih (fun o ho => hev o (List.mem_cons_of_mem _ ho)) (before ++ [operand]) next
        (by rw [hoperands, List.append_assoc]; rfl) (Nat.le_trans hstart hle) hnext
        (value :: values) ?_ hJ'
      rw [List.reverse_cons]
      exact hvalues.concat hle hgives

/-- The operands of a choice, until one matches. -/
theorem choice_yields (hY : Y.Closed g input J) (hfire : g.FiringKeeps input J)
    {operands : List NodeId} (hget : g.arena.get? id = some (.orderedChoice operands))
    (hstart : start ≤ input.size) {rest : List NodeId} (hrest : rest ⊆ operands)
    (hev : ∀ o ∈ rest, ∀ ⦃run⦄, J run →
      EndsUnless lax J (Outcome.Yields input.size Y mode o start) (ev o start mode run)) :
    ∀ ⦃run⦄, J run →
      EndsUnless lax J (Outcome.Yields input.size Y mode id start)
        (g.choice input ev id start mode rest run) := by
  induction rest with
  | nil => exact fun run hJ => yields_failed hstart hJ
  | cons operand rest ih =>
    intro run hJ
    obtain ⟨hmem, hrest⟩ := List.cons_subset.1 hrest
    rw [choice]
    rcases hev operand List.mem_cons_self hJ with
      ⟨hlax, hop⟩ | ⟨o, run', hop, ⟨hwithin, hgives⟩, hJ'⟩ <;> rw [hop]
    · exact .inl ⟨hlax, rfl⟩
    cases o with
    | failed q => exact ih hrest (fun o ho => hev o (List.mem_cons_of_mem _ ho)) hJ'
    | matched next span value =>
      obtain ⟨hle, hnext, rfl⟩ := hwithin
      exact fire_yields hfire hle hnext
        (hY.draws hget ⟨operand, hmem, rfl⟩ (.single hle hgives) hnext hJ') hJ'

/-- A call ends like the body of its rule. -/
theorem finishCall_yields (hY : Y.Closed g input J) (hfire : g.FiringKeeps input J) {name : N}
    {body : NodeId} (hget : g.arena.get? id = some (.nonTerminal name))
    (hbody : g.body? name = some body) {inner : Outcome T} {run : Run N T}
    (hinner : inner.Yields input.size Y mode body start) (hJ : J run) :
    EndsUnless lax J (Outcome.Yields input.size Y mode id start)
      (some (g.finishCall input id mode inner run)) := by
  obtain ⟨hwithin, hgives⟩ := hinner
  cases inner with
  | failed q => exact .inr ⟨_, run, rfl, ⟨hwithin, trivial⟩, hJ⟩
  | matched next span value =>
    obtain ⟨hle, hnext, rfl⟩ := hwithin
    have hvalue := hY.call hget hbody hle hnext hgives hJ
    unfold finishCall
    dsimp only
    split
    · next hact =>
      rw [if_pos hact] at hvalue
      exact fire_yields hfire hle hnext hvalue hJ
    · next hact =>
      rw [if_neg hact] at hvalue
      exact .inr ⟨_, run, rfl, ⟨⟨hle, hnext, rfl⟩, hvalue⟩, hJ⟩

variable [DecidableEq K] {callRule : CallRule N T} {run : Run N T}

/-- **An operator ends within the input and in the yield, and keeps `J`, if its operands and the
rule that it calls do.** -/
theorem step_yields (hY : Y.Closed g input J) (hfire : g.FiringKeeps input J)
    {operator : Operator K N NodeId} (hget : g.arena.get? id = some operator)
    (hstart : start ≤ input.size)
    (hev : ∀ o ∈ operator.operands, ∀ mode p, start ≤ p → p ≤ input.size → ∀ ⦃run⦄, J run →
      EndsUnless lax J (Outcome.Yields input.size Y mode o p) (ev o p mode run))
    (hcall : ∀ name, operator = .nonTerminal name →
      EndsUnless lax J (Outcome.Yields input.size Y mode id start)
        (callRule id name start mode run))
    (hJ : J run) :
    EndsUnless lax J (Outcome.Yields input.size Y mode id start)
      (g.step input callRule ev id start mode run) := by
  have hhere : ∀ o ∈ operator.operands, ∀ mode ⦃run⦄, J run →
      EndsUnless lax J (Outcome.Yields input.size Y mode o start) (ev o start mode run) :=
    fun o ho mode run hJ => hev o ho mode start (Nat.le_refl start) hstart hJ
  -- A match of no token, with an action or without one.
  have hempty : operator.Draws [] → ∀ ⦃run⦄, J run →
      EndsUnless lax J (Outcome.Yields input.size Y mode id start)
        (some (.matchedAt start 0 (g.fire input id ⟨start, 0⟩ [] mode run).1,
          (g.fire input id ⟨start, 0⟩ [] mode run).2)) := by
    intro hdraws run hJ
    have hzero : start - start = 0 := Nat.sub_self start
    rw [← hzero]
    exact fire_yields_matchedAt hfire (Nat.le_refl start) hstart
      (hY.draws hget hdraws .nil hstart hJ) hJ
  have hlook : operator.kind.isPredicate → ∀ ⦃run⦄, J run →
      EndsUnless lax J (Outcome.Yields input.size Y mode id start)
        (some ((.matchedAt start 0 default : Outcome T), run)) :=
    fun hpredicate run hJ => .inr ⟨_, run, rfl,
      ⟨⟨Nat.le_refl start, hstart, by simp⟩, hY.predicate hget hpredicate⟩, hJ⟩
  unfold step
  rw [hget]
  cases operator with
  | terminal tag =>
    dsimp only
    split
    · next htag =>
      obtain ⟨token, htoken, htag⟩ := (Option.any_eq_true _ _).1 htag
      have hlt : start < input.size := (Array.getElem?_eq_some_iff.1 htoken).1
      have hlength : start + 1 - start = 1 := by omega
      rw [← hlength]
      refine fire_yields_matchedAt hfire (Nat.le_succ start) hlt ?_ hJ
      rw [hlength]
      exact hY.terminal hget htoken (by simpa using htag) hJ
    · exact yields_failed hstart hJ
  | nonTerminal name => exact hcall name rfl
  | emptyString =>
    dsimp only
    rw [if_pos hstart]
    exact hempty rfl hJ
  | sequence operands =>
    exact sequence_yields hY hfire hget (fun o ho => hev o ho mode) [] start rfl
      (Nat.le_refl start) hstart [] .nil hJ
  | orderedChoice operands =>
    exact choice_yields hY hfire hget hstart (List.Subset.refl _) (fun o ho => hhere o ho mode) hJ
  | optional operand =>
    dsimp only
    rcases hhere operand (.head _) mode hJ with
      ⟨hlax, hop⟩ | ⟨o, run', hop, ⟨hwithin, hgives⟩, hJ'⟩ <;> rw [hop]
    · exact .inl ⟨hlax, rfl⟩
    cases o with
    | matched next span value =>
      obtain ⟨hle, hnext, rfl⟩ := hwithin
      exact fire_yields hfire hle hnext
        (hY.draws hget (.inr rfl) (.single hle hgives) hnext hJ') hJ'
    | failed q =>
      dsimp only
      rw [if_pos hstart]
      exact hempty (.inl rfl) hJ'
  | zeroOrMore operand =>
    dsimp only
    rcases repetition_yields (hev operand (.head _) mode) (input.size + 1) start (Nat.le_refl start)
        hstart (by omega) 0 [] .nil hJ with
      ⟨hlax, hrep⟩ | ⟨⟨stop, values⟩, run', hrep, ⟨hle, hstop, n, hturns⟩, hJ'⟩ <;> rw [hrep]
    · exact .inl ⟨hlax, rfl⟩
    · exact fire_yields_matchedAt hfire hle hstop
        (hY.draws hget ⟨n, rfl⟩ hturns hstop hJ') hJ'
  | oneOrMore operand =>
    dsimp only
    rcases repetition_yields (hev operand (.head _) mode) (input.size + 1) start (Nat.le_refl start)
        hstart (by omega) 0 [] .nil hJ with
      ⟨hlax, hrep⟩ | ⟨⟨stop, values⟩, run', hrep, ⟨hle, hstop, n, hturns⟩, hJ'⟩ <;> rw [hrep]
    · exact .inl ⟨hlax, rfl⟩
    cases values with
    | nil => exact yields_failed hstart hJ'
    | cons value values =>
      cases n with
      | zero => simpa using hturns.length_eq
      | succ n =>
        exact fire_yields_matchedAt hfire hle hstop
          (hY.draws hget ⟨n, rfl⟩ hturns hstop hJ') hJ'
  | andPredicate operand =>
    dsimp only
    rcases hhere operand (.head _) .probing hJ with
      ⟨hlax, hop⟩ | ⟨o, run', hop, -, hJ'⟩ <;> rw [hop]
    · exact .inl ⟨hlax, rfl⟩
    cases o with
    | matched next span value => exact hlook rfl hJ'
    | failed q => exact yields_failed hstart hJ'
  | notPredicate operand =>
    dsimp only
    rcases hhere operand (.head _) .probing hJ with
      ⟨hlax, hop⟩ | ⟨o, run', hop, -, hJ'⟩ <;> rw [hop]
    · exact .inl ⟨hlax, rfl⟩
    cases o with
    | matched next span value => exact yields_failed hstart hJ'
    | failed q => exact hlook rfl hJ'

end Step

/-! ## Whole evaluations -/

section Whole

variable [DecidableEq N] {g : Grammar K N T} {n : Nat} {Y : Yield T} {J : Run N T → Prop}

/-- Every outcome in the memo table is within an input of `n` tokens and, if it is a match, in the
yield of the body of its rule. -/
def Stocked (g : Grammar K N T) (n : Nat) (Y : Yield T) (c : Context N T) : Prop :=
  ∀ ⦃name body p mode o⦄, c.memo.find? name p mode = some o → g.body? name = some body →
    o.Yields n Y mode body p

/-- The memo table is empty at first. -/
theorem stocked_reset (c : Context N T) : g.Stocked n Y c.reset :=
  fun name body p mode o h => by simp at h

/-- Writing down an outcome in the yield keeps the memo table stocked. -/
theorem Stocked.close {keep : Keep N T} {before after : Context N T} {id body : NodeId} {name : N}
    {p : Nat} {mode : Mode} {o : Outcome T} (h : g.Stocked n Y after)
    (hbody : g.body? name = some body) (ho : o.Yields n Y mode body p) :
    g.Stocked n Y (.close keep before after id name p mode o) := by
  intro name' body' p' mode' o' hfind hbody'
  rcases Context.find?_close hfind with hold | ⟨-, rfl, rfl, rfl, rfl⟩
  · exact h hold hbody'
  · cases hbody.symm.trans hbody'
    exact ho

variable [ToString K] [ToString N] [Inhabited T] {input : Array (Token K)} {keep : Keep N T}
  {ev : Evaluator N T} {lax : Prop}

/-- A run with `J` whose memo table is stocked. -/
def StockedRun (g : Grammar K N T) (n : Nat) (Y : Yield T) (J : Run N T → Prop) (run : Run N T) :
    Prop :=
  J run ∧ g.Stocked n Y run.context

/-- Firing leaves the memo table alone. -/
theorem FiringKeeps.stocked (hfire : g.FiringKeeps input J) :
    g.FiringKeeps input (g.StockedRun n Y J) := by
  rintro id span values mode run hstop ⟨hJ, hstocked⟩
  refine ⟨hfire hstop hJ, ?_⟩
  rw [fire_context]
  exact hstocked

/-- A call ends in the yield, whether its outcome is known, it is refused, or the body of its rule
is evaluated, where `J'` holds as long as the call is in progress. -/
theorem callKeeping_yields {J' : Run N T → Prop} (hY : Y.Closed g input J)
    (hfire : g.FiringKeeps input J) {id body : NodeId} {name : N} {p : Nat} {mode : Mode}
    (hget : g.arena.get? id = some (.nonTerminal name)) (hbody : g.body? name = some body)
    (hp : p ≤ input.size) {run : Run N T}
    (hhit : ∀ hit, run.context.memo.find? name p mode = some hit →
      hit.Yields input.size Y mode body p ∧
        J { run with context := run.context.countCall.countHit })
    (hcut : J { run with context := run.context.countCall.countCut })
    (hev : id ∉ run.context.activeAt p →
      EndsUnless lax J' (Outcome.Yields input.size Y mode body p)
        (ev body p mode { run with context := run.context.countCall.enter id p }))
    (hclose : ∀ inner mid, inner.Yields input.size Y mode body p → J' mid →
      J { mid with
        context := .close keep run.context.countCall mid.context id name p mode inner }) :
    EndsUnless lax J (Outcome.Yields input.size Y mode id p)
      (g.callKeeping input keep ev id name p mode run) := by
  cases hfind : run.context.memo.find? name p mode with
  | some hit =>
    obtain ⟨hyields, hJ⟩ := hhit hit hfind
    rw [callKeeping_hit hfind]
    exact finishCall_yields hY hfire hget hbody hyields hJ
  | none =>
    by_cases hid : id ∈ run.context.activeAt p
    · rw [callKeeping_cut hfind hid]
      exact yields_failed hp hcut
    · rw [callKeeping_body hfind hid hbody]
      rcases hev hid with ⟨hlax, hnone⟩ | ⟨inner, mid, hmid, hyields, hJ'⟩
      · rw [hnone]
        exact .inl ⟨hlax, rfl⟩
      · rw [hmid]
        exact finishCall_yields hY hfire hget hbody hyields (hclose inner mid hyields hJ')

/-- **What takes part in parses ends in the yield**, if it does not run out of depth. -/
theorem evalKeeping_yields [DecidableEq K] {b : Builder K N T} {start : N} {rules : List (Rule N)}
    (hg : b.build start rules = .ok g) (hY : Y.Closed g input J) (hfire : g.FiringKeeps input J)
    (hbooks : ∀ run context, J run → J { run with context }) (depth : Nat) :
    ∀ ⦃id⦄, g.Live id → ∀ mode p, p ≤ input.size → ∀ ⦃run⦄, g.StockedRun input.size Y J run →
      EndsUnless True (g.StockedRun input.size Y J) (Outcome.Yields input.size Y mode id p)
        (g.evalKeeping input keep depth id p mode run) := by
  induction depth with
  | zero => exact fun id _ mode p _ run _ => .inl ⟨trivial, rfl⟩
  | succ depth ih =>
    intro id hid mode p hp run hrun
    obtain ⟨operator, hget, hops, hcallee⟩ := hid.closed hg
    refine step_yields (hY.mono fun _ h => h.1) hfire.stocked hget hp
      (fun o ho mode q _ hq run hrun => ih (hops o ho) mode q hq hrun) ?_ hrun
    rintro name rfl
    obtain ⟨body, hbody, hlive⟩ := hcallee name rfl
    obtain ⟨hJ, hstocked⟩ := hrun
    refine callKeeping_yields (hY.mono fun _ h => h.1) hfire.stocked hget hbody hp
      (fun hit hfind => ⟨hstocked hfind hbody, hbooks _ _ hJ, hstocked⟩) ⟨hbooks _ _ hJ, hstocked⟩
      (fun _ => ih hlive mode p hp ⟨hbooks _ _ hJ, hstocked⟩) ?_
    rintro inner mid hinner ⟨hJ', hstocked'⟩
    exact ⟨hbooks _ _ hJ', hstocked'.close hbody hinner⟩

end Whole

end Grammar

end Packrat
