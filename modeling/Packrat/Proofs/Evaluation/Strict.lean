import Packrat.Proofs.Evaluation.Termination

/-!
# No fallback is reached

Evaluation is total: where an operator, a rule, a slot for a label or tokens are not there, it goes
on with an ordinary failure or with less. Strict evaluation (`Grammar.strictEval`) stops there, and
`Lapse` says at what. Beside the memo table it keeps why the outcomes there are failures, so every
failure that it returns has a reason (`Reason`): which operator did not match by itself, and where.

What takes part in parses of a grammar that `build` has returned is evaluated alike, strictly or not
(`Grammar.strictEval_upholds`), so strict evaluation of a parse does not stop
(`Grammar.parseWith_strict`): no fallback is reached, and every failure has a genuine reason.
-/

namespace Packrat

variable {K N T : Type}

/-! ## Strict evaluation -/

/-- What evaluation passes over in silence. -/
inductive Lapse (N : Type) where
  /-- There is no operator at the id. -/
  | foreign (id : NodeId)
  /-- A rule is called that is not there. -/
  | undefined (name : N)
  /-- There is no slot for the label of the operator. -/
  | unlabelled (id : NodeId)
  /-- Not all tokens of a match are in the input. -/
  | outside (span : Span)
  /-- An operator that needs no token was tried behind the end of the input. -/
  | beyond (id : NodeId) (position : Nat)
  /-- A failure in the memo table has no reason. -/
  | unexplained (name : N) (position : Nat) (mode : Mode)
  /-- The bound on the depth was too small. -/
  | depth
deriving DecidableEq

/-- The ways in which an operator does not match by itself. -/
inductive Cause where
  /-- The token is not there, or has another tag than the terminal. -/
  | mismatch
  /-- No alternative of the choice matched. -/
  | exhausted
  /-- A repetition that needs one turn had none. -/
  | unmatched
  /-- What the predicate looks for was not there, or the other way round. -/
  | predicate
  /-- The call was in progress at the same position. -/
  | cut
deriving DecidableEq

/-- Why there is a failure: which operator did not match, where, and how. -/
structure Reason where
  cause : Cause
  node : NodeId
  position : Nat
deriving DecidableEq

/-- An outcome whose failures have a reason. -/
inductive Verdict (T : Type) where
  | matched (next : Nat) (span : Span) (value : T)
  | failed (reason : Reason)

namespace Verdict

/-- The outcome: a failure is where its reason is. -/
def outcome : Verdict T → Outcome T
  | .matched next span value => .matched next span value
  | .failed reason => .failed reason.position

/-- The reason of a failure. -/
def reason? : Verdict T → Option Reason
  | .matched _ _ _ => none
  | .failed reason => some reason

end Verdict

/-- A run with the reasons of the failures in its memo table. -/
structure Account (N T : Type) where
  run : Run N T := {}
  reasons : N → Nat → Mode → Option Reason := fun _ _ _ => none

namespace Account

/-- The account with another context. -/
def withContext (s : Account N T) (context : Context N T) : Account N T :=
  { s with run := { s.run with context } }

variable [DecidableEq N]

/-- Notes why the outcome of a rule is a failure, if it is one. -/
def note (s : Account N T) (name : N) (position : Nat) (mode : Mode) (v : Verdict T) :
    Account N T :=
  { s with reasons := fun name' position' mode' =>
      if name' = name ∧ position' = position ∧ mode' = mode then v.reason?
      else s.reasons name' position' mode' }

/-- An outcome from the memo table with its reason. -/
def verdict (s : Account N T) (name : N) (position : Nat) (mode : Mode) :
    Outcome T → Except (Lapse N) (Verdict T)
  | .matched next span value => .ok (.matched next span value)
  | .failed _ =>
    match s.reasons name position mode with
    | none => .error (.unexplained name position mode)
    | some reason => .ok (.failed reason)

end Account

/-- An evaluator that stops at a lapse. -/
abbrev StrictEvaluator (N T : Type) :=
  NodeId → Nat → Mode → Account N T → Except (Lapse N) (Verdict T × Account N T)

namespace Grammar

section Definitions

variable (g : Grammar K N T) (input : Array (Token K))

/-- An operand as often as it matches, as in `repetition`. -/
def strictRepetition (ev : StrictEvaluator N T) (operand : NodeId) (mode : Mode) :
    (turns : Nat) → (position : Nat) → (values : List T) → Account N T →
      Except (Lapse N) ((Nat × List T) × Account N T)
  | 0, _, _, _ => .error .depth
  | turns + 1, position, values, s =>
    match ev operand position mode s with
    | .error lapse => .error lapse
    | .ok (.failed _, s) => .ok ((position, values), s)
    | .ok (.matched next _ value, s) =>
      if position < next ∧ next < input.size then
        strictRepetition ev operand mode turns next (value :: values) s
      else .ok ((next, value :: values), s)

variable [DecidableEq K] [DecidableEq N] [ToString K] [ToString N] [Inhabited T]

/-- A match with the value that firing gives it. It stops where firing would make do with the
default value, because there is no slot for the label, or where the action would see no tokens,
because they are not all in the input. -/
def strictMatch (id : NodeId) (next : Nat) (span : Span) (values : List T) (mode : Mode)
    (s : Account N T) : Except (Lapse N) (Verdict T × Account N T) :=
  if !g.hasSlot id then .error (.unlabelled id)
  else if input.size < span.stop then .error (.outside span)
  else
    let (value, run) := g.fire input id span values mode s.run
    .ok (.matched next span value, { s with run })

/-- The operands of a sequence, as in `sequence`. -/
def strictSequence (ev : StrictEvaluator N T) (id : NodeId) (start : Nat) (mode : Mode) :
    List NodeId → (position : Nat) → (values : List T) → Account N T →
      Except (Lapse N) (Verdict T × Account N T)
  | [], position, values, s =>
    let length := position - start
    g.strictMatch input id (start + length) ⟨start, length⟩ values.reverse mode s
  | operand :: rest, position, values, s =>
    match ev operand position mode s with
    | .error lapse => .error lapse
    | .ok (.failed reason, s) => .ok (.failed reason, s)
    | .ok (.matched next _ value, s) =>
      strictSequence ev id start mode rest next (value :: values) s

/-- The first of the operands that matches, as in `choice`. -/
def strictChoice (ev : StrictEvaluator N T) (id : NodeId) (start : Nat) (mode : Mode) :
    List NodeId → Account N T → Except (Lapse N) (Verdict T × Account N T)
  | [], s => .ok (.failed ⟨.exhausted, id, start⟩, s)
  | operand :: rest, s =>
    match ev operand start mode s with
    | .error lapse => .error lapse
    | .ok (.failed _, s) => strictChoice ev id start mode rest s
    | .ok (.matched next span value, s) => g.strictMatch input id next span [value] mode s

/-- The verdict of a call from the verdict of the body, as in `finishCall`. -/
def strictFinishCall (id : NodeId) (mode : Mode) (inner : Verdict T) (s : Account N T) :
    Except (Lapse N) (Verdict T × Account N T) :=
  match inner with
  | .failed reason => .ok (.failed reason, s)
  | .matched next span value =>
    if mode = .consuming ∧ (g.arena.action? id).isSome then
      g.strictMatch input id next span [value] mode s
    else .ok (.matched next span value, s)

/-- A call of the rule `name`, as in `call`. -/
def strictCall (ev : StrictEvaluator N T) (id : NodeId) (name : N) (start : Nat) (mode : Mode)
    (s : Account N T) : Except (Lapse N) (Verdict T × Account N T) :=
  let context := s.run.context.countCall
  match context.memo.find? name start mode with
  | some hit =>
    match s.verdict name start mode hit with
    | .error lapse => .error lapse
    | .ok inner => g.strictFinishCall input id mode inner (s.withContext context.countHit)
  | none =>
    if id ∈ context.activeAt start then
      .ok (.failed ⟨.cut, id, start⟩, s.withContext context.countCut)
    else
      match g.body? name with
      | none => .error (.undefined name)
      | some body =>
        match ev body start mode (s.withContext (context.enter id start)) with
        | .error lapse => .error lapse
        | .ok (inner, s) =>
          let context := (s.run.context.leave id start).record name start mode inner.outcome
          g.strictFinishCall input id mode inner
            ((s.withContext context).note name start mode inner)

/-- What the operator at `id` does at `start`, as in `step`. -/
def strictStep
    (callRule : NodeId → N → Nat → Mode → Account N T →
      Except (Lapse N) (Verdict T × Account N T))
    (ev : StrictEvaluator N T) : StrictEvaluator N T := fun id start mode s =>
  match g.arena.get? id with
  | none => .error (.foreign id)
  | some (.terminal tag) =>
    if (input[start]?).any (·.tag = tag) then
      g.strictMatch input id (start + 1) ⟨start, 1⟩ [] mode s
    else .ok (.failed ⟨.mismatch, id, start⟩, s)
  | some (.nonTerminal name) => callRule id name start mode s
  | some .emptyString =>
    if start ≤ input.size then g.strictMatch input id start ⟨start, 0⟩ [] mode s
    else .error (.beyond id start)
  | some (.sequence operands) => g.strictSequence input ev id start mode operands start [] s
  | some (.orderedChoice operands) => g.strictChoice input ev id start mode operands s
  | some (.optional operand) =>
    match ev operand start mode s with
    | .error lapse => .error lapse
    | .ok (.matched next span value, s) => g.strictMatch input id next span [value] mode s
    | .ok (.failed _, s) =>
      if start ≤ input.size then g.strictMatch input id start ⟨start, 0⟩ [] mode s
      else .error (.beyond id start)
  | some (.zeroOrMore operand) =>
    match strictRepetition input ev operand mode (input.size + 1) start [] s with
    | .error lapse => .error lapse
    | .ok ((stop, values), s) =>
      let length := stop - start
      g.strictMatch input id (start + length) ⟨start, length⟩ values.reverse mode s
  | some (.oneOrMore operand) =>
    match strictRepetition input ev operand mode (input.size + 1) start [] s with
    | .error lapse => .error lapse
    | .ok ((_, []), s) => .ok (.failed ⟨.unmatched, id, start⟩, s)
    | .ok ((stop, values), s) =>
      let length := stop - start
      g.strictMatch input id (start + length) ⟨start, length⟩ values.reverse mode s
  | some (.andPredicate operand) =>
    match ev operand start .probing s with
    | .error lapse => .error lapse
    | .ok (.matched _ _ _, s) => .ok (.matched start ⟨start, 0⟩ default, s)
    | .ok (.failed _, s) => .ok (.failed ⟨.predicate, id, start⟩, s)
  | some (.notPredicate operand) =>
    match ev operand start .probing s with
    | .error lapse => .error lapse
    | .ok (.matched _ _ _, s) => .ok (.failed ⟨.predicate, id, start⟩, s)
    | .ok (.failed _, s) => .ok (.matched start ⟨start, 0⟩ default, s)

/-- Strict evaluation with a bound on the depth. -/
def strictEval : (depth : Nat) → StrictEvaluator N T
  | 0 => fun _ _ _ _ => .error .depth
  | depth + 1 => g.strictStep input (g.strictCall input (strictEval depth)) (strictEval depth)

end Definitions

end Grammar

/-! ## What strict evaluation keeps -/

/-- An operator can fail in this way by itself, at a position of the input. -/
def Cause.Of [DecidableEq K] (input : Array (Token K)) (position : Nat) :
    Cause → Operator K N NodeId → Prop
  | .mismatch, .terminal tag => ¬ (input[position]?).any (·.tag = tag)
  | .exhausted, .orderedChoice _ => True
  | .unmatched, .oneOrMore _ => True
  | .predicate, operator => operator.kind.isPredicate
  | .cut, .nonTerminal _ => True
  | _, _ => False

section Explained

variable [DecidableEq K] [DecidableEq N] (g : Grammar K N T) (input : Array (Token K))

/-- The operator is there, and can fail in this way at the position. -/
def Reason.Genuine (reason : Reason) : Prop :=
  ∃ operator, g.arena.get? reason.node = some operator ∧
    reason.cause.Of input reason.position operator

/-- A verdict at `start` stays within the input, and the reason of a failure is genuine. -/
structure Verdict.Sound (start : Nat) (v : Verdict T) : Prop where
  within : v.outcome.Within input.size start
  genuine : ∀ reason, v = .failed reason → reason.Genuine g input

/-- The outcomes in the memo table stay within the input, and every failure among them has a genuine
reason. -/
structure Account.Explained (s : Account N T) : Prop where
  within : ∀ ⦃name p mode o⦄, s.run.context.memo.find? name p mode = some o →
    o.Within input.size p
  reasons : ∀ ⦃name p mode q⦄, s.run.context.memo.find? name p mode = some (.failed q) →
    ∃ reason, s.reasons name p mode = some reason ∧ reason.position = q ∧ reason.Genuine g input

/-- Strict evaluation has a result with `R`, evaluation has the same but for the reasons, and the
account is explained. Evaluation may also run out of depth. -/
def Confirms {α β : Type} (outcome : α → β) (R : α → Prop)
    (x : Except (Lapse N) (α × Account N T)) (y : Option (β × Run N T)) : Prop :=
  y = none ∨ ∃ a s, x = .ok (a, s) ∧ y = some (outcome a, s.run) ∧ R a ∧ s.Explained g input

/-- The same of verdicts at `start`. -/
abbrev Upholds (start : Nat) :=
  Confirms g input Verdict.outcome (Verdict.Sound (T := T) g input start)

variable {g input} {start : Nat} {s : Account N T}

omit [DecidableEq N] in
/-- A match of the tokens that a sound verdict has matched. -/
theorem Verdict.Sound.exists_length {next : Nat} {span : Span} {value : T}
    (h : Verdict.Sound g input start (.matched next span value)) :
    ∃ length, next = start + length ∧ span = ⟨start, length⟩ ∧ start + length ≤ input.size := by
  obtain ⟨hle, hnext, rfl⟩ := h.within
  obtain ⟨length, rfl⟩ := Nat.exists_eq_add_of_le hle
  exact ⟨length, rfl, by rw [Nat.add_sub_cancel_left], hnext⟩

/-- Only the memo table and the reasons are explained. -/
theorem Account.Explained.congr {s' : Account N T} (h : s.Explained g input)
    (hmemo : s'.run.context.memo = s.run.context.memo) (hreasons : s'.reasons = s.reasons) :
    s'.Explained g input where
  within name p mode o hfind := h.within (hmemo ▸ hfind)
  reasons name p mode q hfind := by
    rw [hreasons]
    exact h.reasons (hmemo ▸ hfind)

/-- Writing down a sound verdict with its reason keeps the account explained. -/
theorem Account.Explained.note {context : Context N T} {name : N} {mode : Mode} {v : Verdict T}
    (h : s.Explained g input) (hv : v.Sound g input start)
    (hmemo : context.memo = s.run.context.memo) :
    ((s.withContext (context.record name start mode v.outcome)).note name start mode v).Explained
      g input where
  within name' p mode' o hfind := by
    change ((context.record name start mode v.outcome).memo).find? name' p mode' = some o at hfind
    rw [Context.memo_record, Memo.find?_insert, hmemo] at hfind
    split at hfind
    · next hkey =>
      cases hfind
      obtain ⟨-, rfl, -⟩ := hkey
      exact hv.within
    · exact h.within hfind
  reasons name' p mode' q hfind := by
    change ((context.record name start mode v.outcome).memo).find? name' p mode' = _ at hfind
    rw [Context.memo_record, Memo.find?_insert, hmemo] at hfind
    dsimp only [Account.note]
    split at hfind
    · next hkey =>
      rw [if_pos hkey]
      cases v with
      | matched next span value => cases hfind
      | failed reason =>
        cases hfind
        exact ⟨reason, rfl, rfl, hv.genuine reason rfl⟩
    · next hkey =>
      rw [if_neg hkey]
      exact h.reasons hfind

/-- An outcome from the memo table of an explained account is a sound verdict. -/
theorem Account.Explained.verdict {name : N} {mode : Mode} {hit : Outcome T}
    (h : s.Explained g input) (hfind : s.run.context.memo.find? name start mode = some hit) :
    ∃ v : Verdict T, s.verdict name start mode hit = .ok v ∧ v.outcome = hit ∧
      v.Sound g input start := by
  have hwithin := h.within hfind
  cases hit with
  | matched next span value => exact ⟨.matched next span value, rfl, rfl, hwithin, nofun⟩
  | failed q =>
    obtain ⟨reason, hreason, rfl, hgenuine⟩ := h.reasons hfind
    refine ⟨.failed reason, by rw [Account.verdict, hreason], rfl, hwithin, ?_⟩
    rintro _ ⟨⟩
    exact hgenuine

/-- An operator that does not match by itself. -/
theorem upholds_failed {cause : Cause} {id : NodeId} {operator : Operator K N NodeId}
    (hget : g.arena.get? id = some operator) (hcause : cause.Of input start operator)
    (hstart : start ≤ input.size) (hs : s.Explained g input) :
    Upholds g input start (.ok (.failed ⟨cause, id, start⟩, s)) (some (.failed start, s.run)) := by
  refine .inr ⟨_, s, rfl, rfl, ⟨⟨Nat.le_refl start, hstart⟩, ?_⟩, hs⟩
  rintro _ ⟨⟩
  exact ⟨operator, hget, hcause⟩

/-- A match of no token by a predicate. -/
theorem upholds_nothing [Inhabited T] (hstart : start ≤ input.size) (hs : s.Explained g input) :
    Upholds g input start (.ok (.matched start ⟨start, 0⟩ default, s))
      (some (.matchedAt start 0 default, s.run)) := by
  refine .inr ⟨_, s, rfl, rfl, ⟨⟨Nat.le_refl start, hstart, ?_⟩, nofun⟩, hs⟩
  rw [Nat.sub_self]

namespace Grammar

variable {sev : StrictEvaluator N T} {ev : Evaluator N T} {mode : Mode} {id : NodeId}

/-- The turns of a repetition. -/
theorem strictRepetition_confirms {operand : NodeId}
    (hev : ∀ p, start ≤ p → p ≤ input.size → ∀ ⦃s⦄, s.Explained g input →
      Upholds g input p (sev operand p mode s) (ev operand p mode s.run)) (turns : Nat) :
    ∀ p values ⦃s : Account N T⦄, start ≤ p → p ≤ input.size → s.Explained g input →
      Confirms g input (fun x => x) (fun x : Nat × List T => p ≤ x.1 ∧ x.1 ≤ input.size)
        (strictRepetition input sev operand mode turns p values s)
        (repetition input ev operand mode turns p values s.run) := by
  induction turns with
  | zero => exact fun p values s _ _ _ => .inl rfl
  | succ turns ih =>
    intro p values s hstart hp hs
    rw [strictRepetition, repetition]
    rcases hev p hstart hp hs with hnone | ⟨v, s', hstrict, hsome, hsound, hs'⟩
    · rw [hnone]
      exact .inl rfl
    rw [hstrict, hsome]
    cases v with
    | failed reason => exact .inr ⟨_, s', rfl, rfl, ⟨Nat.le_refl p, hp⟩, hs'⟩
    | matched next span value =>
      obtain ⟨hle, hnext, -⟩ := hsound.within
      dsimp only [Verdict.outcome]
      split
      · rcases ih next (value :: values) (Nat.le_trans hstart hle) hnext hs' with
          hnone | ⟨x, s'', hstrict, hsome, ⟨hlex, hxn⟩, hs''⟩
        · exact .inl hnone
        · exact .inr ⟨x, s'', hstrict, hsome, ⟨Nat.le_trans hle hlex, hxn⟩, hs''⟩
      · exact .inr ⟨_, s', rfl, rfl, ⟨hle, hnext⟩, hs'⟩

variable [ToString K] [ToString N] [Inhabited T]

/-- A match of tokens of the input, by an operator of the arena. -/
theorem strictMatch_upholds {operator : Operator K N NodeId}
    (hget : g.arena.get? id = some operator) {length : Nat} (hstop : start + length ≤ input.size)
    (values : List T) (hs : s.Explained g input) :
    Upholds g input start (g.strictMatch input id (start + length) ⟨start, length⟩ values mode s)
      (some (.matchedAt start length (g.fire input id ⟨start, length⟩ values mode s.run).1,
        (g.fire input id ⟨start, length⟩ values mode s.run).2)) := by
  -- The slots were made when the arena was complete, so every operator has one.
  have hslot : ¬ (!g.hasSlot id) = true := by simp [hasSlot_of_get? hget]
  have hinside : ¬ input.size < Span.stop ⟨start, length⟩ := Nat.not_lt.2 hstop
  rw [strictMatch, if_neg hslot, if_neg hinside]
  refine .inr ⟨_, _, rfl, rfl, ⟨⟨Nat.le_add_right start length, hstop, ?_⟩, ?_⟩, ?_⟩
  · rw [Nat.add_sub_cancel_left]
  · rintro reason ⟨⟩
  · exact hs.congr (congrArg Context.memo fire_context) rfl

/-- The operands of a sequence, one after the other, after those that have begun at `start`. -/
theorem strictSequence_upholds {operands : List NodeId}
    (hget : g.arena.get? id = some (.sequence operands)) {rest : List NodeId}
    (hev : ∀ o ∈ rest, ∀ p, start ≤ p → p ≤ input.size → ∀ ⦃s⦄, s.Explained g input →
      Upholds g input p (sev o p mode s) (ev o p mode s.run)) :
    ∀ p values ⦃s : Account N T⦄, start ≤ p → p ≤ input.size → s.Explained g input →
      Upholds g input start (g.strictSequence input sev id start mode rest p values s)
        (g.sequence input ev id start mode rest p values s.run) := by
  induction rest with
  | nil =>
    intro p values s hstart hp hs
    exact strictMatch_upholds hget (by omega) values.reverse hs
  | cons operand rest ih =>
    intro p values s hstart hp hs
    rw [strictSequence, sequence]
    rcases hev operand List.mem_cons_self p hstart hp hs with
      hnone | ⟨v, s', hstrict, hsome, hsound, hs'⟩
    · rw [hnone]
      exact .inl rfl
    rw [hstrict, hsome]
    cases v with
    | failed reason =>
      refine .inr ⟨_, s', rfl, rfl, ⟨?_, hsound.genuine⟩, hs'⟩
      exact ⟨Nat.le_trans hstart hsound.within.1, hsound.within.2⟩
    | matched next span value =>
      obtain ⟨hle, hnext, -⟩ := hsound.within
      exact ih (fun o ho => hev o (List.mem_cons_of_mem _ ho)) next (value :: values)
        (Nat.le_trans hstart hle) hnext hs'

/-- The operands of a choice, until one matches. -/
theorem strictChoice_upholds {operands : List NodeId}
    (hget : g.arena.get? id = some (.orderedChoice operands)) (hstart : start ≤ input.size)
    {rest : List NodeId}
    (hev : ∀ o ∈ rest, ∀ ⦃s⦄, s.Explained g input →
      Upholds g input start (sev o start mode s) (ev o start mode s.run)) :
    ∀ ⦃s : Account N T⦄, s.Explained g input →
      Upholds g input start (g.strictChoice input sev id start mode rest s)
        (g.choice input ev id start mode rest s.run) := by
  induction rest with
  | nil => exact fun s hs => upholds_failed hget trivial hstart hs
  | cons operand rest ih =>
    intro s hs
    rw [strictChoice, choice]
    rcases hev operand List.mem_cons_self hs with hnone | ⟨v, s', hstrict, hsome, hsound, hs'⟩
    · rw [hnone]
      exact .inl rfl
    rw [hstrict, hsome]
    cases v with
    | failed reason => exact ih (fun o ho => hev o (List.mem_cons_of_mem _ ho)) hs'
    | matched next span value =>
      obtain ⟨length, rfl, rfl, hstop⟩ := hsound.exists_length
      exact strictMatch_upholds hget hstop [value] hs'

/-- A call ends like the body of its rule. -/
theorem strictFinishCall_upholds {name : N} (hget : g.arena.get? id = some (.nonTerminal name))
    {inner : Verdict T} (hinner : inner.Sound g input start) (hs : s.Explained g input) :
    Upholds g input start (g.strictFinishCall input id mode inner s)
      (some (g.finishCall input id mode inner.outcome s.run)) := by
  cases inner with
  | failed reason => exact .inr ⟨_, s, rfl, rfl, hinner, hs⟩
  | matched next span value =>
    unfold strictFinishCall finishCall
    dsimp only [Verdict.outcome]
    split
    · obtain ⟨length, rfl, rfl, hstop⟩ := hinner.exists_length
      exact strictMatch_upholds hget hstop [value] hs
    · exact .inr ⟨_, s, rfl, rfl, hinner, hs⟩

/-- A call: its outcome is known with its reason, it is refused, or the body of its rule is
evaluated. -/
theorem strictCall_upholds {name : N} {body : NodeId}
    (hget : g.arena.get? id = some (.nonTerminal name)) (hbody : g.body? name = some body)
    (hstart : start ≤ input.size)
    (hev : ∀ ⦃s⦄, s.Explained g input →
      Upholds g input start (sev body start mode s) (ev body start mode s.run))
    (hs : s.Explained g input) :
    Upholds g input start (g.strictCall input sev id name start mode s)
      (g.call input ev id name start mode s.run) := by
  unfold strictCall call
  dsimp only
  rw [Context.memo_countCall]
  cases hfind : s.run.context.memo.find? name start mode with
  | some hit =>
    obtain ⟨inner, hverdict, rfl, hinner⟩ := hs.verdict hfind
    dsimp only
    rw [hverdict]
    exact strictFinishCall_upholds hget hinner (hs.congr rfl rfl)
  | none =>
    dsimp only
    split
    · exact upholds_failed hget trivial hstart (hs.congr rfl rfl)
    · rw [hbody]
      dsimp only
      have hentered :
          (s.withContext (s.run.context.countCall.enter id start)).Explained g input :=
        hs.congr rfl rfl
      have hbeneath := hev hentered
      change Upholds g input start _ (ev body start mode
        { s.run with context := s.run.context.countCall.enter id start }) at hbeneath
      rcases hbeneath with hnone | ⟨inner, mid, hstrict, hsome, hinner, hmid⟩
      · rw [hnone]
        exact .inl rfl
      · rw [hstrict, hsome]
        exact strictFinishCall_upholds hget hinner (hmid.note hinner rfl)

/-- **Strict evaluation confirms an operator if it confirms its operands and the rule that it
calls.** -/
theorem strictStep_upholds
    {strictCallRule : NodeId → N → Nat → Mode → Account N T →
      Except (Lapse N) (Verdict T × Account N T)} {callRule : CallRule N T}
    {operator : Operator K N NodeId} (hget : g.arena.get? id = some operator)
    (hstart : start ≤ input.size)
    (hev : ∀ o ∈ operator.operands, ∀ mode p, p ≤ input.size → ∀ ⦃s⦄, s.Explained g input →
      Upholds g input p (sev o p mode s) (ev o p mode s.run))
    (hcall : ∀ name, operator = .nonTerminal name →
      Upholds g input start (strictCallRule id name start mode s)
        (callRule id name start mode s.run))
    (hs : s.Explained g input) :
    Upholds g input start (g.strictStep input strictCallRule sev id start mode s)
      (g.step input callRule ev id start mode s.run) := by
  unfold strictStep step
  rw [hget]
  cases operator with
  | terminal tag =>
    dsimp only
    split
    · next htag =>
      obtain ⟨token, htoken, -⟩ := (Option.any_eq_true _ _).1 htag
      exact strictMatch_upholds hget (Array.getElem?_eq_some_iff.1 htoken).1 [] hs
    · next htag => exact upholds_failed hget htag hstart hs
  | nonTerminal name => exact hcall name rfl
  | emptyString =>
    dsimp only
    rw [if_pos hstart, if_pos hstart]
    exact strictMatch_upholds hget hstart [] hs
  | sequence operands =>
    exact strictSequence_upholds hget (fun o ho p _ hp => hev o ho mode p hp) start []
      (Nat.le_refl start) hstart hs
  | orderedChoice operands =>
    exact strictChoice_upholds hget hstart (fun o ho => hev o ho mode start hstart) hs
  | optional operand =>
    dsimp only
    rcases hev operand (.head _) mode start hstart hs with
      hnone | ⟨v, s', hstrict, hsome, hsound, hs'⟩
    · rw [hnone]
      exact .inl rfl
    rw [hstrict, hsome]
    cases v with
    | matched next span value =>
      obtain ⟨length, rfl, rfl, hstop⟩ := hsound.exists_length
      exact strictMatch_upholds hget hstop [value] hs'
    | failed reason =>
      dsimp only [Verdict.outcome]
      rw [if_pos hstart, if_pos hstart]
      exact strictMatch_upholds hget hstart [] hs'
  | zeroOrMore operand =>
    dsimp only
    rcases strictRepetition_confirms (fun p _ hp => hev operand (.head _) mode p hp)
        (input.size + 1) start [] (Nat.le_refl start) hstart hs with
      hnone | ⟨⟨stop, values⟩, s', hstrict, hsome, ⟨hle, hstop⟩, hs'⟩
    · rw [hnone]
      exact .inl rfl
    · rw [hstrict, hsome]
      exact strictMatch_upholds hget (by omega) values.reverse hs'
  | oneOrMore operand =>
    dsimp only
    rcases strictRepetition_confirms (fun p _ hp => hev operand (.head _) mode p hp)
        (input.size + 1) start [] (Nat.le_refl start) hstart hs with
      hnone | ⟨⟨stop, values⟩, s', hstrict, hsome, ⟨hle, hstop⟩, hs'⟩
    · rw [hnone]
      exact .inl rfl
    rw [hstrict, hsome]
    cases values with
    | nil => exact upholds_failed hget trivial hstart hs'
    | cons value values => exact strictMatch_upholds hget (by omega) _ hs'
  | andPredicate operand =>
    dsimp only
    rcases hev operand (.head _) .probing start hstart hs with
      hnone | ⟨v, s', hstrict, hsome, -, hs'⟩
    · rw [hnone]
      exact .inl rfl
    rw [hstrict, hsome]
    cases v with
    | matched next span value => exact upholds_nothing hstart hs'
    | failed reason => exact upholds_failed hget rfl hstart hs'
  | notPredicate operand =>
    dsimp only
    rcases hev operand (.head _) .probing start hstart hs with
      hnone | ⟨v, s', hstrict, hsome, -, hs'⟩
    · rw [hnone]
      exact .inl rfl
    rw [hstrict, hsome]
    cases v with
    | matched next span value => exact upholds_failed hget rfl hstart hs'
    | failed reason => exact upholds_nothing hstart hs'

/-- **Strict evaluation confirms evaluation** of what takes part in parses, at positions of the
input. -/
theorem strictEval_upholds {b : Builder K N T} {first : N} {rules : List (Rule N)}
    (hg : b.build first rules = .ok g) (depth : Nat) :
    ∀ ⦃id⦄, g.Live id → ∀ mode p, p ≤ input.size → ∀ ⦃s : Account N T⦄, s.Explained g input →
      Upholds g input p (g.strictEval input depth id p mode s)
        (g.eval input depth id p mode s.run) := by
  induction depth with
  | zero => exact fun id _ mode p _ s _ => .inl rfl
  | succ depth ih =>
    intro id hid mode p hp s hs
    obtain ⟨operator, hget, hops, hcallee⟩ := hid.closed hg
    refine strictStep_upholds hget hp (fun o ho => ih (hops o ho)) ?_ hs
    rintro name rfl
    obtain ⟨body, hbody, hlive⟩ := hcallee name rfl
    exact strictCall_upholds hget hbody hp (ih hlive mode p hp) hs

/-- **A parse reaches no fallback.** Strict evaluation of the start symbol does not stop: it has the
outcome and the run of the parse. If that is a failure, it has a genuine reason, and so have all the
failures in the memo table. -/
theorem parseWith_strict {b : Builder K N T} {first : N} {rules : List (Rule N)} (hb : b.Made)
    (hg : b.build first rules = .ok g) (input : Array (Token K)) (context : Context N T)
    (labels : Labels) :
    ∃ v s, g.strictEval input (g.depthBound input.size) g.startNode 0 .consuming
        { run := { context := context.reset, labels } } = .ok (v, s) ∧
      g.evalStart input { context := context.reset, labels } = some (v.outcome, s.run) ∧
      g.parseWith input context labels = (v.outcome.complete input.size, s.run) ∧
      v.Sound g input 0 ∧ s.Explained g input := by
  obtain ⟨o, run, ho⟩ := evalKeeping_start_isSome hb hg input (fun _ _ => true) context labels
  rw [← eval_eq] at ho
  have hs : Account.Explained g input
      ({ run := { context := context.reset, labels } } : Account N T) :=
    ⟨fun name p mode o h => by simp at h, fun name p mode q h => by simp at h⟩
  have hupholds := strictEval_upholds hg (g.depthBound input.size) (.inl rfl) .consuming 0
    (Nat.zero_le input.size) hs
  rcases hupholds with hnone | ⟨v, s, hstrict, hsome, hsound, hs'⟩
  · rw [ho] at hnone
    cases hnone
  · have hstart : g.evalStart input { context := context.reset, labels } =
        some (v.outcome, s.run) := hsome
    exact ⟨v, s, hstrict, hstart, by simp only [parseWith, hstart], hsound, hs'⟩

/-- The rules make a grammar, so no parse with it reaches a fallback, though calls are refused. -/
theorem parseWith_strict_leftRecursive :
    ∃ g : Grammar Char Char Unit, ofExprs {} 'S' leftRecursive = .ok g ∧
      ∀ input : Array (Token Char), ∃ v s,
        g.strictEval input (g.depthBound input.size) g.startNode 0 .consuming {} = .ok (v, s) ∧
          g.parseWith input {} ∅ = (v.outcome.complete input.size, s.run) := by
  have hg := eq_ok_of_isSome_toOption isSome_leftRecursive
  obtain ⟨b, rules, hb, hbuild, -⟩ := ofExprs_made hg
  refine ⟨_, hg, fun input => ?_⟩
  obtain ⟨v, s, hstrict, -, hparse, -⟩ := parseWith_strict hb hbuild input {} ∅
  exact ⟨v, s, hstrict, hparse⟩

/-- Rules that `build` refuses do reach a fallback: here the start symbol has none. -/
example : (Grammar.mk ⟨0, #[.nonTerminal 'S'], #[none], rfl⟩ [] 'S' ⟨0, 0⟩ 1 rfl :
    Grammar Char Char Unit).strictEval #[] 1 ⟨0, 0⟩ 0 .consuming {} = .error (.undefined 'S') :=
  rfl

end Grammar

end Explained

end Packrat
