import Packrat.Proofs.Evaluation.Trials

/-!
# Lookahead is silent

Beneath a predicate the mode is probing. A probe fires no action, so the log of firings and the
labels stay as they are, and the value of a match is the default one. A probe finds outcomes of
earlier probes in the memo table, and values of actions stand there under keys that differ in the
mode only. Runs are quiet if every match that a probe has written down has the default value
(`Run.Quiet`).

`Grammar.evalKeeping_hushed` says for both modes at once what evaluation makes of a quiet run: it is
quiet afterwards, and unfired if the mode is probing. It compares two grammars whose actions differ:
a probe cannot tell them apart (`Grammar.Indistinct`), which says more than that nothing is logged.
The same comparison, of an operator that is evaluated with two evaluators, says what takes part in a
trial (`Grammar.TakesPart.hushed`). So both hold of every trial of a parse and of all that is tried
beneath one that looks ahead (`Grammar.lookahead_silent`).
-/

namespace Packrat

variable {K N T : Type}

/-! ## Outcomes without a value of an action -/

/-- A match, if it is one, has the default value. -/
def Outcome.Blank [Inhabited T] : Outcome T → Prop
  | .matched _ _ value => value = default
  | .failed _ => True

/-- Values that are equal, and default ones while probing. -/
def BlankWhileProbing [Inhabited T] (mode : Mode) (v₁ v₂ : T) : Prop :=
  v₁ = v₂ ∧ (mode = .probing → v₁ = default)

/-- Outcomes with related values are equal. -/
theorem Outcome.Rel.eq_of_blankWhileProbing [Inhabited T] {mode : Mode} {o₁ o₂ : Outcome T}
    (h : Outcome.Rel (BlankWhileProbing mode) o₁ o₂) : o₁ = o₂ := by
  cases h with
  | failed p => rfl
  | matched next span hv => rw [hv.1]

/-- Outcomes with related values are blank while probing. -/
theorem Outcome.Rel.blank [Inhabited T] {mode : Mode} {o₁ o₂ : Outcome T}
    (h : Outcome.Rel (BlankWhileProbing mode) o₁ o₂) (hmode : mode = .probing) : o₁.Blank := by
  cases h with
  | failed p => trivial
  | matched next span hv => exact hv.2 hmode

/-- An outcome that is blank while probing is related to itself. -/
theorem Outcome.rel_of_blank [Inhabited T] {mode : Mode} {o : Outcome T}
    (h : mode = .probing → o.Blank) : Outcome.Rel (BlankWhileProbing mode) o o := by
  cases o with
  | failed p => exact .failed p
  | matched next span value => exact .matched next span ⟨rfl, h⟩

/-! ## Quiet runs -/

/-- An entry of a column after a writing is the one written down or was there before. -/
theorem Memo.mem_column_insert [DecidableEq N] {memo : Memo N T} {name : N} {p q : Nat}
    {mode : Mode} {o : Outcome T} {e : MemoEntry N T}
    (h : e ∈ (memo.insert name p mode o).column q) :
    e = ⟨name, mode, o⟩ ∨ e ∈ memo.column q := by
  simp only [insert, column, Std.TreeMap.getD_insert] at h
  split at h
  · next hq =>
    have hq' : p = q := by simpa using hq
    subst hq'
    rcases List.mem_cons.1 h with hnew | hold
    · exact .inl hnew
    · exact .inr (List.mem_filter.1 hold).1
  · exact .inr h

/-- What is found stands in the column of its position, under its mode. -/
theorem Memo.exists_mem_column [DecidableEq N] {memo : Memo N T} {name : N} {p : Nat} {mode : Mode}
    {o : Outcome T} (h : memo.find? name p mode = some o) :
    ∃ e ∈ memo.column p, e.mode = mode ∧ e.outcome = o := by
  obtain ⟨e, he, rfl⟩ := Option.map_eq_some_iff.1 h
  have hkey := List.find?_some he
  exact ⟨e, List.mem_of_find?_eq_some he, (of_decide_eq_true hkey).1, rfl⟩

namespace Run

/-- Every match that a probe has written down has the default value. -/
def Quiet [Inhabited T] (run : Run N T) : Prop :=
  ∀ p, ∀ e ∈ run.context.memo.column p, e.mode = .probing → e.outcome.Blank

/-- No action has fired between two runs, and none has asked for a label. -/
structure Unfired (before after : Run N T) : Prop where
  log : after.log = before.log
  labels : after.labels = before.labels

theorem Unfired.refl (run : Run N T) : run.Unfired run := ⟨rfl, rfl⟩

theorem Unfired.trans {r₁ r₂ r₃ : Run N T} (h : r₁.Unfired r₂) (h' : r₂.Unfired r₃) :
    r₁.Unfired r₃ := ⟨h'.log.trans h.log, h'.labels.trans h.labels⟩

/-- One and the same quiet run, in which no action has fired since `before` if the mode is
probing. -/
structure Hushed [Inhabited T] (mode : Mode) (before r₁ r₂ : Run N T) : Prop where
  eq : r₁ = r₂
  quiet : r₁.Quiet
  unfired : mode = .probing → before.Unfired r₁

section Quiet

variable [Inhabited T] {mode : Mode} {before run : Run N T}

/-- A quiet run is hushed from itself on. -/
theorem Quiet.hushed (h : run.Quiet) (mode : Mode) : Hushed mode run run run :=
  ⟨rfl, h, fun _ => .refl run⟩

/-- The memo table is empty at first. -/
theorem quiet_reset (context : Context N T) (labels : Labels) :
    ({ context := context.reset, labels } : Run N T).Quiet := by
  intro p e he
  simp [Context.reset, Memo.column] at he

/-- A probe within a hushed run. -/
theorem Hushed.of_probing {r r₁ r₂ : Run N T} (h : Hushed mode before r r)
    (hprobe : Hushed .probing r r₁ r₂) : Hushed mode before r₁ r₂ :=
  ⟨hprobe.eq, hprobe.quiet, fun hmode => (h.unfired hmode).trans (hprobe.unfired rfl)⟩

/-- Books with the same memo table leave a run hushed. -/
theorem Hushed.withContext (h : Hushed mode before run run) {context : Context N T}
    (hmemo : context.memo = run.context.memo) :
    Hushed mode before { run with context } { run with context } where
  eq := rfl
  quiet p e he := h.quiet p e (by rwa [← hmemo])
  unfired hmode := ⟨(h.unfired hmode).log, (h.unfired hmode).labels⟩

variable [DecidableEq N] {keep : Keep N T}

/-- Writing down an outcome that is blank while probing leaves a run hushed. -/
theorem Hushed.close (h : Hushed mode before run run) (opened : Context N T) (id : NodeId)
    (name : N) (p : Nat) {o : Outcome T} (ho : mode = .probing → o.Blank) :
    Hushed mode before
      { run with context := .close keep opened run.context id name p mode o }
      { run with context := .close keep opened run.context id name p mode o } where
  eq := rfl
  quiet q e he hprobing := by
    dsimp only at he
    rw [Context.memo_close] at he
    split at he
    · rcases Memo.mem_column_insert he with rfl | hold
      · exact ho hprobing
      · exact h.quiet q e hold hprobing
    · exact h.quiet q e he hprobing
  unfired hmode := ⟨(h.unfired hmode).log, (h.unfired hmode).labels⟩

end Quiet

end Run

/-! ## Evaluation of quiet runs -/

namespace Grammar

/-- Two grammars that cannot be told apart in a mode: their operators and rules are the same, and
so are their actions if the mode is consuming. -/
structure Indistinct (mode : Mode) (g₁ g₂ : Grammar K N T) : Prop where
  operators : ∀ id, g₁.arena.get? id = g₂.arena.get? id
  rules : g₁.rules = g₂.rules
  same : mode = .consuming → g₁ = g₂

theorem Indistinct.refl (mode : Mode) (g : Grammar K N T) : Indistinct mode g g :=
  ⟨fun _ => rfl, rfl, fun _ => rfl⟩

/-- Probing tells the fewest grammars apart. -/
theorem Indistinct.probing {mode : Mode} {g₁ g₂ : Grammar K N T} (h : Indistinct mode g₁ g₂) :
    Indistinct .probing g₁ g₂ :=
  ⟨h.operators, h.rules, nofun⟩

section Evaluation

variable [ToString K] [ToString N] [Inhabited T] {g g₁ g₂ : Grammar K N T}
  {input : Array (Token K)} {mode : Mode} {before : Run N T} {ev ev₁ ev₂ : Evaluator N T}

/-- Firing keeps hushed runs, and makes blank values while probing. -/
theorem Indistinct.alike (h : Indistinct mode g₁ g₂) (before : Run N T) :
    Alike g₁ g₂ input (BlankWhileProbing mode) (Run.Hushed mode before) mode mode where
  operators := h.operators
  default := ⟨rfl, fun _ => rfl⟩
  fire id span vs₁ vs₂ r₁ r₂ hv hS := by
    cases mode with
    | probing => exact ⟨⟨rfl, fun _ => rfl⟩, hS⟩
    | consuming =>
      obtain rfl := h.same rfl
      obtain ⟨rfl, hquiet, -⟩ := hS
      have hvs : vs₁ = vs₂ := by
        rw [← List.forall₂_eq_eq_eq]
        exact hv.imp fun _ _ hvalue => hvalue.1
      subst hvs
      refine ⟨⟨rfl, nofun⟩, rfl, fun p e he => hquiet p e ?_, nofun⟩
      rwa [fire_context] at he

/-- A probe leaves the outcome of a body as it is. -/
@[simp] theorem finishCall_probing (id : NodeId) (inner : Outcome T) (run : Run N T) :
    g.finishCall input id .probing inner run = (inner, run) := by
  cases inner with
  | failed p => rfl
  | matched next span value => simp [finishCall]

/-- A call finishes alike. -/
theorem Indistinct.finishCall (h : Indistinct mode g₁ g₂) (id : NodeId) {o : Outcome T}
    {run : Run N T} (ho : mode = .probing → o.Blank) (hrun : Run.Hushed mode before run run) :
    Follows False (Outcome.Rel (BlankWhileProbing mode)) (Run.Hushed mode before)
      (some (g₁.finishCall input id mode o run)) (some (g₂.finishCall input id mode o run)) := by
  cases hmode : mode with
  | probing =>
    subst hmode
    rw [finishCall_probing, finishCall_probing]
    exact .some (Outcome.rel_of_blank ho) hrun
  | consuming =>
    subst hmode
    obtain rfl := h.same rfl
    exact (h.alike before).finishCall (fun _ => rfl) id (Outcome.rel_of_blank ho) hrun

variable [DecidableEq N] {keep : Keep N T}

/-- Rules are called alike from a hushed run, if the bodies of rules are evaluated alike. -/
theorem Indistinct.callKeeping (h : Indistinct mode g₁ g₂) {id : NodeId} {name : N} {p : Nat}
    {r₁ r₂ : Run N T}
    (hev : ∀ body ⦃r₁ r₂⦄, Run.Hushed mode before r₁ r₂ →
      Follows False (Outcome.Rel (BlankWhileProbing mode)) (Run.Hushed mode before)
        (ev₁ body p mode r₁) (ev₂ body p mode r₂))
    (hS : Run.Hushed mode before r₁ r₂) :
    Follows False (Outcome.Rel (BlankWhileProbing mode)) (Run.Hushed mode before)
      (g₁.callKeeping input keep ev₁ id name p mode r₁)
      (g₂.callKeeping input keep ev₂ id name p mode r₂) := by
  obtain rfl := hS.eq
  have hbody : g₁.body? name = g₂.body? name := by rw [body?, body?, h.rules]
  have hknown : ∀ o, r₁.context.memo.find? name p mode = some o → mode = .probing → o.Blank := by
    intro o hfind hprobing
    obtain ⟨e, he, hmode, rfl⟩ := Memo.exists_mem_column hfind
    exact hS.quiet p e he (hmode.trans hprobing)
  have hfind : Option.Rel (Outcome.Rel (BlankWhileProbing mode))
      (r₁.context.memo.find? name p mode) (r₁.context.memo.find? name p mode) := by
    cases hfind : r₁.context.memo.find? name p mode with
    | none => exact .none
    | some o => exact .some (Outcome.rel_of_blank (hknown o hfind))
  have hentered : Run.Hushed mode before
      { r₁ with context := r₁.context.countCall.enter id p }
      { r₁ with context := r₁.context.countCall.enter id p } := hS.withContext rfl
  refine callKeeping_sideBySide hbody rfl hfind (fun o₁ o₂ ho hrel => ?_) (hS.withContext rfl)
    hentered (fun body _ => hev body hentered) fun o₁ o₂ m₁ m₂ hrel hm => ?_
  · obtain rfl := hrel.eq_of_blankWhileProbing
    exact h.finishCall id hrel.blank (hS.withContext rfl)
  · obtain rfl := hrel.eq_of_blankWhileProbing
    obtain rfl := hm.eq
    exact h.finishCall id hrel.blank (hm.close _ id name p hrel.blank)

omit [ToString K] [ToString N] [DecidableEq N] in
/-- What follows a probe follows it within a hushed run. -/
theorem follows_of_probing {o₁ o₂ : Option (Outcome T × Run N T)} {run : Run N T}
    (hS : Run.Hushed mode before run run)
    (h : Follows False (Outcome.Rel (BlankWhileProbing .probing)) (Run.Hushed .probing run) o₁ o₂) :
    Follows False (Outcome.Rel (BlankWhileProbing .probing)) (Run.Hushed mode before) o₁ o₂ := by
  intro o r hr
  obtain ⟨o', r', hr', hrel, hprobe⟩ := h.exists hr
  exact .inr ⟨o', r', hr', hrel, hS.of_probing hprobe⟩

variable [DecidableEq K]

/-- An operator is evaluated alike from a hushed run, if operands and the bodies of rules are, in
its mode and while probing. -/
theorem Indistinct.step (h : Indistinct mode g₁ g₂)
    (hev : ∀ m, m = mode ∨ m = .probing → ∀ id p ⦃r₁ r₂⦄, Run.Hushed mode before r₁ r₂ →
      Follows False (Outcome.Rel (BlankWhileProbing m)) (Run.Hushed mode before)
        (ev₁ id p m r₁) (ev₂ id p m r₂))
    (id : NodeId) (p : Nat) {r₁ r₂ : Run N T} (hS : Run.Hushed mode before r₁ r₂) :
    Follows False (Outcome.Rel (BlankWhileProbing mode)) (Run.Hushed mode before)
      (g₁.step input (g₁.callKeeping input keep ev₁) ev₁ id p mode r₁)
      (g₂.step input (g₂.callKeeping input keep ev₂) ev₂ id p mode r₂) := by
  refine (h.alike before).step (fun _ _ o _ q => hev mode (.inl rfl) o q)
    (fun _ _ operand _ q r₁ r₂ hS => ?_)
    (fun name _ => h.callKeeping (fun body => hev mode (.inl rfl) body p) hS) hS
  -- A value that is the default one is blank in every mode.
  intro o r hr
  obtain ⟨o₂, r', hr', hrel, hS'⟩ := (hev .probing (.inr rfl) operand q hS).exists hr
  obtain rfl := hrel.eq_of_blankWhileProbing
  exact .inr ⟨_, r', hr', Outcome.rel_of_blank fun _ => hrel.blank rfl, hS'⟩

/-- **From a quiet run on, evaluation keeps the run quiet**, in whatever mode, and while probing no
action fires, every match has the default value, and the result does not depend on the actions. -/
theorem evalKeeping_hushed (depth : Nat) : ∀ {mode : Mode} {before : Run N T},
    Indistinct mode g₁ g₂ → ∀ id p ⦃r₁ r₂⦄, Run.Hushed mode before r₁ r₂ →
      Follows False (Outcome.Rel (BlankWhileProbing mode)) (Run.Hushed mode before)
        (g₁.evalKeeping input keep depth id p mode r₁)
        (g₂.evalKeeping input keep depth id p mode r₂) := by
  induction depth with
  | zero => exact fun _ id p r₁ r₂ hS => nofun
  | succ depth ih =>
    intro mode before h id p r₁ r₂ hS
    refine h.step (fun m hm id p r₁ r₂ hS => ?_) id p hS
    rcases hm with rfl | rfl
    · exact ih h id p hS
    · obtain rfl := hS.eq
      exact follows_of_probing hS (ih h.probing id p (hS.quiet.hushed .probing))

end Evaluation

/-! ## Trials that look ahead -/

end Grammar

/-- The trial, in the probing mode. -/
def Trial.probe (x : Trial N T) : Trial N T := { x with mode := .probing }

namespace Grammar

/-- A probe is tried, or a predicate. -/
def LooksAhead (g : Grammar K N T) (x : Trial N T) : Prop :=
  x.mode = .probing ∨
    ∃ operator, g.arena.get? x.node = some operator ∧ operator.kind.isPredicate

variable [DecidableEq K] [DecidableEq N] [ToString K] [ToString N] [Inhabited T]
  {g g' : Grammar K N T} {input : Array (Token K)} {ev : Evaluator N T} {x y z : Trial N T}
  {depth depth' : Nat}

/-- A result of a trial in which no action takes part: none fires, a match has the default value,
and the result is the same with any other actions. -/
structure Mute (g : Grammar K N T) (input : Array (Token K)) (depth : Nat) (x : Trial N T)
    (o : Outcome T) (run : Run N T) : Prop where
  unfired : x.run.Unfired run
  blank : o.Blank
  actions : ∀ g', Indistinct .probing g g' → x.result (g'.eval input depth) = some (o, run)

omit [DecidableEq N] in
/-- A trial that looks ahead is the same in the probing mode. -/
theorem LooksAhead.result_probe (h : g.LooksAhead x) (callRule : CallRule N T)
    (ev : Evaluator N T) :
    x.probe.result (g.step input callRule ev) = x.result (g.step input callRule ev) := by
  obtain ⟨id, p, mode, run⟩ := x
  rcases h with hmode | ⟨operator, hget, hpredicate⟩
  · subst hmode
    rfl
  · simp only [Trial.probe, Trial.result, step, hget]
    cases operator with
    | andPredicate operand => rfl
    | notPredicate operand => rfl
    | _ => cases hpredicate

omit [DecidableEq N] in
/-- A predicate matches nothing where it is tried, or fails there. -/
theorem predicate_outcome {operator : Operator K N NodeId} {callRule : CallRule N T}
    {o : Outcome T} {run : Run N T} (hget : g.arena.get? x.node = some operator)
    (hpredicate : operator.kind.isPredicate)
    (h : x.result (g.step input callRule ev) = some (o, run)) :
    o = .matchedAt x.position 0 default ∨ o = .failed x.position := by
  rw [Trial.result, step, hget] at h
  cases operator with
  | andPredicate operand =>
    dsimp only at h
    split at h
    · cases h
    · cases h
      exact .inl rfl
    · cases h
      exact .inr rfl
  | notPredicate operand =>
    dsimp only at h
    split at h
    · cases h
    · cases h
      exact .inr rfl
    · cases h
      exact .inl rfl
  | _ => cases hpredicate

/-- A trial that looks ahead evaluates as the probe does. -/
theorem LooksAhead.eval_probe (h : g.LooksAhead x) (input : Array (Token K)) (depth : Nat) :
    x.probe.result (g.eval input depth) = x.result (g.eval input depth) := by
  cases depth with
  | zero => rfl
  | succ depth => exact h.result_probe _ _

/-- No action takes part in a trial that looks ahead from a quiet run on. -/
theorem LooksAhead.silent (h : g.LooksAhead x) (hquiet : x.run.Quiet) {o : Outcome T}
    {run : Run N T} (hresult : x.result (g.eval input depth) = some (o, run)) :
    g.Mute input depth x o run := by
  have hsame : ∀ g', Indistinct .probing g g' →
      x.result (g'.eval input depth) = some (o, run) ∧ o.Blank ∧ x.run.Unfired run := by
    intro g' hg'
    have hlooks : g'.LooksAhead x := h.imp_right fun ⟨operator, hget, hpredicate⟩ =>
      ⟨operator, (hg'.operators x.node).symm.trans hget, hpredicate⟩
    rw [← h.eval_probe, eval_eq] at hresult
    rw [← hlooks.eval_probe, eval_eq]
    obtain ⟨o', run', hresult', hrel, hrun⟩ :=
      (evalKeeping_hushed depth hg' x.node x.position (hquiet.hushed .probing)).exists hresult
    obtain rfl := hrel.eq_of_blankWhileProbing
    obtain rfl := hrun.eq
    exact ⟨hresult', hrel.blank rfl, hrun.unfired rfl⟩
  obtain ⟨-, hblank, hunfired⟩ := hsame g (.refl _ g)
  exact ⟨hunfired, hblank, fun g' hg' => (hsame g' hg').1⟩

/-- Evaluation of a trial leaves a quiet run quiet. -/
theorem quiet_of_result (hquiet : x.run.Quiet) {o : Outcome T} {run : Run N T}
    (hresult : x.result (g.eval input depth) = some (o, run)) : run.Quiet := by
  rw [eval_eq] at hresult
  obtain ⟨_, _, -, -, hrun⟩ := (evalKeeping_hushed depth (.refl x.mode g) x.node x.position
    (hquiet.hushed x.mode)).exists hresult
  exact hrun.quiet

/-- What takes part in a trial that looks ahead takes part in the probe. -/
theorem TakesPart.probe (h : g.TakesPart input ev x y) (hx : g.LooksAhead x) :
    g.TakesPart input ev x.probe y := fun ev' hother hnone => by
  rw [hx.result_probe]
  exact h ev' hother hnone

/-- What takes part in a trial from a quiet run begins with a quiet run; if a probe is tried, it is
a probe, and no action has fired until then. -/
theorem TakesPart.hushed (h : g.TakesPart input (g.eval input depth) x y) (hquiet : x.run.Quiet)
    (hsome : x.result (g.eval input (depth + 1)) ≠ none) :
    y.run.Quiet ∧ (x.mode = .probing → y.mode = .probing ∧ x.run.Unfired y.run) := by
  refine h.of_forall (fun z => z.run.Quiet ∧
    (x.mode = .probing → z.mode = .probing ∧ x.run.Unfired z.run)) fun ev' hev' hnone => ?_
  have hev : ∀ m, m = x.mode ∨ m = .probing → ∀ id p ⦃r₁ r₂⦄, Run.Hushed x.mode x.run r₁ r₂ →
      Follows False (Outcome.Rel (BlankWhileProbing m)) (Run.Hushed x.mode x.run)
        (g.eval input depth id p m r₁) (ev' id p m r₂) := by
    intro m hm id p r₁ r₂ hS
    obtain rfl := hS.eq
    have hprobing : x.mode = .probing → m = .probing := fun hx => by
      rcases hm with rfl | rfl
      exacts [hx, rfl]
    have hsame : ev' id p m r₁ = g.eval input depth id p m r₁ :=
      hev' ⟨id, p, m, r₁⟩ ⟨hS.quiet, fun hx => ⟨hprobing hx, hS.unfired hx⟩⟩
    rw [hsame, eval_eq]
    rcases hm with rfl | rfl
    · exact evalKeeping_hushed depth (.refl _ g) id p hS
    · exact follows_of_probing hS
        (evalKeeping_hushed depth (.refl _ g) id p (hS.quiet.hushed .probing))
  -- The trial has its result with the other evaluator too, which would have to give none.
  have hstep : Follows False (Outcome.Rel (BlankWhileProbing x.mode)) (Run.Hushed x.mode x.run)
      (x.result (g.step input (g.callKeeping input (fun _ _ => true) (g.eval input depth))
        (g.eval input depth)))
      (x.result (g.step input (g.callKeeping input (fun _ _ => true) ev') ev')) :=
    (Indistinct.refl x.mode g).step hev x.node x.position (hquiet.hushed x.mode)
  obtain ⟨⟨o, run⟩, hresult⟩ := Option.ne_none_iff_exists'.1 hsome
  obtain ⟨o', run', hresult', -⟩ := hstep.exists hresult
  cases hresult'.symm.trans hnone

/-- What is tried beneath a trial, at any depth. -/
inductive TriedBeneath (g : Grammar K N T) (input : Array (Token K)) :
    Nat → Trial N T → Nat → Trial N T → Prop
  | takesPart {depth : Nat} {x y : Trial N T} : g.TakesPart input (g.eval input depth) x y →
      TriedBeneath g input (depth + 1) x depth y
  | deeper {depth depth' : Nat} {x y z : Trial N T} : TriedBeneath g input depth x (depth' + 1) y →
      g.TakesPart input (g.eval input depth') y z → TriedBeneath g input depth x depth' z

section Built

variable {b : Builder K N T} {start : N} {rules : List (Rule N)} {context : Context N T}
  {labels : Labels} {active : Nat → List NodeId}

/-- What is tried beneath a trial of a parse is a trial of the parse. -/
theorem TriedBeneath.tried (h : g.TriedBeneath input depth x depth' y)
    (hx : g.Tried input context labels depth active x) :
    ∃ active, g.Tried input context labels depth' active y := by
  induction h with
  | takesPart hpart => exact ⟨_, hx.beneath hpart⟩
  | deeper _ hpart ih =>
    obtain ⟨active', hy⟩ := ih hx
    exact ⟨_, hy.beneath hpart⟩

/-- A trial of a parse has a result. -/
theorem Tried.exists_result (hb : b.Made) (hg : b.build start rules = .ok g)
    (hx : g.Tried input context labels depth active x) :
    ∃ o run, x.result (g.eval input depth) = some (o, run) := by
  obtain ⟨o, run, hresult, -⟩ := hx.endsWell hb hg (Extent.closed_all g input)
    (g.invariant_true input fun _ _ => true) trivial
  exact ⟨o, run, hresult⟩

/-- Every trial of a parse begins with a quiet run. -/
theorem Tried.quiet (hb : b.Made) (hg : b.build start rules = .ok g)
    (hx : g.Tried input context labels depth active x) : x.run.Quiet := by
  induction hx with
  | start => exact Run.quiet_reset context labels
  | beneath hx hpart ih =>
    obtain ⟨o, run, hresult⟩ := hx.exists_result hb hg
    exact (hpart.hushed ih (hresult ▸ Option.some_ne_none _)).1

/-- What takes part in a trial of a parse that looks ahead is a probe, and no action has fired until
then. -/
theorem Tried.unfired_of_takesPart (hb : b.Made) (hg : b.build start rules = .ok g)
    (hx : g.Tried input context labels (depth + 1) active x) (hlooks : g.LooksAhead x)
    (hpart : g.TakesPart input (g.eval input depth) x y) :
    y.mode = .probing ∧ x.run.Unfired y.run := by
  have hquiet : x.run.Quiet := hx.quiet hb hg
  obtain ⟨o, run, hresult⟩ := hx.exists_result hb hg
  have hprobe : x.probe.result (g.eval input (depth + 1)) ≠ none := by
    rw [hlooks.eval_probe, hresult]
    exact Option.some_ne_none _
  exact ((hpart.probe hlooks).hushed hquiet hprobe).2 rfl

/-- So is everything that is tried beneath it. -/
theorem TriedBeneath.unfired (hb : b.Made) (hg : b.build start rules = .ok g)
    (h : g.TriedBeneath input depth x depth' y)
    (hx : g.Tried input context labels depth active x) (hlooks : g.LooksAhead x) :
    y.mode = .probing ∧ x.run.Unfired y.run := by
  induction h with
  | takesPart hpart => exact hx.unfired_of_takesPart hb hg hlooks hpart
  | deeper hbeneath hpart ih =>
    obtain ⟨hmode, hunfired⟩ := ih hx hlooks
    obtain ⟨active', hy⟩ := hbeneath.tried hx
    obtain ⟨hmode', hunfired'⟩ := hy.unfired_of_takesPart hb hg (.inl hmode) hpart
    exact ⟨hmode', hunfired.trans hunfired'⟩

/-- **Lookahead is silent.** Whatever a parse tries begins and ends with a quiet run: a match that
was written down while probing has the default value. If the trial looks ahead, no action takes part
in its result, and none has fired before anything that is tried beneath it, which is a probe. A
predicate matches nothing where it is tried, or fails there. Whatever else is probed from a quiet
run, no action takes part in its result either. -/
theorem lookahead_silent (hb : b.Made) (hg : b.build start rules = .ok g)
    (input : Array (Token K)) (context : Context N T) (labels : Labels) :
    (∀ ⦃depth active x⦄, g.Tried input context labels depth active x →
      x.run.Quiet ∧ ∃ o run, x.result (g.eval input depth) = some (o, run) ∧ run.Quiet ∧
        (g.LooksAhead x → g.Mute input depth x o run ∧
          ∀ ⦃depth' y⦄, g.TriedBeneath input depth x depth' y →
            y.mode = .probing ∧ x.run.Unfired y.run) ∧
        ∀ operator, g.arena.get? x.node = some operator → operator.kind.isPredicate →
          o = .matchedAt x.position 0 default ∨ o = .failed x.position) ∧
    (∀ ⦃depth x o run⦄, g.LooksAhead x → x.run.Quiet →
      x.result (g.eval input depth) = some (o, run) → g.Mute input depth x o run) ∧
    (g.parseWith input context labels).2.Quiet := by
  refine ⟨fun depth active x hx => ?_, fun depth x o run hlooks hquiet => hlooks.silent hquiet, ?_⟩
  · have hquiet := hx.quiet hb hg
    obtain ⟨o, run, hresult⟩ := hx.exists_result hb hg
    refine ⟨hquiet, o, run, hresult, quiet_of_result hquiet hresult, fun hlooks => ?_,
      fun operator hget hpredicate => ?_⟩
    · exact ⟨hlooks.silent hquiet hresult, fun depth' y hy => hy.unfired hb hg hx hlooks⟩
    · cases depth with
      | zero => cases hresult
      | succ depth => exact predicate_outcome hget hpredicate hresult
  · have hstart : g.Tried input context labels (g.depthBound input.size) (fun _ => [])
        ⟨g.startNode, 0, .consuming, { context := context.reset, labels }⟩ := .start
    obtain ⟨o, run, hresult⟩ := hstart.exists_result hb hg
    have heval : g.evalStart input { context := context.reset, labels } = some (o, run) := hresult
    rw [parseWith, heval]
    exact quiet_of_result (hstart.quiet hb hg) hresult

end Built

/-- A predicate over a rule whose terminal has an action. -/
def peeking : List (Char × Expr Char Char) :=
  [('S', .andPredicate (.nonTerminal 'A')), ('A', .terminal 'a')]

/-- Every terminal has the value one. -/
def counting : Registry Char Char Nat :=
  Registry.setDefault {} .terminal { run := fun _ _ => .done 1 }

/-- The rules make a grammar. -/
theorem isSome_peeking : (ofExprs counting 'S' peeking).toOption.isSome := by decide

/-- The predicate of the rules is tried in the consuming mode, and fires nothing. -/
theorem lookahead_silent_peeking :
    ∃ g : Grammar Char Char Nat, ofExprs counting 'S' peeking = .ok g ∧
      ∀ input : Array (Token Char), (g.parseWith input {} ∅).2.Quiet ∧
        ∃ depth active x, g.Tried input {} ∅ depth active x ∧ x.mode = .consuming ∧
          g.LooksAhead x ∧ ∃ o run, x.result (g.eval input depth) = some (o, run) ∧
            x.run.Unfired run ∧ (o = .matchedAt 0 0 default ∨ o = .failed 0) := by
  have hg := eq_ok_of_isSome_toOption isSome_peeking
  obtain ⟨b, rules, hb, hbuild, -⟩ := ofExprs_made hg
  refine ⟨_, hg, fun input => ?_⟩
  obtain ⟨htrials, -, hend⟩ := lookahead_silent hb hbuild input {} ∅
  obtain ⟨body, depth, active, hbody, hx⟩ := exists_tried_startBody hbuild input {} ∅
  have hstart : ((ofExprs counting 'S' peeking).toOption.get isSome_peeking).body?
      ((ofExprs counting 'S' peeking).toOption.get isSome_peeking).start = some ⟨0, 1⟩ := by decide
  obtain rfl : body = ⟨0, 1⟩ := Option.some.inj (hbody.symm.trans hstart)
  have hget : ((ofExprs counting 'S' peeking).toOption.get isSome_peeking).arena.get? ⟨0, 1⟩ =
      some (.andPredicate ⟨0, 0⟩) := by decide
  obtain ⟨-, o, run, hresult, -, hlooks, houtcome⟩ := htrials hx
  exact ⟨hend, depth, active, _, hx, rfl, .inr ⟨_, hget, rfl⟩, o, run, hresult,
    (hlooks (.inr ⟨_, hget, rfl⟩)).1.unfired, houtcome _ hget rfl⟩

end Grammar

end Packrat
