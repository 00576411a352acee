import Packrat.Proofs.Construction
import Packrat.Proofs.Evaluation.Simulation

/-!
# Plain parsing expressions

The meaning of a grammar without any books: no memo table and no guard against left recursion.
`Grammar.Parses` is the least relation between operators, positions, modes and outcomes that has one
rule for each way an operator can end; a non-terminal has the outcome of the body of its rule. A
left-recursive call has no outcome, because its derivation would have to contain itself.

Actions take part as pure functions of the matched tokens, their span, the operator as text and the
values of the operands (`Action.Pure`): then the value of a match is `Grammar.valueOf`, whatever the
labels say that earlier firings have left (`Grammar.fire_value`).

An evaluator that is right about rule calls and operands is right about the operator that has them
(`Grammar.step_truthful`). What it says may be known to hold only under a condition on the books,
such as that no call has been refused.
-/

namespace Packrat

variable {K N T : Type}

/-! ## Pure actions -/

/-- The value of a reply, given the operator as text. -/
def Reply.value (text : String) : Reply T → T
  | .done value => value
  | .asking value => value text

/-- A pure action: its value is a function of the matched tokens, their span, the operator as text
and the values of the operands. -/
def Action.Pure (a : Action K T) : Prop :=
  ∃ f : List (Token K) → Span → String → List T → T, ∀ m values text,
    (a.run m values).value text = f m.tokens m.span text values

/-- The action that makes nodes is pure. -/
theorem Action.pure_passthrough (wrap : MatchNode T → T) (kind : Kind) :
    (Action.passthrough wrap kind : Action K T).Pure :=
  ⟨fun tokens span text values =>
    wrap ⟨kind, span, String.join (tokens.map (·.text)), text, values⟩, fun _ _ _ => rfl⟩

/-- All actions of the registry are pure. -/
structure Registry.Pure (r : Registry K N T) : Prop where
  defaults : ∀ ⦃kind action⦄, r.defaults kind = some action → action.Pure
  tags : ∀ x ∈ r.tags, x.2.Pure
  names : ∀ x ∈ r.names, x.2.Pure
  passthrough : ∀ ⦃action⦄, r.passthrough = some action → ∀ kind, (action kind).Pure

/-- Every operator gets a pure action. -/
theorem Registry.Pure.forOperator [DecidableEq K] [DecidableEq N] {r : Registry K N T}
    (h : r.Pure) {operator : Operator K N NodeId} {action : Action K T}
    (hop : r.forOperator operator = some action) : action.Pure := by
  have hkind : ∀ kind, r.forKind kind = some action → action.Pure := by
    intro kind hk
    unfold Registry.forKind at hk
    split at hk
    · cases hk
    · rcases Option.or_eq_some_iff.1 hk with hk | ⟨-, hk⟩
      · exact h.defaults hk
      · obtain ⟨make, hmake, rfl⟩ := Option.map_eq_some_iff.1 hk
        exact h.passthrough hmake kind
  cases operator with
  | terminal tag =>
    rcases Option.or_eq_some_iff.1 hop with hl | ⟨-, hk⟩
    · obtain ⟨before, after, hl, -⟩ := List.lookup_eq_some_iff.1 hl
      exact h.tags (tag, action) (by simp [hl])
    · exact hkind _ hk
  | nonTerminal name =>
    rcases Option.or_eq_some_iff.1 hop with hl | ⟨-, hk⟩
    · obtain ⟨before, after, hl, -⟩ := List.lookup_eq_some_iff.1 hl
      exact h.names (name, action) (by simp [hl])
    · exact hkind _ hk
  | emptyString | sequence | orderedChoice | optional | zeroOrMore | oneOrMore | andPredicate
  | notPredicate => exact hkind _ hop

namespace Grammar

/-- All actions of the grammar are pure. -/
def PureActions (g : Grammar K N T) : Prop :=
  ∀ ⦃id action⦄, g.arena.action? id = some action → action.Pure

/-- An id with an action is the id at its place in the arena. -/
theorem idAt_of_action? {g : Grammar K N T} {id : NodeId} {action : Action K T}
    (h : g.arena.action? id = some action) : g.arena.idAt id.index = id := by
  by_cases hid : id.arena = g.arena.id
  · rw [Arena.idAt, ← hid]
  · simp [Arena.action?, hid] at h

/-- An operator with an action has a slot. -/
theorem hasSlot_of_action? {g : Grammar K N T} {id : NodeId} {action : Action K T}
    (h : g.arena.action? id = some action) : g.hasSlot id := by
  cases hop : g.arena.get? id with
  | none =>
    rw [Arena.action?_eq_none hop] at h
    cases h
  | some op => exact hasSlot_of_get? hop

section Firing

variable [ToString K] [ToString N] (g : Grammar K N T) (input : Array (Token K))

/-- The labels are texts of the operators they stand for. -/
def Labelled (labels : Labels) : Prop :=
  ∀ ⦃index text⦄, labels[index]? = some text → text = g.arena.render (g.arena.idAt index)

/-- Nothing has been asked for at first. -/
theorem labelled_empty : g.Labelled ∅ := fun index text h => by simp at h

variable [Inhabited T]

/-- The value of a match, with an action that sees no label. -/
def valueOf (id : NodeId) (span : Span) (values : List T) (mode : Mode) : T :=
  match mode, g.arena.action? id with
  | .consuming, some action =>
    (action.run ⟨input, span, none⟩ values).value (g.arena.render id)
  | _, _ => default

/-- The outcome of a non-terminal from the outcome of the body of its rule. -/
def applied (id : NodeId) (mode : Mode) : Outcome T → Outcome T
  | .failed position => .failed position
  | .matched next span value =>
    .matched next span
      (if mode = .consuming ∧ (g.arena.action? id).isSome then g.valueOf input id span [value] mode
        else value)

variable {g input} {id : NodeId} {span : Span} {values : List T} {mode : Mode} {run : Run N T}

/-- Firing leaves the context alone. -/
@[simp] theorem fire_context : (g.fire input id span values mode run).2.context = run.context := by
  unfold fire
  split
  · dsimp only
    split
    · rfl
    · split <;> rfl
  · rfl

/-- Firing keeps the labels true. -/
theorem fire_labelled (hl : g.Labelled run.labels) :
    g.Labelled (g.fire input id span values mode run).2.labels := by
  unfold fire
  split
  · next action haction hslot =>
    dsimp only
    split
    · exact hl
    · split
      · exact hl
      · intro index text htext
        rw [Std.TreeMap.getElem?_insert] at htext
        split at htext
        · next hindex =>
          cases htext
          rw [← (show id.index = index by simpa using hindex), idAt_of_action? haction]
        · exact hl htext
  · exact hl

/-- **The value of a firing depends on no label.** -/
theorem fire_value (hpure : g.PureActions) (hl : g.Labelled run.labels) :
    (g.fire input id span values mode run).1 = g.valueOf input id span values mode := by
  cases mode with
  | probing => rfl
  | consuming =>
    cases haction : g.arena.action? id with
    | none => simp only [fire, valueOf, haction]
    | some action =>
      obtain ⟨f, hf⟩ := hpure haction
      have hlabel : (action.run ⟨input, span, none⟩ values).value (g.arena.render id) =
          (action.run ⟨input, span, run.labels[id.index]?⟩ values).value (g.arena.render id) := by
        rw [hf, hf]
        rfl
      simp only [fire, valueOf, haction, hasSlot_of_action? haction, hlabel]
      split
      · next hreply => rw [hreply, Reply.value]
      · next value hreply =>
        rw [hreply, Reply.value]
        split
        · next text htext => rw [hl htext, idAt_of_action? haction]
        · rfl

/-- A call ends with the applied outcome, and leaves the context alone and the labels true. -/
theorem finishCall_eq (hpure : g.PureActions) (hl : g.Labelled run.labels)
    (input : Array (Token K)) (id : NodeId) (mode : Mode) (o : Outcome T) :
    ∃ run', g.finishCall input id mode o run = (g.applied input id mode o, run') ∧
      run'.context = run.context ∧ g.Labelled run'.labels := by
  cases o with
  | failed position => exact ⟨run, rfl, rfl, hl⟩
  | matched next span value =>
    unfold finishCall applied
    dsimp only
    split
    · exact ⟨_, by rw [fire_value hpure hl], fire_context, fire_labelled hl⟩
    · exact ⟨run, rfl, rfl, hl⟩

end Firing

/-! ## The relation -/

section Relation

variable [DecidableEq N] [ToString K] [ToString N] [Inhabited T] (g : Grammar K N T)
  (input : Array (Token K))

mutual

/-- The operator at `id`, tried at a position in a mode, has an outcome. -/
inductive Parses : NodeId → Nat → Mode → Outcome T → Prop
  | terminal {id : NodeId} {p : Nat} {mode : Mode} {tag : K} {token : Token K} :
      g.arena.get? id = some (.terminal tag) → input[p]? = some token → token.tag = tag →
      Parses id p mode (.matchedAt p 1 (g.valueOf input id ⟨p, 1⟩ [] mode))
  | terminalFails {id : NodeId} {p : Nat} {mode : Mode} {tag : K} :
      g.arena.get? id = some (.terminal tag) →
      (∀ token, input[p]? = some token → token.tag ≠ tag) → Parses id p mode (.failed p)
  | nonTerminal {id body : NodeId} {p : Nat} {mode : Mode} {name : N} {o : Outcome T} :
      g.arena.get? id = some (.nonTerminal name) → g.body? name = some body →
      Parses body p mode o → Parses id p mode (g.applied input id mode o)
  | emptyString {id : NodeId} {p : Nat} {mode : Mode} :
      g.arena.get? id = some .emptyString → p ≤ input.size →
      Parses id p mode (.matchedAt p 0 (g.valueOf input id ⟨p, 0⟩ [] mode))
  | emptyStringFails {id : NodeId} {p : Nat} {mode : Mode} :
      g.arena.get? id = some .emptyString → input.size < p → Parses id p mode (.failed p)
  | sequence {id : NodeId} {p stop : Nat} {mode : Mode} {operands : List NodeId}
      {values : List T} :
      g.arena.get? id = some (.sequence operands) → InOrder operands p mode (.ok (stop, values)) →
      Parses id p mode
        (.matchedAt p (stop - p) (g.valueOf input id ⟨p, stop - p⟩ values mode))
  | sequenceFails {id : NodeId} {p q : Nat} {mode : Mode} {operands : List NodeId} :
      g.arena.get? id = some (.sequence operands) → InOrder operands p mode (.error q) →
      Parses id p mode (.failed q)
  | orderedChoice {id : NodeId} {p next : Nat} {mode : Mode} {operands : List NodeId}
      {span : Span} {value : T} :
      g.arena.get? id = some (.orderedChoice operands) →
      FirstOf operands p mode (some (next, span, value)) →
      Parses id p mode (.matched next span (g.valueOf input id span [value] mode))
  | orderedChoiceFails {id : NodeId} {p : Nat} {mode : Mode} {operands : List NodeId} :
      g.arena.get? id = some (.orderedChoice operands) → FirstOf operands p mode none →
      Parses id p mode (.failed p)
  | optional {id operand : NodeId} {p next : Nat} {mode : Mode} {span : Span} {value : T} :
      g.arena.get? id = some (.optional operand) →
      Parses operand p mode (.matched next span value) →
      Parses id p mode (.matched next span (g.valueOf input id span [value] mode))
  | optionalAbsent {id operand : NodeId} {p q : Nat} {mode : Mode} :
      g.arena.get? id = some (.optional operand) → Parses operand p mode (.failed q) →
      p ≤ input.size → Parses id p mode (.matchedAt p 0 (g.valueOf input id ⟨p, 0⟩ [] mode))
  | optionalFails {id operand : NodeId} {p q : Nat} {mode : Mode} :
      g.arena.get? id = some (.optional operand) → Parses operand p mode (.failed q) →
      input.size < p → Parses id p mode (.failed p)
  | zeroOrMore {id operand : NodeId} {p stop : Nat} {mode : Mode} {values : List T} :
      g.arena.get? id = some (.zeroOrMore operand) → Repeats operand p mode stop values →
      Parses id p mode
        (.matchedAt p (stop - p) (g.valueOf input id ⟨p, stop - p⟩ values mode))
  | oneOrMore {id operand : NodeId} {p stop : Nat} {mode : Mode} {values : List T} :
      g.arena.get? id = some (.oneOrMore operand) → Repeats operand p mode stop values →
      values ≠ [] →
      Parses id p mode
        (.matchedAt p (stop - p) (g.valueOf input id ⟨p, stop - p⟩ values mode))
  | oneOrMoreFails {id operand : NodeId} {p stop : Nat} {mode : Mode} :
      g.arena.get? id = some (.oneOrMore operand) → Repeats operand p mode stop [] →
      Parses id p mode (.failed p)
  | andPredicate {id operand : NodeId} {p next : Nat} {mode : Mode} {span : Span} {value : T} :
      g.arena.get? id = some (.andPredicate operand) →
      Parses operand p .probing (.matched next span value) →
      Parses id p mode (.matchedAt p 0 default)
  | andPredicateFails {id operand : NodeId} {p q : Nat} {mode : Mode} :
      g.arena.get? id = some (.andPredicate operand) → Parses operand p .probing (.failed q) →
      Parses id p mode (.failed p)
  | notPredicate {id operand : NodeId} {p q : Nat} {mode : Mode} :
      g.arena.get? id = some (.notPredicate operand) → Parses operand p .probing (.failed q) →
      Parses id p mode (.matchedAt p 0 default)
  | notPredicateFails {id operand : NodeId} {p next : Nat} {mode : Mode} {span : Span}
      {value : T} :
      g.arena.get? id = some (.notPredicate operand) →
      Parses operand p .probing (.matched next span value) → Parses id p mode (.failed p)

/-- The operands, tried one after the other, end with their values at a position, or one fails. -/
inductive InOrder : List NodeId → Nat → Mode → Except Nat (Nat × List T) → Prop
  | nil {p : Nat} {mode : Mode} : InOrder [] p mode (.ok (p, []))
  | fails {operand : NodeId} {rest : List NodeId} {p q : Nat} {mode : Mode} :
      Parses operand p mode (.failed q) → InOrder (operand :: rest) p mode (.error q)
  | failsLater {operand : NodeId} {rest : List NodeId} {p next q : Nat} {mode : Mode} {span : Span}
      {value : T} :
      Parses operand p mode (.matched next span value) → InOrder rest next mode (.error q) →
      InOrder (operand :: rest) p mode (.error q)
  | cons {operand : NodeId} {rest : List NodeId} {p next stop : Nat} {mode : Mode} {span : Span}
      {value : T} {values : List T} :
      Parses operand p mode (.matched next span value) →
      InOrder rest next mode (.ok (stop, values)) →
      InOrder (operand :: rest) p mode (.ok (stop, value :: values))

/-- The first of the operands that matches at a position, if there is one. -/
inductive FirstOf : List NodeId → Nat → Mode → Option (Nat × Span × T) → Prop
  | nil {p : Nat} {mode : Mode} : FirstOf [] p mode none
  | here {operand : NodeId} {rest : List NodeId} {p next : Nat} {mode : Mode} {span : Span}
      {value : T} :
      Parses operand p mode (.matched next span value) →
      FirstOf (operand :: rest) p mode (some (next, span, value))
  | later {operand : NodeId} {rest : List NodeId} {p q : Nat} {mode : Mode}
      {found : Option (Nat × Span × T)} :
      Parses operand p mode (.failed q) → FirstOf rest p mode found →
      FirstOf (operand :: rest) p mode found

/-- The operand, tried again and again, stops at a position with the values of its turns. -/
inductive Repeats : NodeId → Nat → Mode → Nat → List T → Prop
  | done {operand : NodeId} {p q : Nat} {mode : Mode} :
      Parses operand p mode (.failed q) → Repeats operand p mode p []
  | last {operand : NodeId} {p next : Nat} {mode : Mode} {span : Span} {value : T} :
      Parses operand p mode (.matched next span value) → next ≤ p ∨ input.size ≤ next →
      Repeats operand p mode next [value]
  | more {operand : NodeId} {p next stop : Nat} {mode : Mode} {span : Span} {value : T}
      {values : List T} :
      Parses operand p mode (.matched next span value) → p < next → next < input.size →
      Repeats operand next mode stop values → Repeats operand p mode stop (value :: values)

end

end Relation

/-! ## Evaluators that derive what they say -/

section Truthful

variable [ToString K] [ToString N] {g : Grammar K N T} {J R : Context N T → Prop}

/-- A run whose context satisfies `J` and whose labels are true. -/
def Sane (g : Grammar K N T) (J : Context N T → Prop) (run : Run N T) : Prop :=
  J run.context ∧ g.Labelled run.labels

/-- What an evaluation from `run` on says is true: it leaves a sane run, and if `R` holds of the
context it leaves, then `R` held before, and the result satisfies `P`. -/
def Truthful {α : Type} (g : Grammar K N T) (J R : Context N T → Prop) (P : α → Prop)
    (run : Run N T) (x : Option (α × Run N T)) : Prop :=
  ∀ ⦃a run'⦄, x = some (a, run') → g.Sane J run' ∧ (R run'.context → R run.context ∧ P a)

variable {α β : Type} {P P' : α → Prop} {run run' : Run N T} {x : Option (α × Run N T)}

/-- No result. -/
theorem Truthful.nothing : g.Truthful J R P run none := by
  intro a run' ha
  cases ha

/-- A result at hand. -/
theorem Truthful.result {a : α} (hs : g.Sane J run') (h : R run'.context → R run.context ∧ P a) :
    g.Truthful J R P run (some (a, run')) := by
  intro b run'' hb
  cases hb
  exact ⟨hs, h⟩

/-- An evaluation that goes on after another one, of which `H` is known. -/
theorem Truthful.after {H : Prop} (h : R run'.context → R run.context ∧ H)
    (hx : g.Truthful J R P' run' x) (hP : ∀ a, H → P' a → P a) : g.Truthful J R P run x := by
  intro a run'' ha
  obtain ⟨hs, himp⟩ := hx ha
  refine ⟨hs, fun hR => ?_⟩
  obtain ⟨hR', hP'⟩ := himp hR
  exact ⟨(h hR').1, hP a (h hR').2 hP'⟩

variable [Inhabited T] {input : Array (Token K)} {id : NodeId} {mode : Mode} {start : Nat}
  {ev : Evaluator N T}

/-- A match whose action fires after an evaluation of which `H` is known. -/
theorem Truthful.fired {H : Prop} {P : Outcome T → Prop} {next : Nat} {span : Span}
    {values : List T} (hpure : g.PureActions) (hs : g.Sane J run')
    (h : R run'.context → R run.context ∧ H)
    (hP : H → P (.matched next span (g.valueOf input id span values mode))) :
    g.Truthful J R P run (some (.matched next span (g.fire input id span values mode run').1,
      (g.fire input id span values mode run').2)) := by
  have hvalue : (g.fire input id span values mode run').1 = _ := fire_value hpure hs.2
  refine .result ⟨?_, fire_labelled hs.2⟩ fun hR => ?_
  · rw [fire_context]
    exact hs.1
  · rw [fire_context] at hR
    exact ⟨(h hR).1, hvalue ▸ hP (h hR).2⟩

variable [DecidableEq N]

/-- The operands of a sequence, after those that left the values `before`. -/
theorem sequence_truthful (hpure : g.PureActions) {operands : List NodeId}
    (hev : ∀ o ∈ operands, ∀ p ⦃run⦄, g.Sane J run →
      g.Truthful J R (g.Parses input o p mode) run (ev o p mode run)) :
    ∀ (p : Nat) (before : List T) ⦃run⦄, g.Sane J run →
      g.Truthful J R (fun o =>
        (∃ stop values, g.InOrder input operands p mode (.ok (stop, values)) ∧
          o = .matchedAt start (stop - start)
            (g.valueOf input id ⟨start, stop - start⟩ (before.reverse ++ values) mode)) ∨
        ∃ q, g.InOrder input operands p mode (.error q) ∧ o = .failed q)
      run (g.sequence input ev id start mode operands p before run) := by
  induction operands with
  | nil =>
    intro p before run hs
    refine Truthful.fired hpure hs (fun hR => ⟨hR, trivial⟩) fun _ => .inl ⟨p, [], .nil, ?_⟩
    rw [List.append_nil]
    rfl
  | cons operand rest ih =>
    intro p before run hs
    rw [sequence]
    split
    · exact .nothing
    · next q run' hop =>
      obtain ⟨hs', himp⟩ := hev operand List.mem_cons_self p hs hop
      exact .result hs' fun hR => ⟨(himp hR).1, .inr ⟨q, .fails (himp hR).2, rfl⟩⟩
    · next next span value run' hop =>
      obtain ⟨hs', himp⟩ := hev operand List.mem_cons_self p hs hop
      refine .after himp (ih (fun o ho => hev o (List.mem_cons_of_mem _ ho)) next (value :: before)
        hs') fun o hop => ?_
      rintro (⟨stop, values, hrest, rfl⟩ | ⟨q, hrest, rfl⟩)
      · exact .inl ⟨stop, value :: values, .cons hop hrest, by simp⟩
      · exact .inr ⟨q, .failsLater hop hrest, rfl⟩

/-- The operands of a choice. -/
theorem choice_truthful (hpure : g.PureActions) {operands : List NodeId}
    (hev : ∀ o ∈ operands, ∀ p ⦃run⦄, g.Sane J run →
      g.Truthful J R (g.Parses input o p mode) run (ev o p mode run)) :
    ∀ ⦃run⦄, g.Sane J run →
      g.Truthful J R (fun o =>
        (∃ next span value, g.FirstOf input operands start mode (some (next, span, value)) ∧
          o = .matched next span (g.valueOf input id span [value] mode)) ∨
        g.FirstOf input operands start mode none ∧ o = .failed start)
      run (g.choice input ev id start mode operands run) := by
  induction operands with
  | nil =>
    intro run hs
    exact .result hs fun hR => ⟨hR, .inr ⟨.nil, rfl⟩⟩
  | cons operand rest ih =>
    intro run hs
    rw [choice]
    split
    · exact .nothing
    · next q run' hop =>
      obtain ⟨hs', himp⟩ := hev operand List.mem_cons_self start hs hop
      refine .after himp (ih (fun o ho => hev o (List.mem_cons_of_mem _ ho)) hs') fun o hop => ?_
      rintro (⟨next, span, value, hrest, rfl⟩ | ⟨hrest, rfl⟩)
      · exact .inl ⟨next, span, value, .later hop hrest, rfl⟩
      · exact .inr ⟨.later hop hrest, rfl⟩
    · next next span value run' hop =>
      obtain ⟨hs', himp⟩ := hev operand List.mem_cons_self start hs hop
      exact .fired hpure hs' himp fun hop => .inl ⟨next, span, value, .here hop, rfl⟩

/-- The turns of a repetition, after those that left the values `before`. -/
theorem repetition_truthful {operand : NodeId}
    (hev : ∀ p ⦃run⦄, g.Sane J run →
      g.Truthful J R (g.Parses input operand p mode) run (ev operand p mode run)) (turns : Nat) :
    ∀ (p : Nat) (before : List T) ⦃run⦄, g.Sane J run →
      g.Truthful J R (fun x => ∃ values, g.Repeats input operand p mode x.1 values ∧
          x.2 = values.reverse ++ before)
        run (repetition input ev operand mode turns p before run) := by
  induction turns with
  | zero => exact fun p before run hs => .nothing
  | succ turns ih =>
    intro p before run hs
    rw [repetition]
    split
    · exact .nothing
    · next q run' hop =>
      obtain ⟨hs', himp⟩ := hev p hs hop
      exact .result hs' fun hR => ⟨(himp hR).1, [], .done (himp hR).2, rfl⟩
    · next next span value run' hop =>
      obtain ⟨hs', himp⟩ := hev p hs hop
      split
      · next hgo =>
        refine .after himp (ih next (value :: before) hs') fun x hop => ?_
        rintro ⟨values, hrest, hx⟩
        exact ⟨value :: values, .more hop hgo.1 hgo.2 hrest, by simp [hx]⟩
      · next hstop =>
        have hstop : next ≤ p ∨ input.size ≤ next := by omega
        exact .result hs' fun hR => ⟨(himp hR).1, [value], .last (himp hR).2 hstop, rfl⟩

/-- A call, after the body of its rule. -/
theorem finishCall_truthful (hpure : g.PureActions) {name : N} {body : NodeId} {inner : Outcome T}
    (hget : g.arena.get? id = some (.nonTerminal name)) (hbody : g.body? name = some body)
    (hs : g.Sane J run')
    (h : R run'.context → R run.context ∧ g.Parses input body start mode inner) :
    g.Truthful J R (g.Parses input id start mode) run
      (some (g.finishCall input id mode inner run')) := by
  obtain ⟨run'', hout, hcontext, hlabels⟩ := finishCall_eq hpure hs.2 input id mode inner
  rw [hout]
  refine .result ⟨hcontext ▸ hs.1, hlabels⟩ fun hR => ?_
  rw [hcontext] at hR
  exact ⟨(h hR).1, .nonTerminal hget hbody (h hR).2⟩

variable [DecidableEq K]
  {callRule : NodeId → N → Nat → Mode → Run N T → Option (Outcome T × Run N T)}

/-- **An evaluator that is right about rule calls and operands is right about the operator that has
them.** -/
theorem step_truthful (hpure : g.PureActions) {operator : Operator K N NodeId}
    (hget : g.arena.get? id = some operator)
    (hev : ∀ o ∈ operator.operands, ∀ p mode ⦃run⦄, g.Sane J run →
      g.Truthful J R (g.Parses input o p mode) run (ev o p mode run))
    (hs : g.Sane J run)
    (hcall : ∀ name, operator = .nonTerminal name →
      g.Truthful J R (g.Parses input id start mode) run (callRule id name start mode run)) :
    g.Truthful J R (g.Parses input id start mode) run
      (g.step input callRule ev id start mode run) := by
  unfold step
  rw [hget]
  cases operator with
  | terminal tag =>
    dsimp only
    split
    · next htag =>
      obtain ⟨token, htoken, htag⟩ := (Option.any_eq_true _ _).1 htag
      exact .fired hpure hs (fun hR => ⟨hR, trivial⟩) fun _ =>
        .terminal hget htoken (by simpa using htag)
    · next htag =>
      refine .result hs fun hR => ⟨hR, .terminalFails hget fun token htoken => ?_⟩
      simpa [htoken] using htag
  | nonTerminal name => exact hcall name rfl
  | emptyString =>
    dsimp only
    split
    · next hle =>
      exact .fired hpure hs (fun hR => ⟨hR, trivial⟩) fun _ => .emptyString hget hle
    · next hle => exact .result hs fun hR => ⟨hR, .emptyStringFails hget (by omega)⟩
  | sequence operands =>
    refine .after (fun hR => ⟨hR, trivial⟩)
      (sequence_truthful hpure (fun o ho p => hev o ho p mode) start [] hs) fun o _ => ?_
    rintro (⟨stop, values, hall, rfl⟩ | ⟨q, hall, rfl⟩)
    · exact .sequence hget hall
    · exact .sequenceFails hget hall
  | orderedChoice operands =>
    refine .after (fun hR => ⟨hR, trivial⟩)
      (choice_truthful hpure (fun o ho p => hev o ho p mode) hs) fun o _ => ?_
    rintro (⟨next, span, value, hfirst, rfl⟩ | ⟨hnone, rfl⟩)
    · exact .orderedChoice hget hfirst
    · exact .orderedChoiceFails hget hnone
  | optional operand =>
    dsimp only
    split
    · exact .nothing
    · next next span value run' hop =>
      obtain ⟨hs', himp⟩ := hev operand (.head _) start mode hs hop
      exact .fired hpure hs' himp fun hop => .optional hget hop
    · next q run' hop =>
      obtain ⟨hs', himp⟩ := hev operand (.head _) start mode hs hop
      split
      · next hle => exact .fired hpure hs' himp fun hop => .optionalAbsent hget hop hle
      · next hle =>
        exact .result hs' fun hR => ⟨(himp hR).1, .optionalFails hget (himp hR).2 (by omega)⟩
  | zeroOrMore operand =>
    dsimp only
    split
    · exact .nothing
    · next stop values run' hrep =>
      obtain ⟨hs', himp⟩ := repetition_truthful (fun p => hev operand (.head _) p mode)
        (input.size + 1) start [] hs hrep
      refine .fired hpure hs' himp ?_
      rintro ⟨values, hrep, rfl⟩
      rw [List.append_nil, List.reverse_reverse]
      exact .zeroOrMore hget hrep
  | oneOrMore operand =>
    dsimp only
    split
    · exact .nothing
    · next stop run' hrep =>
      obtain ⟨hs', himp⟩ := repetition_truthful (fun p => hev operand (.head _) p mode)
        (input.size + 1) start [] hs hrep
      refine .result hs' fun hR => ⟨(himp hR).1, ?_⟩
      obtain ⟨values, hrep, hnil⟩ := (himp hR).2
      have hnil : values = [] := by simpa using hnil
      exact .oneOrMoreFails hget (hnil ▸ hrep)
    · next stop values run' hne hrep =>
      obtain ⟨hs', himp⟩ := repetition_truthful (fun p => hev operand (.head _) p mode)
        (input.size + 1) start [] hs hrep
      refine .fired hpure hs' himp ?_
      rintro ⟨values, hrep, rfl⟩
      rw [List.append_nil, List.reverse_reverse]
      refine .oneOrMore hget hrep fun hnil => ?_
      simp [hnil] at hne
  | andPredicate operand =>
    dsimp only
    split
    · exact .nothing
    · next next span value run' hop =>
      obtain ⟨hs', himp⟩ := hev operand (.head _) start .probing hs hop
      exact .result hs' fun hR => ⟨(himp hR).1, .andPredicate hget (himp hR).2⟩
    · next q run' hop =>
      obtain ⟨hs', himp⟩ := hev operand (.head _) start .probing hs hop
      exact .result hs' fun hR => ⟨(himp hR).1, .andPredicateFails hget (himp hR).2⟩
  | notPredicate operand =>
    dsimp only
    split
    · exact .nothing
    · next next span value run' hop =>
      obtain ⟨hs', himp⟩ := hev operand (.head _) start .probing hs hop
      exact .result hs' fun hR => ⟨(himp hR).1, .notPredicateFails hget (himp hR).2⟩
    · next q run' hop =>
      obtain ⟨hs', himp⟩ := hev operand (.head _) start .probing hs hop
      exact .result hs' fun hR => ⟨(himp hR).1, .notPredicate hget (himp hR).2⟩

end Truthful

end Grammar

end Packrat
