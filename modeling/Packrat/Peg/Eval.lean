import Packrat.Peg.Context
import Packrat.Peg.Grammar

/-!
# Evaluation

Operators are evaluated by recursive descent. `Grammar.step` says what one operator does, given how
rules are called and operands are evaluated, `Grammar.call` how a rule is called, and `Grammar.eval`
ties the knot with a bound on the depth; running out of it is `none`.

Rule calls keep the books. An outcome that is known for the rule, the position and the mode is used
again. A non-terminal that is in progress at the same position fails at once, and this failure is
not written down. Otherwise the body is evaluated and its outcome written down. The memo table holds
outcomes of bodies only: every non-terminal applies its own action afterwards.

Beneath a predicate the mode is probing: no action fires, and every value is the default one.
-/

namespace Packrat

/-- The slots that are filled: the texts of operators that actions have asked for, by their place in
the arena. -/
abbrev Labels := Std.TreeMap Nat String

/-- A firing of an action: of which operator, over which tokens, with how many values. -/
structure Firing where
  node : NodeId
  span : Span
  arity : Nat
deriving DecidableEq

/-- The state that evaluation passes along: the context of the parse, the labels of the grammar and
the firings so far, the last one first. -/
structure Run (N T : Type) where
  context : Context N T := {}
  labels : Labels := ∅
  log : List Firing := []

/-- How an operator is evaluated at a position; `none` if the bound on the depth was too small. -/
abbrev Evaluator (N T : Type) :=
  NodeId → Nat → Mode → Run N T → Option (Outcome T × Run N T)

namespace Grammar

variable {K N T : Type} (g : Grammar K N T) (input : Array (Token K))

/-- An operand as often as it matches from `position` on, with the values of the turns before, the
last one first. It ends when the operand fails, after a turn that did not advance, or at the end of
the input. -/
def repetition (ev : Evaluator N T) (operand : NodeId) (mode : Mode) :
    (turns : Nat) → (position : Nat) → (values : List T) → Run N T →
      Option ((Nat × List T) × Run N T)
  | 0, _, _, _ => none
  | turns + 1, position, values, run =>
    match ev operand position mode run with
    | none => none
    | some (.failed _, run) => some ((position, values), run)
    | some (.matched next _ value, run) =>
      if position < next ∧ next < input.size then
        repetition ev operand mode turns next (value :: values) run
      else some ((next, value :: values), run)

/-- A depth that no evaluation of an input of `n` tokens exceeds: every non-terminal is in progress
at most once at every position, and between two calls the operands descend through the arena. -/
def depthBound (n : Nat) : Nat :=
  let calls := (g.arena.operators.toList.filter fun op => op.callee?.isSome).length
  (calls * (n + 1) + 1) * (g.arena.size + 1)

variable [DecidableEq K] [DecidableEq N] [ToString K] [ToString N] [Inhabited T]

/-- The value of a match: what its action makes of it. While probing, without an action, or without
a slot for the text of the operator, it is the default value. -/
def fire (id : NodeId) (span : Span) (values : List T) (mode : Mode) (run : Run N T) :
    T × Run N T :=
  match mode, g.arena.action? id, g.hasSlot id with
  | .consuming, some action, true =>
    let log := ⟨id, span, values.length⟩ :: run.log
    let label := run.labels[id.index]?
    match action.run ⟨input, span, label⟩ values with
    | .done value => (value, { run with log })
    | .asking value =>
      match label with
      | some text => (value text, { run with log })
      | none =>
        let text := g.arena.render id
        (value text, { run with log, labels := run.labels.insert id.index text })
  | _, _, _ => (default, run)

/-- The operands of a sequence from `position` on, with the values of those before, the last one
first. -/
def sequence (ev : Evaluator N T) (id : NodeId) (start : Nat) (mode : Mode) :
    List NodeId → (position : Nat) → (values : List T) → Run N T →
      Option (Outcome T × Run N T)
  | [], position, values, run =>
    let length := position - start
    let (value, run) := g.fire input id ⟨start, length⟩ values.reverse mode run
    some (.matchedAt start length value, run)
  | operand :: rest, position, values, run =>
    match ev operand position mode run with
    | none => none
    | some (.failed p, run) => some (.failed p, run)
    | some (.matched next _ value, run) =>
      sequence ev id start mode rest next (value :: values) run

/-- The first of the operands that matches. -/
def choice (ev : Evaluator N T) (id : NodeId) (start : Nat) (mode : Mode) :
    List NodeId → Run N T → Option (Outcome T × Run N T)
  | [], run => some (.failed start, run)
  | operand :: rest, run =>
    match ev operand start mode run with
    | none => none
    | some (.failed _, run) => choice ev id start mode rest run
    | some (.matched next span value, run) =>
      let (value, run) := g.fire input id span [value] mode run
      some (.matched next span value, run)

/-- The outcome of a call from the outcome of the body: a non-terminal with an action applies it. -/
def finishCall (id : NodeId) (mode : Mode) (inner : Outcome T) (run : Run N T) :
    Outcome T × Run N T :=
  match inner with
  | .failed position => (.failed position, run)
  | .matched next span value =>
    if mode = .consuming ∧ (g.arena.action? id).isSome then
      let (value, run) := g.fire input id span [value] mode run
      (.matched next span value, run)
    else (.matched next span value, run)

/-- A call of the rule `name` by the non-terminal at `id`. -/
def call (ev : Evaluator N T) (id : NodeId) (name : N) (start : Nat) (mode : Mode)
    (run : Run N T) : Option (Outcome T × Run N T) :=
  let context := run.context.countCall
  match context.memo.find? name start mode with
  | some hit => some (g.finishCall input id mode hit { run with context := context.countHit })
  | none =>
    if id ∈ context.activeAt start then
      some (.failed start, { run with context := context.countCut })
    else
      let entered : Run N T := { run with context := context.enter id start }
      let inner :=
        match g.body? name with
        | some body => ev body start mode entered
        | none => some (.failed start, entered)
      match inner with
      | none => none
      | some (inner, run) =>
        let context := (run.context.leave id start).record name start mode inner
        some (g.finishCall input id mode inner { run with context })

/-- What the operator at `id` does at `start`, given how rules are called and how operands are
evaluated. -/
def step (callRule : NodeId → N → Nat → Mode → Run N T → Option (Outcome T × Run N T))
    (ev : Evaluator N T) : Evaluator N T := fun id start mode run =>
  match g.arena.get? id with
  | none => some (.failed start, run)
  | some (.terminal tag) =>
    if (input[start]?).any (·.tag = tag) then
      let (value, run) := g.fire input id ⟨start, 1⟩ [] mode run
      some (.matchedAt start 1 value, run)
    else some (.failed start, run)
  | some (.nonTerminal name) => callRule id name start mode run
  | some .emptyString =>
    if start ≤ input.size then
      let (value, run) := g.fire input id ⟨start, 0⟩ [] mode run
      some (.matchedAt start 0 value, run)
    else some (.failed start, run)
  | some (.sequence operands) => g.sequence input ev id start mode operands start [] run
  | some (.orderedChoice operands) => g.choice input ev id start mode operands run
  | some (.optional operand) =>
    match ev operand start mode run with
    | none => none
    | some (.matched next span value, run) =>
      let (value, run) := g.fire input id span [value] mode run
      some (.matched next span value, run)
    | some (.failed _, run) =>
      if start ≤ input.size then
        let (value, run) := g.fire input id ⟨start, 0⟩ [] mode run
        some (.matchedAt start 0 value, run)
      else some (.failed start, run)
  | some (.zeroOrMore operand) =>
    match repetition input ev operand mode (input.size + 1) start [] run with
    | none => none
    | some ((stop, values), run) =>
      let length := stop - start
      let (value, run) := g.fire input id ⟨start, length⟩ values.reverse mode run
      some (.matchedAt start length value, run)
  | some (.oneOrMore operand) =>
    match repetition input ev operand mode (input.size + 1) start [] run with
    | none => none
    | some ((_, []), run) => some (.failed start, run)
    | some ((stop, values), run) =>
      let length := stop - start
      let (value, run) := g.fire input id ⟨start, length⟩ values.reverse mode run
      some (.matchedAt start length value, run)
  | some (.andPredicate operand) =>
    match ev operand start .probing run with
    | none => none
    | some (.matched _ _ _, run) => some (.matchedAt start 0 default, run)
    | some (.failed _, run) => some (.failed start, run)
  | some (.notPredicate operand) =>
    match ev operand start .probing run with
    | none => none
    | some (.matched _ _ _, run) => some (.failed start, run)
    | some (.failed _, run) => some (.matchedAt start 0 default, run)

/-- Evaluation with a bound on the depth. -/
def eval : (depth : Nat) → Evaluator N T
  | 0 => fun _ _ _ _ => none
  | depth + 1 => g.step input (g.call input (eval depth)) (eval depth)

/-! ## Whole parses -/

/-- The evaluation of the start symbol at the beginning of the input. -/
def evalStart (run : Run N T) : Option (Outcome T × Run N T) :=
  g.eval input (g.depthBound input.size) g.startNode 0 .consuming run

/-- Parses an input with a context, which is cleared first, and the labels that earlier parses have
left. -/
def parseWith (context : Context N T) (labels : Labels) : Outcome T × Run N T :=
  let run : Run N T := { context := context.reset, labels }
  match g.evalStart input run with
  | none => (.failed 0, run)
  | some (outcome, run) => (outcome.complete input.size, run)

end Grammar

end Packrat
