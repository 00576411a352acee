import Packrat.Proofs.Evaluation.Invariants
import Packrat.Proofs.Lowering

/-!
# Evaluation ends

An evaluation ends within the input if the depth allows for what it needs (`Grammar.need`), and
`Grammar.depthBound` allows for everything (`Grammar.evalKeeping_ends_of_depthBound_le`). A
repetition goes on only after a turn that advances, so it takes at most one turn more than there are
tokens. `Grammar.eval_terminates` puts both together.
-/

namespace Packrat

variable {K N T : Type}

namespace Grammar

/-- An evaluation has a result with `R`, and leaves a context with `P`. -/
def Ends {α : Type} (P : Context N T → Prop) (R : α → Prop) (x : Option (α × Run N T)) : Prop :=
  ∃ a run', x = some (a, run') ∧ R a ∧ P run'.context

/-- Whatever the values of turns are, they may all have been made in one place. -/
theorem inTurn_all {mode : Mode} {operand : NodeId} {p : Nat} (values : List T) :
    Extent.all.yield.InTurn mode (List.replicate values.length operand) p p values := by
  induction values with
  | nil => exact .nil
  | cons value rest ih => exact .cons (Nat.le_refl p) trivial ih

/-- The turns of a repetition: one is left for every token that is left. -/
theorem repetition_ends {input : Array (Token K)} {P : Context N T → Prop} {ev : Evaluator N T}
    {mode : Mode} {operand : NodeId}
    (hev : ∀ p ≤ input.size, ∀ ⦃run⦄, P run.context →
      Ends P (Outcome.Within input.size p) (ev operand p mode run)) (turns p : Nat)
    (hp : p ≤ input.size) (hturns : input.size < turns + p) (values : List T) {run : Run N T}
    (hP : P run.context) :
    Ends P (fun x : Nat × List T => p ≤ x.1 ∧ x.1 ≤ input.size)
      (repetition input ev operand mode turns p values run) := by
  have hev' : ∀ q, p ≤ q → q ≤ input.size → ∀ ⦃run : Run N T⦄, P run.context →
      EndsUnless False (fun run => P run.context)
        (Outcome.Yields input.size Extent.all.yield mode operand q) (ev operand q mode run) := by
    intro q _ hq run hP
    obtain ⟨o, run', ho, hwithin, hP'⟩ := hev q hq hP
    exact endsWith_iff_yields.1 ⟨o, run', ho, ⟨hwithin, o.upto_all⟩, hP'⟩
  rcases repetition_yields hev' turns p (Nat.le_refl p) hp hturns _ values
      (inTurn_all values.reverse) hP with ⟨⟨⟩, -⟩ | ⟨x, run', hx, ⟨hle, hn, -⟩, hP'⟩
  exact ⟨x, run', hx, ⟨hle, hn⟩, hP'⟩

variable [DecidableEq N] [ToString K] [ToString N] [Inhabited T] {g : Grammar K N T}
  {input : Array (Token K)} {keep : Keep N T}

section Built

variable [DecidableEq K] {b : Builder K N T} {start : N} {rules : List (Rule N)}

/-- **An evaluation ends within the input**: the bound on the depth allows for everything that is
left to enter. -/
theorem evalKeeping_ends_of_depthBound_le (hb : b.Made) (hg : b.build start rules = .ok g)
    {depth : Nat} (hdepth : g.depthBound input.size ≤ depth) {id : NodeId} (hid : g.Live id)
    {active : Nat → List NodeId} (mode : Mode) {p : Nat} (hp : p ≤ input.size) {run : Run N T}
    (hrun : run.context.Bounded input.size active) :
    Ends (Context.Bounded input.size active) (Outcome.Within input.size p)
      (g.evalKeeping input keep depth id p mode run) := by
  obtain ⟨_, hget, -⟩ := hid.closed hg
  have hplaced : g.Placed input Extent.all (fun _ _ => True) active ⟨id, p, mode, run⟩ :=
    ⟨hid, hp, sound_all hrun, trivial⟩
  obtain ⟨o, run', ho, ⟨hwithin, -⟩, hsound, -⟩ :=
    evalKeeping_keeps hb hg (Extent.closed_all g input) (g.invariant_true input keep) depth hplaced
      (Nat.lt_of_lt_of_le (need_lt_depthBound (hget ▸ rfl) active) hdepth)
  exact ⟨o, run', ho, hwithin, hsound.toBounded⟩

/-- The start node has an outcome at the beginning of every parse. -/
theorem evalKeeping_start_isSome (hb : b.Made) (hg : b.build start rules = .ok g)
    (input : Array (Token K)) (keep : Keep N T) (context : Context N T) (labels : Labels) :
    ∃ o run, g.evalKeeping input keep (g.depthBound input.size) g.startNode 0 .consuming
      { context := context.reset, labels } = some (o, run) := by
  have hrun : Context.Bounded input.size (fun _ => [])
      ({ context := context.reset, labels } : Run N T).context := context.bounded_reset _
  obtain ⟨o, run, h, -⟩ := evalKeeping_ends_of_depthBound_le hb hg (Nat.le_refl _) (.inl rfl)
    .consuming (Nat.zero_le _) hrun
  exact ⟨o, run, h⟩

/-- **Evaluation terminates.** With `n` tokens, `m` operators and `k` of them non-terminals, a depth
of `(k * (n + 1) + 1) * (m + 1)` is enough: more depth gives the same outcome of the start symbol.
At this depth every operator that takes part in parses ends within the input, from any books that a
parse can have kept, and a repetition of it takes at most `n + 1` turns: more turns change
nothing. -/
theorem eval_terminates (hb : b.Made) (hg : b.build start rules = .ok g) (input : Array (Token K))
    {depth k m n : Nat}
    (hk : k = (g.arena.operators.toList.filter fun op => op.callee?.isSome).length)
    (hm : m = g.arena.size) (hn : n = input.size)
    (hdepth : (k * (n + 1) + 1) * (m + 1) ≤ depth) :
    (∀ (context : Context N T) (labels : Labels), ∃ x,
      g.evalStart input { context := context.reset, labels } = some x ∧
        g.eval input depth g.startNode 0 .consuming { context := context.reset, labels } =
          some x) ∧
    ∀ id, g.Live id → ∀ mode, ∀ p ≤ n, ∀ active (run : Run N T), run.context.Bounded n active →
      Ends (Context.Bounded n active) (Outcome.Within n p) (g.eval input depth id p mode run) ∧
        ∀ values, ∃ x, ∀ turns ≥ n + 1,
          repetition input (g.eval input depth) id mode turns p values run = some x := by
  subst hk hm hn
  simp only [evalStart, eval_eq]
  refine ⟨fun context labels => ?_, fun id hid mode p hp active run hrun => ⟨?_, fun values => ?_⟩⟩
  · obtain ⟨o, run', hstart⟩ :=
      evalKeeping_start_isSome hb hg input (fun _ _ => true) context labels
    exact ⟨(o, run'), hstart, evalKeeping_mono hdepth hstart⟩
  · exact evalKeeping_ends_of_depthBound_le hb hg hdepth hid mode hp hrun
  · obtain ⟨x, run', hx, -⟩ := repetition_ends
      (fun q hq _ hq' => evalKeeping_ends_of_depthBound_le hb hg hdepth hid mode hq hq')
      (input.size + 1) p hp (by omega) values hrun
    exact ⟨(x, run'), fun turns hturns => repetition_mono hturns hx⟩

end Built

/-- Rules of which one calls itself at once, or repeats one that matches nothing. -/
def leftRecursive : List (Char × Expr Char Char) :=
  [('S', .orderedChoice [.sequence [.nonTerminal 'S', .terminal 'a'],
    .zeroOrMore (.nonTerminal 'E')]), ('E', .emptyString)]

/-- The rules make a grammar. -/
theorem isSome_leftRecursive : (ofExprs (T := Unit) {} 'S' leftRecursive).toOption.isSome := by
  decide

/-- The rules make a grammar, so every input has an outcome. -/
theorem eval_terminates_leftRecursive :
    ∃ g : Grammar Char Char Unit, ofExprs {} 'S' leftRecursive = .ok g ∧
      ∀ input : Array (Token Char), ∃ x, g.evalStart input {} = some x ∧
        g.eval input (g.depthBound input.size) g.startNode 0 .consuming {} = some x := by
  have hok : (ofExprs (T := Unit) {} 'S' leftRecursive).toOption.isSome := by decide
  have hg := eq_ok_of_isSome_toOption hok
  obtain ⟨b, rules, hb, hbuild, -⟩ := ofExprs_made hg
  refine ⟨_, hg, fun input => ?_⟩
  exact (eval_terminates hb hbuild input rfl rfl rfl (Nat.le_refl _)).1 {} ∅

end Grammar

end Packrat
