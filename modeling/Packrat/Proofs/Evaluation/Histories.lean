import Mathlib.Logic.Function.Basic
import Packrat.Proofs.Evaluation.Refinement
import Packrat.Proofs.Evaluation.Trials

/-!
# Histories of parses

Two things outlive a parse: the context, which can be used for another one, also with a different
grammar, and the labels that the actions of a grammar have asked for on the way. A context is
cleared before it is used. Labels are never cleared, but they are true
(`Grammar.invariant_labelled`), and two evaluations with true labels differ in nothing else (`Grammar.evalKeeping_labelledAlike`).

`World` is what is left of the parses so far, with several grammars and contexts. Whatever history
led there, a parse reports what it would have reported if it had been the first one
(`World.parses_isolated`).
-/

namespace Packrat

variable {K N T : Type}

namespace Grammar

variable [DecidableEq N] [ToString K] [ToString N] [Inhabited T] {g : Grammar K N T}
  {input : Array (Token K)} {id : NodeId} {mode : Mode} {p : Nat}

/-! ## Runs with true labels -/

/-- Labels stay true. -/
theorem invariant_labelled (g : Grammar K N T) (input : Array (Token K)) (keep : Keep N T) :
    g.Invariant input keep fun _ run => g.Labelled run.labels where
  fire _ := fun _ _ _ _ _ _ h => fire_labelled h
  hit _ _ h := h
  cut _ _ h := h
  enter _ _ _ _ h _ := h
  close _ _ _ _ _ _ _ _ _ h _ _ _ := h

omit [DecidableEq N] in
/-- A firing is logged if there is an action and the mode is the consuming one. -/
theorem log_fire (span : Span) (values : List T) (run : Run N T) :
    (g.fire input id span values mode run).2.log =
      if mode = .consuming ∧ (g.arena.action? id).isSome then ⟨id, span, values.length⟩ :: run.log
      else run.log := by
  cases mode with
  | probing => rfl
  | consuming =>
    cases haction : g.arena.action? id with
    | none => simp [fire, haction]
    | some action =>
      simp only [fire, haction, hasSlot_of_action? haction, Option.isSome_some, and_self, if_true]
      split
      · rfl
      · split <;> rfl

/-- Two runs that differ in their labels at most, and the labels of both are true. -/
structure LabelledAlike (g : Grammar K N T) (r₁ r₂ : Run N T) : Prop where
  context : r₁.context = r₂.context
  log : r₁.log = r₂.log
  labelled₁ : g.Labelled r₁.labels
  labelled₂ : g.Labelled r₂.labels

variable {r₁ r₂ : Run N T}

omit [DecidableEq N] [Inhabited T] in
/-- The same step of the books in both runs. -/
theorem LabelledAlike.withContexts (h : g.LabelledAlike r₁ r₂) {c₁ c₂ : Context N T}
    (hc : c₁ = c₂) : g.LabelledAlike { r₁ with context := c₁ } { r₂ with context := c₂ } :=
  ⟨hc, h.log, h.labelled₁, h.labelled₂⟩

omit [DecidableEq N] in
/-- Actions fire alike in both runs. -/
theorem alike_labelledAlike (hpure : g.PureActions) (mode : Mode) :
    Alike g g input (· = ·) g.LabelledAlike mode mode where
  operators _ := rfl
  default := rfl
  fire id span vs₁ vs₂ r₁ r₂ hvalues h := by
    rw [List.forall₂_eq_eq_eq] at hvalues
    subst hvalues
    refine ⟨?_, ?_, ?_, fire_labelled h.labelled₁, fire_labelled h.labelled₂⟩
    · rw [fire_value hpure h.labelled₁, fire_value hpure h.labelled₂]
    · rw [fire_context, fire_context, h.context]
    · rw [log_fire, log_fire, h.log]

/-- A rule is called alike in both runs, if its body is evaluated alike. -/
theorem callKeeping_labelledAlike (hpure : g.PureActions) {keep : Keep N T} {ev : Evaluator N T}
    {name : N}
    (hev : ∀ body ⦃r₁ r₂⦄, g.LabelledAlike r₁ r₂ → Follows False (Outcome.Rel (· = ·))
      g.LabelledAlike (ev body p mode r₁) (ev body p mode r₂))
    (h : g.LabelledAlike r₁ r₂) :
    Follows False (Outcome.Rel (· = ·)) g.LabelledAlike
      (g.callKeeping input keep ev id name p mode r₁)
      (g.callKeeping input keep ev id name p mode r₂) := by
  have hfinish : ∀ {o₁ o₂ m₁ m₂}, Outcome.Rel (· = ·) o₁ o₂ → g.LabelledAlike m₁ m₂ →
      Follows False (Outcome.Rel (· = ·)) g.LabelledAlike
        (some (g.finishCall input id mode o₁ m₁)) (some (g.finishCall input id mode o₂ m₂)) :=
    (alike_labelledAlike hpure mode).finishCall (fun _ => rfl) id
  have hsame := h.context
  have hfind : Option.Rel (Outcome.Rel (· = ·)) (r₁.context.memo.find? name p mode)
      (r₂.context.memo.find? name p mode) := hsame ▸ rel_find?_refl _
  refine callKeeping_sideBySide rfl (congrArg _ hsame) hfind (fun o₁ o₂ _ ho => ?_) ?_ ?_
    (fun body _ => hev body ?_) fun o₁ o₂ m₁ m₂ ho hm => ?_
  · exact hfinish ho (h.withContexts (hsame ▸ rfl))
  · exact h.withContexts (hsame ▸ rfl)
  · exact h.withContexts (hsame ▸ rfl)
  · exact h.withContexts (hsame ▸ rfl)
  · cases ho.eq
    exact hfinish ho (hm.withContexts (by rw [hsame, hm.context]))

variable [DecidableEq K]

/-- **Evaluations with true labels differ in their labels at most.** -/
theorem evalKeeping_labelledAlike (hpure : g.PureActions) {keep : Keep N T} (depth : Nat) :
    ∀ id p mode ⦃r₁ r₂⦄, g.LabelledAlike r₁ r₂ → Follows False (Outcome.Rel (· = ·))
      g.LabelledAlike (g.evalKeeping input keep depth id p mode r₁)
      (g.evalKeeping input keep depth id p mode r₂) := by
  induction depth with
  | zero => exact fun id p mode r₁ r₂ h => nofun
  | succ depth ih =>
    intro id p mode r₁ r₂ h
    exact (alike_labelledAlike hpure mode).step (fun _ _ o _ q => ih o q mode)
      (fun _ _ o _ q => ih o q .probing)
      (fun name _ => callKeeping_labelledAlike hpure (fun body => ih body p mode) h) h

/-- Parses with true labels differ in their labels at most, whatever their contexts were. -/
theorem parseWith_labelledAlike (hpure : g.PureActions) (input : Array (Token K))
    (context₁ context₂ : Context N T) {labels₁ labels₂ : Labels} (h₁ : g.Labelled labels₁)
    (h₂ : g.Labelled labels₂) :
    (g.parseWith input context₁ labels₁).1 = (g.parseWith input context₂ labels₂).1 ∧
      g.LabelledAlike (g.parseWith input context₁ labels₁).2
        (g.parseWith input context₂ labels₂).2 := by
  have hstart : ∀ {labels labels'}, g.Labelled labels → g.Labelled labels' →
      Follows False (Outcome.Rel (· = ·)) g.LabelledAlike
        (g.evalStart input { context := Context.reset {}, labels })
        (g.evalStart input { context := Context.reset {}, labels := labels' }) := by
    intro labels labels' h h'
    rw [evalStart, evalStart, eval_eq]
    exact evalKeeping_labelledAlike hpure _ _ _ _ ⟨rfl, rfl, h, h'⟩
  have hreset : ∀ context : Context N T, context.reset = Context.reset {} := fun _ => rfl
  simp only [parseWith, hreset]
  cases hx : g.evalStart input { context := Context.reset {}, labels := labels₁ } with
  | some x =>
    obtain ⟨o, run₂, hx₂, hrel, halike⟩ := (hstart h₁ h₂).exists hx
    cases hrel.eq
    rw [hx₂]
    exact ⟨rfl, halike⟩
  | none =>
    cases hx₂ : g.evalStart input { context := Context.reset {}, labels := labels₂ } with
    | none => exact ⟨rfl, rfl, rfl, h₁, h₂⟩
    | some x =>
      obtain ⟨o, run₁, hx₁, -⟩ := (hstart h₂ h₁).exists hx₂
      rw [hx] at hx₁
      cases hx₁

end Grammar

/-! ## Several parses -/

section World

variable {ι : Type} {K : ι → Type}

/-- A parse among others: with which grammar, with the context in which slot, and of which
tokens. -/
structure Job (K : ι → Type) where
  grammar : ι
  slot : Nat
  tokens : Array (Token (K grammar))

/-- What the parses so far have left: contexts in slots, and the labels of each grammar. -/
structure World (ι N T : Type) where
  contexts : Nat → Context N T := fun _ => {}
  labels : ι → Labels := fun _ => ∅

/-- What there is to see of a parse: its outcome, the counters and the number of entries in its
context, and the firings of actions. -/
structure Report (T : Type) where
  outcome : Outcome T
  stats : Stats
  entries : Nat
  firings : List Firing

namespace World

variable [DecidableEq ι] [∀ i, DecidableEq (K i)] [∀ i, ToString (K i)] [DecidableEq N]
  [ToString N] [Inhabited T] (g : ∀ i, Grammar (K i) N T)

/-- One parse. It leaves its context in the slot, and its labels with the grammar. -/
def parse (w : World ι N T) (job : Job K) : Report T × World ι N T :=
  let (outcome, run) :=
    (g job.grammar).parseWith job.tokens (w.contexts job.slot) (w.labels job.grammar)
  (⟨outcome, run.context.stats, run.context.memo.size, run.log⟩,
    { contexts := Function.update w.contexts job.slot run.context
      labels := Function.update w.labels job.grammar run.labels })

/-- One parse after the other. -/
def parses (w : World ι N T) : List (Job K) → List (Report T) × World ι N T
  | [] => ([], w)
  | job :: rest =>
    let (report, w) := w.parse g job
    let (reports, w) := w.parses rest
    (report :: reports, w)

variable {g}

/-- All labels are true. -/
def Labelled (g : ∀ i, Grammar (K i) N T) (w : World ι N T) : Prop :=
  ∀ i, (g i).Labelled (w.labels i)

/-- In two worlds with true labels, a parse reports the same. -/
theorem parse_report_eq (hpure : ∀ i, (g i).PureActions) {w w' : World ι N T}
    (hw : w.Labelled g) (hw' : w'.Labelled g) (job : Job K) :
    (w.parse g job).1 = (w'.parse g job).1 := by
  obtain ⟨houtcome, halike⟩ := Grammar.parseWith_labelledAlike (hpure job.grammar) job.tokens
    (w.contexts job.slot) (w'.contexts job.slot) (hw job.grammar) (hw' job.grammar)
  simp only [parse, houtcome, halike.context, halike.log]

/-- A parse leaves true labels. -/
theorem Labelled.parse (hpure : ∀ i, (g i).PureActions) {w : World ι N T} (hw : w.Labelled g)
    (job : Job K) : (w.parse g job).2.Labelled g := by
  obtain ⟨-, halike⟩ := Grammar.parseWith_labelledAlike (hpure job.grammar) job.tokens
    (w.contexts job.slot) (w.contexts job.slot) (hw job.grammar) (hw job.grammar)
  intro i
  by_cases hi : i = job.grammar
  · subst hi
    simpa [World.parse] using halike.labelled₁
  · simpa [World.parse, hi] using hw i

/-- Parses from a world with true labels on: they leave one, and each reports what it reports in
any world with true labels. -/
theorem Labelled.parses (hpure : ∀ i, (g i).PureActions) {w fresh : World ι N T}
    (hw : w.Labelled g) (hfresh : fresh.Labelled g) (jobs : List (Job K)) :
    (w.parses g jobs).1 = jobs.map (fun job => (fresh.parse g job).1) ∧
      (w.parses g jobs).2.Labelled g := by
  induction jobs generalizing w with
  | nil => exact ⟨rfl, hw⟩
  | cons job rest ih =>
    obtain ⟨hreports, hlabelled⟩ := ih (hw.parse hpure job)
    refine ⟨?_, hlabelled⟩
    simp only [World.parses, List.map_cons, hreports, parse_report_eq hpure hw hfresh job]

/-- **Parses do not leak into each other.** Whatever parses there have been with any of the
grammars, in contexts that held anything before and that were used again in any way, each reports
what it would have reported as the first parse with the grammar, in a new context. In every world
that they lead to, and at every moment of a parse that begins there, a label is the text of its operator. -/
theorem parses_isolated (hpure : ∀ i, (g i).PureActions)
    (hbuilt : ∀ i, ∃ (b : Builder (K i) N T) (start : N) (rules : List (Rule N)),
      b.Made ∧ b.build start rules = .ok (g i))
    (contexts : Nat → Context N T) (jobs : List (Job K)) :
    ∃ reports w, ({ contexts } : World ι N T).parses g jobs = (reports, w) ∧
      reports = jobs.map (fun job => (({} : World ι N T).parse g job).1) ∧ w.Labelled g ∧
      ∀ (job : Job K) ⦃depth active x⦄,
        (g job.grammar).Tried job.tokens (w.contexts job.slot) (w.labels job.grammar) depth active
            x →
          (g job.grammar).Labelled x.run.labels ∧
            Grammar.EndsWith (fun run => (g job.grammar).Labelled run.labels) (fun _ => True)
              (x.result ((g job.grammar).eval job.tokens depth)) := by
  have hfresh : ∀ contexts : Nat → Context N T, ({ contexts } : World ι N T).Labelled g :=
    fun _ i => (g i).labelled_empty
  obtain ⟨hreports, hlabelled⟩ := (hfresh contexts).parses hpure (hfresh fun _ => {}) jobs
  refine ⟨_, _, rfl, hreports, hlabelled, fun job depth active x hx => ?_⟩
  obtain ⟨b, start, rules, hb, hg⟩ := hbuilt job.grammar
  have hE := Extent.closed_all (g job.grammar) job.tokens
  have hJ := (g job.grammar).invariant_labelled job.tokens fun _ _ => true
  obtain ⟨o, run, hresult, -, -, hrun⟩ := hx.endsWell hb hg hE hJ (hlabelled job.grammar)
  exact ⟨(hx.placed hb hg hE hJ (hlabelled job.grammar)).1.kept, o, run, hresult, trivial, hrun⟩

/-- The rules of two grammars with the same names. -/
def someRules : Bool → List (Char × Expr Char Char)
  | true => [('S', .orderedChoice [.sequence [.terminal 'a', .nonTerminal 'S'], .terminal 'a'])]
  | false => Grammar.leftRecursive

/-- The rules make grammars. -/
theorem isSome_someRules (i : Bool) :
    (Grammar.ofExprs Grammar.nodeTexts 'S' (someRules i)).toOption.isSome := by
  cases i <;> decide

/-- So it is with these grammars and actions that ask for the operators as text; a parse of one
token leaves the text of the terminal behind. -/
theorem parses_isolated_someRules :
    ∃ g : Bool → Grammar Char Char String,
      (∀ i, Grammar.ofExprs Grammar.nodeTexts 'S' (someRules i) = .ok (g i)) ∧
      (∀ i, (g i).PureActions) ∧
      (∃ job : Job fun _ : Bool => Char,
        ((({} : World Bool Char String).parse g job).2.labels true)[0]? = some "[a]") ∧
      ∀ (contexts : Nat → Context Char String) (jobs : List (Job fun _ : Bool => Char)),
        (({ contexts } : World Bool Char String).parses g jobs).1 =
          jobs.map fun job => (({} : World Bool Char String).parse g job).1 := by
  have hg := fun i => eq_ok_of_isSome_toOption (isSome_someRules i)
  have hpure := fun i => Grammar.ofExprs_pureActions Grammar.pure_nodeTexts (hg i)
  refine ⟨_, hg, hpure, ⟨⟨true, 0, #[⟨'a', ⟨0, 1⟩, "a"⟩]⟩, by decide +kernel⟩,
    fun contexts jobs => ?_⟩
  obtain ⟨reports, w, hparses, hreports, -⟩ := parses_isolated hpure (fun i =>
    let ⟨b, rules, hb, hbuild, _⟩ := Grammar.ofExprs_made (hg i)
    ⟨b, 'S', rules, hb, hbuild⟩) contexts jobs
  rw [hparses, hreports]

end World

end World

end Packrat
