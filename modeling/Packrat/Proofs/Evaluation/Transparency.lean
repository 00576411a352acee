import Packrat.Proofs.Evaluation.Refinement

/-!
# When memoization is transparent

An outcome that depends on a refused call holds only while the same non-terminals are in progress.
So a memo table is transparent if no such outcome is written down, and it need not be otherwise.

`Keep.Clean` is a policy of writing down no outcome with a refused call beneath it. Under such
policies the memo table has derivable outcomes only, and any two of them evaluate alike
(`Grammar.evalKeeping_abreast`). A call whose own depth is finite is evaluated without a refusal by
both (`Grammar.evalKeeping_follows`); any other call is not in the memo table, since what is there
has a depth, and so both treat it in the same way.

`Grammar.parseGuarded` parses without a memo table and with the guard against left recursion only.
`Grammar.parseWith_eq_parseGuarded_iff` says when it agrees with `Grammar.parseWith`, and
`Grammar.exists_parseWith_ne_parseGuarded` that it need not.
-/

namespace Packrat

variable {K N T : Type}

/-- The policy of writing down no outcome with a refused call beneath it. -/
def Keep.Clean (keep : Keep N T) : Prop :=
  ∀ ⦃before after⦄, keep before after → before.stats.cuts = after.stats.cuts

/-- Writes down the outcomes with no refused call beneath them. -/
def Keep.uncut : Keep N T := fun before after => before.stats.cuts = after.stats.cuts

theorem Keep.clean_uncut : Keep.Clean (Keep.uncut : Keep N T) :=
  fun _ _ h => of_decide_eq_true h

/-- Writes down nothing. -/
def Keep.nothing : Keep N T := fun _ _ => false

theorem Keep.clean_nothing : Keep.Clean (Keep.nothing : Keep N T) :=
  fun _ _ h => absurd h Bool.false_ne_true

namespace Grammar

variable [DecidableEq N] [ToString K] [ToString N] [Inhabited T]

/-! ## Clean policies evaluate alike -/

section Clean

variable {g : Grammar K N T} {input : Array (Token K)} {keep keep₁ keep₂ : Keep N T}
  {id body : NodeId} {name : N} {p : Nat} {mode : Mode} {active : Nat → List NodeId}

/-- A clean policy keeps the memo table sound, if an outcome without a refused call beneath it is
derivable. -/
theorem MemoSound.close_clean {before after : Context N T} {o : Outcome T}
    (h : g.MemoSound input after) (hkeep : keep.Clean) (hbody : g.body? name = some body)
    (ho : after.stats.cuts = before.stats.cuts → g.Parses input body p mode o) :
    g.MemoSound input (.close keep before after id name p mode o) := by
  intro name' p' mode' o' hfind
  rcases Context.find?_close hfind with hold | ⟨hkept, rfl, rfl, rfl, rfl⟩
  exacts [h hold, ⟨body, hbody, ho (hkeep hkept).symm⟩]

/-- Two runs with the same non-terminals in progress and sound memo tables. -/
structure Abreast (g : Grammar K N T) (input : Array (Token K)) (active : Nat → List NodeId)
    (r₁ r₂ : Run N T) : Prop where
  labelled₁ : g.Labelled r₁.labels
  labelled₂ : g.Labelled r₂.labels
  sound₁ : g.MemoSound input r₁.context
  sound₂ : g.MemoSound input r₂.context
  active₁ : r₁.context.activeAt = active
  active₂ : r₂.context.activeAt = active

/-- Actions fire alike in both runs. -/
theorem alike_abreast (hpure : g.PureActions) (mode : Mode) :
    Alike g g input (· = ·) (g.Abreast input active) mode mode where
  operators _ := rfl
  default := rfl
  fire id span vs₁ vs₂ r₁ r₂ hv hS := by
    rw [List.forall₂_eq_eq_eq] at hv
    subst hv
    refine ⟨?_, fire_labelled hS.labelled₁, fire_labelled hS.labelled₂, ?_, ?_, ?_, ?_⟩
    · rw [fire_value hpure hS.labelled₁, fire_value hpure hS.labelled₂]
    · rw [fire_context]
      exact hS.sound₁
    · rw [fire_context]
      exact hS.sound₂
    · rw [fire_context]
      exact hS.active₁
    · rw [fire_context]
      exact hS.active₂

variable [DecidableEq K]

/-- No depth is enough for the operator at the position. -/
def Endless (g : Grammar K N T) (input : Array (Token K)) (id : NodeId) (p : Nat) : Prop :=
  ∀ depth, ¬ g.Closes input depth id p

/-- The memo table has no outcome for a rule whose calls are endless. -/
theorem Endless.find?_eq_none (hpure : g.PureActions)
    (hget : g.arena.get? id = some (.nonTerminal name)) (hend : g.Endless input id p)
    {c : Context N T} (hsound : g.MemoSound input c) (mode : Mode) :
    c.memo.find? name p mode = none := by
  cases hfind : c.memo.find? name p mode with
  | none => rfl
  | some o =>
    obtain ⟨body, hbody, ho⟩ := hsound hfind
    have hcall : g.Parses input id p mode _ := .nonTerminal hget hbody ho
    obtain ⟨depth, hdepth⟩ := hcall.closes hpure
    exact absurd hdepth (hend depth)

section Built

variable {b : Builder K N T} {start : N} {rules : List (Rule N)}

/-- Where some depth is enough, any two policies evaluate alike, if all in progress is endless. -/
theorem evalKeeping_abreast_of_closes (hg : b.build start rules = .ok g) (hpure : g.PureActions)
    {depth enough : Nat} (hactive : ∀ q, ∀ node ∈ active q, g.Endless input node q)
    (hid : g.Live id) (hcloses : g.Closes input enough id p) {r₁ r₂ : Run N T}
    (hS : g.Abreast input active r₁ r₂) :
    Follows True (Outcome.Rel (· = ·)) (g.Abreast input active)
      (g.evalKeeping input keep₁ depth id p mode r₁)
      (g.evalKeeping input keep₂ depth id p mode r₂) := by
  intro o r₁' ho
  obtain ⟨⟨o', plain⟩, hplain⟩ := Option.isSome_iff_exists.1 (hcloses mode {})
  have hnot : ∀ q, ∀ node ∈ active q, ¬ g.Closes input enough node q :=
    fun q node hnode => hactive q node hnode enough
  obtain ⟨_, _, h₁, hrel₁, hS₁⟩ := (evalKeeping_follows hg hpure enough hnot hid mode p
    ⟨g.labelled_empty, hS.labelled₁, hS.sound₁, rfl, hS.active₁⟩).exists hplain
  obtain ⟨_, _, h₂, hrel₂, hS₂⟩ := (evalKeeping_follows hg hpure enough hnot hid mode p
    ⟨g.labelled_empty, hS.labelled₂, hS.sound₂, rfl, hS.active₂⟩).exists hplain
  cases hrel₁.eq
  cases hrel₂.eq
  -- What is found at one depth is found at the other, or not at all.
  have hsame₁ := evalKeeping_mono (Nat.le_max_left depth enough) ho
  rw [evalKeeping_mono (Nat.le_max_right depth enough) h₁] at hsame₁
  cases hsame₁
  cases hx : g.evalKeeping input keep₂ depth id p mode r₂ with
  | none => exact .inl ⟨trivial, rfl⟩
  | some x =>
    have hsame₂ := evalKeeping_mono (Nat.le_max_left depth enough) hx
    rw [evalKeeping_mono (Nat.le_max_right depth enough) h₂] at hsame₂
    cases hsame₂
    exact .inr ⟨o, _, rfl, .refl o, hS₁.labelled, hS₂.labelled, hS₁.sound, hS₂.sound, hS₁.active,
      hS₂.active⟩

/-- The memo table after the body of a rule, under a clean policy. -/
theorem memoSound_close_of_evalKeeping (hg : b.build start rules = .ok g) (hpure : g.PureActions)
    (hkeep : keep.Clean) {depth : Nat} {run mid : Run N T} {inner : Outcome T}
    (hbody : g.body? name = some body) (hlive : g.Live body) (hl : g.Labelled run.labels)
    (hsound : g.MemoSound input run.context) (hmid : g.MemoSound input mid.context)
    (h : g.evalKeeping input keep depth body p mode
      { run with context := run.context.countCall.enter id p } = some (inner, mid)) :
    g.MemoSound input
      (.close keep run.context.countCall mid.context id name p mode inner) := by
  have hs : g.Sane (g.Uncut input run.context.stats.cuts)
      { run with context := run.context.countCall.enter id p } :=
    ⟨⟨Nat.le_refl _, fun _ => hsound⟩, hl⟩
  obtain ⟨-, himp⟩ := evalKeeping_truthful hg hpure _ depth hlive p mode hs h
  exact hmid.close_clean hkeep hbody fun hcuts => (himp hcuts).2

/-- An endless call is treated alike under clean policies, if the body of its rule is. -/
theorem callKeeping_abreast (hg : b.build start rules = .ok g) (hpure : g.PureActions)
    (hkeep₁ : keep₁.Clean) (hkeep₂ : keep₂.Clean) {depth : Nat} {r₁ r₂ : Run N T}
    (hget : g.arena.get? id = some (.nonTerminal name)) (hbody : g.body? name = some body)
    (hlive : g.Live body) (hend : g.Endless input id p)
    (hev : ∀ e₁ e₂ : Run N T, g.Abreast input (r₁.context.enter id p).activeAt e₁ e₂ →
      Follows True (Outcome.Rel (· = ·)) (g.Abreast input (r₁.context.enter id p).activeAt)
        (g.evalKeeping input keep₁ depth body p mode e₁)
        (g.evalKeeping input keep₂ depth body p mode e₂))
    (hS : g.Abreast input active r₁ r₂) :
    Follows True (Outcome.Rel (· = ·)) (g.Abreast input active)
      (g.callKeeping input keep₁ (g.evalKeeping input keep₁ depth) id name p mode r₁)
      (g.callKeeping input keep₂ (g.evalKeeping input keep₂ depth) id name p mode r₂) := by
  have hfind₁ := hend.find?_eq_none hpure hget hS.sound₁ mode
  have hfind₂ := hend.find?_eq_none hpure hget hS.sound₂ mode
  have hsame : r₂.context.activeAt = r₁.context.activeAt := hS.active₂.trans hS.active₁.symm
  by_cases hid : id ∈ r₁.context.activeAt p
  · rw [callKeeping_cut hfind₁ hid, callKeeping_cut hfind₂ (hsame ▸ hid)]
    exact .some (.failed p) ⟨hS.labelled₁, hS.labelled₂, hS.sound₁, hS.sound₂, hS.active₁,
      hS.active₂⟩
  · have hentered : g.Abreast input (r₁.context.enter id p).activeAt
        { r₁ with context := r₁.context.countCall.enter id p }
        { r₂ with context := r₂.context.countCall.enter id p } := by
      refine ⟨hS.labelled₁, hS.labelled₂, hS.sound₁, hS.sound₂, rfl, ?_⟩
      funext q
      simp only [Context.activeAt_enter, Context.activeAt_countCall, hsame]
    rw [callKeeping_body hfind₁ hid hbody, callKeeping_body hfind₂ (hsame ▸ hid) hbody]
    intro o r₁' ho
    split at ho
    · cases ho
    · next inner mid₁ hinner₁ =>
      rcases hev _ _ hentered hinner₁ with ⟨-, hnone⟩ | ⟨_, mid₂, hinner₂, hrel, hmid⟩
      · rw [hnone]
        exact .inl ⟨trivial, rfl⟩
      · cases hrel.eq
        rw [hinner₂]
        have hclosed : g.Abreast input active
            { mid₁ with
              context := .close keep₁ r₁.context.countCall mid₁.context id name p mode inner }
            { mid₂ with
              context := .close keep₂ r₂.context.countCall mid₂.context id name p mode inner } := by
          refine ⟨hmid.labelled₁, hmid.labelled₂, ?_, ?_, ?_, ?_⟩
          · exact memoSound_close_of_evalKeeping hg hpure hkeep₁ hbody hlive hS.labelled₁ hS.sound₁
              hmid.sound₁ hinner₁
          · exact memoSound_close_of_evalKeeping hg hpure hkeep₂ hbody hlive hS.labelled₂ hS.sound₂
              hmid.sound₂ hinner₂
          · exact Context.activeAt_close_of_entering
              (hmid.active₁.trans (Context.activeAt_entering hS.active₁ id p))
          · exact Context.activeAt_close_of_entering
              (hmid.active₂.trans (Context.activeAt_entering hS.active₁ id p))
        exact (alike_abreast hpure mode).finishCall (fun _ => rfl) id (.refl inner) hclosed ho

/-- **Clean policies evaluate alike**, if all that is in progress is endless. -/
theorem evalKeeping_abreast (hg : b.build start rules = .ok g) (hpure : g.PureActions)
    (hkeep₁ : keep₁.Clean) (hkeep₂ : keep₂.Clean) (depth : Nat) :
    ∀ ⦃active⦄, (∀ q, ∀ node ∈ active q, g.Endless input node q) → ∀ ⦃id⦄, g.Live id →
      ∀ mode p ⦃r₁ r₂⦄, g.Abreast input active r₁ r₂ →
        Follows True (Outcome.Rel (· = ·)) (g.Abreast input active)
          (g.evalKeeping input keep₁ depth id p mode r₁)
          (g.evalKeeping input keep₂ depth id p mode r₂) := by
  induction depth with
  | zero => exact fun active hactive id hid mode p r₁ r₂ hS => nofun
  | succ depth ih =>
    intro active hactive id hid mode p r₁ r₂ hS
    by_cases hcloses : ∃ enough, g.Closes input enough id p
    · obtain ⟨enough, henough⟩ := hcloses
      exact evalKeeping_abreast_of_closes hg hpure hactive hid henough hS
    · have hend : g.Endless input id p := fun enough h => hcloses ⟨enough, h⟩
      obtain ⟨operator, hget, hops, hcallee⟩ := hid.closed hg
      refine (alike_abreast hpure mode).step (fun operator' hget' o ho => ?_)
        (fun operator' hget' o ho => ?_) (fun name hname => ?_) hS
      · cases hget.symm.trans hget'
        exact ih hactive (hops o ho) mode
      · cases hget.symm.trans hget'
        exact ih hactive (hops o ho) .probing
      · cases hget.symm.trans hname
        obtain ⟨body, hbody, hlive⟩ := hcallee name rfl
        refine callKeeping_abreast hg hpure hkeep₁ hkeep₂ hget hbody hlive hend
          (fun e₁ e₂ he => ih (fun q node hnode => ?_) hlive mode p he) hS
        rw [Context.activeAt_enter, hS.active₁] at hnode
        split at hnode
        · next hq =>
          rcases List.mem_cons.1 hnode with rfl | hnode
          exacts [hq ▸ hend, hactive q node (hq ▸ hnode)]
        · exact hactive q node hnode

end Built

end Clean

/-! ## Parsing without a memo table -/

section Guarded

variable (g : Grammar K N T) (input : Array (Token K))

/-- A call of the rule `name` by the non-terminal at `id`, without a memo table. A non-terminal that
is in progress at the same position fails at once. -/
def guardedCall (ev : Evaluator N T) (id : NodeId) (name : N) (start : Nat) (mode : Mode)
    (run : Run N T) : Option (Outcome T × Run N T) :=
  let context := run.context.countCall
  if id ∈ context.activeAt start then
    some (.failed start, { run with context := context.countCut })
  else
    let entered : Run N T := { run with context := context.enter id start }
    let inner :=
      match g.body? name with
      | some body => ev body start mode entered
      | none => some (.failed start, entered)
    match inner with
    | none => none
    | some (inner, run) =>
      some (g.finishCall input id mode inner { run with context := run.context.leave id start })

variable [DecidableEq K]

/-- Evaluation without a memo table, with a bound on the depth. -/
def guardedEval : (depth : Nat) → Evaluator N T := g.evalCalling input (g.guardedCall input)

/-- The outcome of a parse from an evaluator of operators. -/
def parseBy (ev : Evaluator N T) (context : Context N T) (labels : Labels) : Outcome T :=
  match ev g.startNode 0 .consuming { context := context.reset, labels } with
  | none => .failed 0
  | some (outcome, _) => outcome.complete input.size

/-- Parses an input without a memo table. -/
def parseGuarded : Context N T → Labels → Outcome T :=
  g.parseBy input (g.guardedEval input (g.depthBound input.size))

/-- Parses an input, where `keep` says which outcomes are written down. -/
def parseKeeping (keep : Keep N T) : Context N T → Labels → Outcome T :=
  g.parseBy input (g.evalKeeping input keep (g.depthBound input.size))

/-- A parse writes every outcome down. -/
theorem parseWith_eq (context : Context N T) (labels : Labels) :
    (g.parseWith input context labels).1 =
      g.parseKeeping input (fun _ _ => true) context labels := by
  rw [parseKeeping, parseBy, parseWith, evalStart, eval_eq]
  cases g.evalKeeping input (fun _ _ => true) (g.depthBound input.size) g.startNode 0 .consuming
    { context := context.reset, labels } <;> rfl

variable {g input}

/-- A run whose memo table is empty. -/
def Blank (run : Run N T) : Prop := ∀ name p mode, run.context.memo.find? name p mode = none

omit [DecidableEq K] in
/-- Actions fire alike in equal runs, and write nothing down. -/
theorem alike_blank (mode : Mode) :
    Alike g g input (· = ·) (fun r₁ r₂ : Run N T => r₁ = r₂ ∧ Blank r₁) mode mode where
  operators _ := rfl
  default := rfl
  fire id span vs₁ vs₂ r₁ r₂ hv hS := by
    rw [List.forall₂_eq_eq_eq] at hv
    obtain ⟨rfl, hblank⟩ := hS
    subst hv
    refine ⟨rfl, rfl, ?_⟩
    rw [Blank, fire_context]
    exact hblank

/-- Where nothing is written down, a memo table that is empty might as well not be there. -/
theorem guardedCall_follows {depth : Nat} {id : NodeId} {name : N} {p : Nat} {mode : Mode}
    {run : Run N T} (hrun : Blank run)
    (hev : ∀ body ⦃r : Run N T⦄, Blank r →
      Follows False (Outcome.Rel (· = ·)) (fun r₁ r₂ => r₁ = r₂ ∧ Blank r₁)
        (g.evalKeeping input .nothing depth body p mode r)
        (g.guardedEval input depth body p mode r)) :
    Follows False (Outcome.Rel (· = ·)) (fun r₁ r₂ => r₁ = r₂ ∧ Blank r₁)
      (g.callKeeping input .nothing (g.evalKeeping input .nothing depth) id name p mode run)
      (g.guardedCall input (g.guardedEval input depth) id name p mode run) := by
  have hentered : Blank { run with context := run.context.countCall.enter id p } := hrun
  unfold callKeeping guardedCall
  simp only [Context.memo_countCall, hrun name p mode]
  split
  · exact .some (.failed p) ⟨rfl, hrun⟩
  · cases hbody : g.body? name with
    | none => exact .some (.failed p) ⟨rfl, hrun⟩
    | some body =>
      intro o r ho
      dsimp only at ho ⊢
      split at ho
      · cases ho
      · next inner mid hinner =>
        obtain ⟨_, _, hinner', hrel, rfl, hmid⟩ := (hev body hentered).exists hinner
        cases hrel.eq
        rw [hinner']
        have hleft : Blank { mid with context := mid.context.leave id p } := hmid
        exact (alike_blank mode).finishCall (fun _ => rfl) id (.refl inner) ⟨rfl, hleft⟩ ho

/-- Evaluation without a memo table follows evaluation that writes nothing down. -/
theorem guardedEval_follows (depth : Nat) : ∀ mode id p ⦃run : Run N T⦄, Blank run →
    Follows False (Outcome.Rel (· = ·)) (fun r₁ r₂ => r₁ = r₂ ∧ Blank r₁)
      (g.evalKeeping input .nothing depth id p mode run)
      (g.guardedEval input depth id p mode run) := by
  induction depth with
  | zero => exact fun mode id p run hrun => nofun
  | succ depth ih =>
    have hev : ∀ mode id p ⦃r₁ r₂ : Run N T⦄, r₁ = r₂ ∧ Blank r₁ →
        Follows False (Outcome.Rel (· = ·)) (fun r₁ r₂ => r₁ = r₂ ∧ Blank r₁)
          (g.evalKeeping input .nothing depth id p mode r₁)
          (g.guardedEval input depth id p mode r₂) := by
      rintro mode id p r₁ _ ⟨rfl, hblank⟩
      exact ih mode id p hblank
    intro mode id p run hrun
    exact (alike_blank mode).step (fun _ _ o _ => hev mode o) (fun _ _ o _ => hev .probing o)
      (fun name _ => guardedCall_follows hrun fun body => ih mode body p) ⟨rfl, hrun⟩

section Built

variable {b : Builder K N T} {start : N} {rules : List (Rule N)}

/-- A parse without a memo table has the outcome of evaluation that writes nothing down. -/
theorem parseGuarded_eq (hb : b.Made) (hg : b.build start rules = .ok g) (context : Context N T)
    (labels : Labels) :
    g.parseGuarded input context labels = g.parseKeeping input .nothing context labels := by
  obtain ⟨o, run, h⟩ := evalKeeping_start_isSome hb hg input .nothing context labels
  have hblank : Blank ({ context := context.reset, labels } : Run N T) :=
    fun name p mode => context.find?_reset p name mode
  obtain ⟨_, run', h', hrel, -⟩ :=
    (guardedEval_follows _ .consuming g.startNode 0 hblank).exists h
  cases hrel.eq
  rw [parseGuarded, parseKeeping, parseBy, parseBy, h, h']

/-- Parses under clean policies have the same outcome. -/
theorem parseKeeping_clean_eq (hb : b.Made) (hg : b.build start rules = .ok g)
    (hpure : g.PureActions) {keep₁ keep₂ : Keep N T} (hkeep₁ : keep₁.Clean) (hkeep₂ : keep₂.Clean)
    (context : Context N T) {labels : Labels} (hl : g.Labelled labels) :
    g.parseKeeping input keep₁ context labels = g.parseKeeping input keep₂ context labels := by
  obtain ⟨o₁, run₁, h₁⟩ := evalKeeping_start_isSome hb hg input keep₁ context labels
  obtain ⟨o₂, run₂, h₂⟩ := evalKeeping_start_isSome hb hg input keep₂ context labels
  have hsound := g.memoSound_reset input context
  have hactive := context.activeAt_reset
  have hS : g.Abreast input (fun _ => []) { context := context.reset, labels }
      { context := context.reset, labels } := ⟨hl, hl, hsound, hsound, hactive, hactive⟩
  rcases evalKeeping_abreast hg hpure hkeep₁ hkeep₂ _ (by simp) (.inl rfl) .consuming 0 hS h₁ with
    ⟨-, hnone⟩ | ⟨_, _, h₂', hrel, -⟩
  · rw [h₂] at hnone
    cases hnone
  · rw [h₂] at h₂'
    cases h₂'
    rw [parseKeeping, parseKeeping, parseBy, parseBy, h₁, h₂, hrel.eq]

/-- **A parse agrees with a parse without a memo table exactly if it agrees with the parse that
writes down no outcome with a refused call beneath it.** Under a policy of writing down no such
outcome, whatever else it leaves out, a parse agrees with the parse without a memo table, and so
does a parse that refuses no call. -/
theorem parseWith_eq_parseGuarded_iff (hb : b.Made) (hg : b.build start rules = .ok g)
    (hpure : g.PureActions) (input : Array (Token K)) (context : Context N T) {labels : Labels}
    (hl : g.Labelled labels) :
    (∀ keep : Keep N T, keep.Clean →
        g.parseKeeping input keep context labels = g.parseGuarded input context labels) ∧
      ((g.parseWith input context labels).2.context.stats.cuts = 0 →
        (g.parseWith input context labels).1 = g.parseGuarded input context labels) ∧
      ((g.parseWith input context labels).1 = g.parseGuarded input context labels ↔
        (g.parseWith input context labels).1 = g.parseKeeping input .uncut context labels) := by
  have hclean : ∀ keep : Keep N T, keep.Clean →
      g.parseKeeping input keep context labels = g.parseGuarded input context labels := by
    intro keep hkeep
    rw [parseGuarded_eq hb hg]
    exact parseKeeping_clean_eq hb hg hpure hkeep Keep.clean_nothing context hl
  refine ⟨hclean, fun hcuts => ?_, by rw [hclean _ Keep.clean_uncut]⟩
  obtain ⟨raw, run, hraw⟩ :=
    evalKeeping_start_isSome hb hg input (fun _ _ => true) context labels
  obtain ⟨o, run', ho⟩ := evalKeeping_start_isSome hb hg input .nothing context labels
  have hrun : (g.parseWith input context labels).2 = run := by
    simp only [parseWith, evalStart, eval_eq, hraw]
  rw [hrun] at hcuts
  have hparses := (parses_of_evalKeeping_start hg hpure hl hraw).2 hcuts
  rw [parseWith_eq, parseGuarded_eq hb hg, parseKeeping, parseKeeping, parseBy, parseBy, hraw, ho,
    (evalKeeping_start_of_parses hg hpure hl hparses ho).1]

end Built

end Guarded

/-! ## A memo table that shows -/

/-- Three rules that call one another before they pass a token. -/
def entangled : List (Char × Expr Char Char) :=
  [('S', .orderedChoice [.sequence [.nonTerminal 'A', .terminal 'q'], .nonTerminal 'B']),
   ('A', .orderedChoice [.sequence [.nonTerminal 'B', .terminal 'x'], .terminal 'w']),
   ('B', .orderedChoice [.sequence [.nonTerminal 'A', .terminal 'y'], .terminal 'z'])]

/-- The rules make a grammar. -/
theorem isSome_entangled : (ofExprs (T := Unit) {} 'S' entangled).toOption.isSome := by decide

/-- They have no action, so the parse that writes down no outcome with a refused call beneath it
needs no memo table. -/
theorem parseWith_eq_parseGuarded_iff_entangled :
    ∃ g : Grammar Char Char Unit, ofExprs {} 'S' entangled = .ok g ∧ g.PureActions ∧
      g.Labelled ∅ ∧ ∀ input : Array (Token Char),
        g.parseKeeping input .uncut {} ∅ = g.parseGuarded input {} ∅ := by
  have hg := eq_ok_of_isSome_toOption isSome_entangled
  have hregistry : ({} : Registry Char Char Unit).Pure := ⟨nofun, nofun, nofun, nofun⟩
  have hpure := ofExprs_pureActions hregistry hg
  obtain ⟨b, rules, hb, hbuild, -⟩ := ofExprs_made hg
  refine ⟨_, hg, hpure, labelled_empty _, fun input => ?_⟩
  exact (parseWith_eq_parseGuarded_iff hb hbuild hpure input {} (labelled_empty _)).1 _
    Keep.clean_uncut

/-- **The memo table can change the outcome.** Within the first alternative of `S`, the rule `B`
matches only the first token, because its call of `A` is refused a call of `B`. The second
alternative is answered with this match, where `B` alone matches all three tokens. -/
theorem exists_parseWith_ne_parseGuarded :
    ∃ (g : Grammar Char Char Unit) (input : Array (Token Char)),
      ofExprs {} 'S' entangled = .ok g ∧ input.toList.map (·.tag) = ['z', 'x', 'y'] ∧
      (g.parseWith input {} ∅).1.isMatch = false ∧ (g.parseWith input {} ∅).1.next = 1 ∧
      (g.parseGuarded input {} ∅).isMatch = true ∧ (g.parseGuarded input {} ∅).next = 3 := by
  refine ⟨_, #[⟨'z', ⟨0, 1⟩, "z"⟩, ⟨'x', ⟨1, 1⟩, "x"⟩, ⟨'y', ⟨2, 1⟩, "y"⟩],
    eq_ok_of_isSome_toOption isSome_entangled, rfl, ?_⟩
  decide +kernel

end Grammar

end Packrat
