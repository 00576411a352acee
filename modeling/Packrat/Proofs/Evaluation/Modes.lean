import Packrat.Proofs.Evaluation.Sharing

/-!
# Probing and consuming

Evaluation in one mode and in the other fills different parts of the memo table: what is known while
consuming is evaluated again beneath a predicate, and a probe uses what earlier probes have found.
The guard against left recursion is the same in both modes. So the two evaluations are not in step,
and it is the plain relation that compares them: what evaluation says in a mode without refusing a
call is derivable, a plain evaluation finds it in the one mode as soon as in the other, and
evaluation follows it there and refuses no call (`Grammar.uncut_of_uncut`).

This needs actions that see no label, which a grammar without actions has. Evaluation with actions
differs from it in the values only, so `Grammar.eval_modes_agree` holds of every grammar that has
been built.
-/

namespace Packrat.Grammar

variable {K N T : Type}

/-! ## Operators of a grammar without actions -/

/-- What is reachable stays so without the actions. -/
theorem reaches_silent {g : Grammar K N T} {root id : NodeId} (h : g.arena.Reaches root id) :
    g.silent.arena.Reaches root id := by
  induction h with
  | root => exact .root
  | operand _ hget ho ih => exact .operand ih ((g.arena.get?_silent _).trans hget) ho

/-- What takes part in parses does so without the actions. -/
theorem Live.silent {g : Grammar K N T} {id : NodeId} (h : g.Live id) : g.silent.Live id :=
  h.imp_right fun ⟨rule, hrule, hreaches⟩ => ⟨rule, hrule, reaches_silent hreaches⟩

variable [DecidableEq K] [DecidableEq N] [ToString K] [ToString N] [Inhabited T]
  {g : Grammar K N T} {input : Array (Token K)} {b : Builder K N T} {start : N}
  {rules : List (Rule N)} {id : NodeId} {p depth : Nat}

/-! ## Evaluation that refuses no call -/

/-- **Evaluation that refuses no call in one mode refuses none in another**, and the outcomes agree
but for their values, if actions see no label. -/
theorem uncut_of_uncut {keep : Keep N T} (hg : b.build start rules = .ok g)
    (hpure : g.PureActions) (hid : g.Live id) {m₁ m₂ : Mode} {labels₁ labels₂ : Labels}
    (hl₁ : g.Labelled labels₁) (hl₂ : g.Labelled labels₂) {o₁ o₂ : Outcome T} {r₁ r₂ : Run N T}
    (h₁ : g.evalKeeping input keep depth id p m₁ { labels := labels₁ } = some (o₁, r₁))
    (h₂ : g.evalKeeping input keep depth id p m₂ { labels := labels₂ } = some (o₂, r₂))
    (hcuts : r₁.context.stats.cuts = 0) :
    r₂.context.stats.cuts = 0 ∧ Outcome.Rel (fun _ _ => True) o₁ o₂ := by
  have hsane : g.Sane (g.Uncut input 0) { labels := labels₁ } :=
    ⟨⟨Nat.zero_le _, fun _ => g.memoSound_reset input {}⟩, hl₁⟩
  have hparses : g.Parses input id p m₁ o₁ :=
    ((evalKeeping_truthful hg hpure 0 depth hid p m₁ hsane h₁).2 hcuts).2
  -- A plain evaluation has the outcome in both modes.
  have hempty : g.Labelled ({} : Run N T).labels := g.labelled_empty
  obtain ⟨enough, henough⟩ := hparses.yields hpure
  obtain ⟨plain, hplain, -⟩ := henough enough (Nat.le_refl _) hempty
  obtain ⟨o, plain', hplain', hrel, -⟩ :=
    (plainEval_follows enough m₁ m₂ id p {} {}).exists hplain
  have hbeside : g.Beside input 0 (fun _ => []) {} { labels := labels₂ } :=
    ⟨hempty, hl₂, g.memoSound_reset input {}, rfl, Context.activeAt_reset {}⟩
  obtain ⟨_, run, hrun, ho, hS⟩ :=
    (evalKeeping_follows hg hpure enough (by simp) hid m₂ p hbeside).exists hplain'
  cases ho.eq
  -- Both depths give the same result.
  have hsame := evalKeeping_mono (Nat.le_max_left enough depth) hrun
  rw [evalKeeping_mono (Nat.le_max_right enough depth) h₂] at hsame
  cases hsame
  exact ⟨hS.cuts, hrel⟩

/-- The same of actions that see labels: they change the values only. -/
theorem eval_uncut_of_uncut (hg : b.build start rules = .ok g) (hid : g.Live id) {m₁ m₂ : Mode}
    {labels₁ labels₂ : Labels} {o₁ o₂ : Outcome T} {r₁ r₂ : Run N T}
    (h₁ : g.eval input depth id p m₁ { labels := labels₁ } = some (o₁, r₁))
    (h₂ : g.eval input depth id p m₂ { labels := labels₂ } = some (o₂, r₂))
    (hcuts : r₁.context.stats.cuts = 0) :
    r₂.context.stats.cuts = 0 ∧ Outcome.Rel (fun _ _ => True) o₁ o₂ := by
  rw [eval_eq] at h₁ h₂
  have hops : ∀ id, g.arena.get? id = g.silent.arena.get? id := fun id =>
    (g.arena.get?_silent id).symm
  have hbooks : ∀ labels, SameBooks ({ labels } : Run N T).context ({} : Run N Unit).context :=
    fun _ => SameBooks.reset {} {}
  obtain ⟨o₁', r₁', h₁', hrel₁, hbooks₁⟩ :=
    (evalKeeping_sameBooks hops rfl depth id p m₁ (hbooks labels₁)).exists h₁
  obtain ⟨o₂', r₂', h₂', hrel₂, hbooks₂⟩ :=
    (evalKeeping_sameBooks hops rfl depth id p m₂ (hbooks labels₂)).exists h₂
  have hcuts' : r₁'.context.stats.cuts = 0 := by rw [← hbooks₁.stats, hcuts]
  obtain ⟨hcuts₂, hrel⟩ := uncut_of_uncut (Builder.build_silent hg) g.pureActions_silent hid.silent
    (labelled_empty _) (labelled_empty _) h₁' h₂' hcuts'
  exact ⟨by rw [hbooks₂.stats, hcuts₂], (hrel₁.trans hrel).of_rel hrel₂⟩

/-! ## Predicates and their operands -/

/-- A predicate probes its operand, and matches nothing if the operand does as is wanted. -/
theorem eval_predicate {operator : Operator K N NodeId} {operand : NodeId}
    {wanted : Bool} {mode : Mode} {run run' : Run N T} {o : Outcome T}
    (hget : g.arena.get? id = some operator)
    (hoperator : operator = .andPredicate operand ∧ wanted = true ∨
      operator = .notPredicate operand ∧ wanted = false)
    (h : g.eval input (depth + 1) id p mode run = some (o, run')) :
    ∃ o', g.eval input depth operand p .probing run = some (o', run') ∧
      o = if o'.isMatch = wanted then .matchedAt p 0 default else .failed p := by
  rw [eval, step, hget] at h
  rcases hoperator with ⟨rfl, rfl⟩ | ⟨rfl, rfl⟩
  all_goals
    dsimp only at h
    split at h
    · cases h
    · next hoperand =>
      cases h
      exact ⟨_, hoperand, rfl⟩
    · next hoperand =>
      cases h
      exact ⟨_, hoperand, rfl⟩

/-- An evaluation from a fresh context ends. -/
theorem exists_eval_fresh (hb : b.Made) (hg : b.build start rules = .ok g)
    (hdepth : g.depthBound input.size ≤ depth) (hid : g.Live id) (hp : p ≤ input.size) (mode : Mode)
    (labels : Labels) : ∃ o run, g.eval input depth id p mode { labels } = some (o, run) := by
  have hbounded : Context.Bounded input.size (fun _ => [])
      ({ labels } : Run N T).context := Context.bounded_reset _ {}
  obtain ⟨o, run, h, -⟩ :=
    evalKeeping_ends_of_depthBound_le hb hg hdepth hid mode hp hbounded
  rw [eval_eq]
  exact ⟨o, run, h⟩

/-- A predicate does as its operand does while consuming, if no call is refused to the operand. -/
theorem eval_predicate_of_uncut (hb : b.Made) (hg : b.build start rules = .ok g)
    (hdepth : g.depthBound input.size ≤ depth) (hid : g.Live id) (hp : p ≤ input.size)
    {operator : Operator K N NodeId} {operand : NodeId} {wanted : Bool}
    (hget : g.arena.get? id = some operator)
    (hoperator : operator = .andPredicate operand ∧ wanted = true ∨
      operator = .notPredicate operand ∧ wanted = false)
    (mode : Mode) (labels₁ labels₂ : Labels) :
    ∃ o₁ r₁ o₂ r₂, g.eval input depth operand p .consuming { labels := labels₁ } = some (o₁, r₁) ∧
      g.eval input depth id p mode { labels := labels₂ } = some (o₂, r₂) ∧
        (r₁.context.stats.cuts = 0 → r₂.context.stats.cuts = 0 ∧
          o₂ = if o₁.isMatch = wanted then .matchedAt p 0 default else .failed p) := by
  have hlive : g.Live operand := by
    obtain ⟨operator', hget', hops, -⟩ := hid.closed hg
    cases hget.symm.trans hget'
    rcases hoperator with ⟨rfl, -⟩ | ⟨rfl, -⟩
    all_goals exact hops operand (.head _)
  obtain ⟨o₁, r₁, h₁⟩ := exists_eval_fresh hb hg hdepth hlive hp .consuming labels₁
  obtain ⟨o₂, r₂, h₂⟩ := exists_eval_fresh hb hg hdepth hid hp mode labels₂
  refine ⟨o₁, r₁, o₂, r₂, h₁, h₂, fun hcuts => ?_⟩
  obtain ⟨depth, rfl⟩ : ∃ n, depth = n + 1 := by
    cases depth with
    | zero => cases h₂
    | succ depth => exact ⟨depth, rfl⟩
  obtain ⟨o, hprobe, rfl⟩ := eval_predicate hget hoperator h₂
  rw [eval_eq] at hprobe
  have hprobe' := evalKeeping_mono (Nat.le_succ depth) hprobe
  rw [← eval_eq] at hprobe'
  obtain ⟨hcuts₂, hrel⟩ := eval_uncut_of_uncut hg hlive h₁ hprobe' hcuts
  refine ⟨hcuts₂, ?_⟩
  cases hrel <;> rfl

/-- **Probing and consuming agree.** An operator that takes part in parses is evaluated at a
position up to the end of the input, in two modes, each from a fresh context. If no call is refused
in the one, none is refused in the other, and both fail at the same place, or match the same tokens
and go on at the same place. So an and-predicate matches where its operand does, and a not-predicate
where it does not. -/
theorem eval_modes_agree (hb : b.Made) (hg : b.build start rules = .ok g) (input : Array (Token K))
    (hdepth : g.depthBound input.size ≤ depth) (hid : g.Live id) (hp : p ≤ input.size) :
    (∀ m₁ m₂ labels₁ labels₂, ∃ o₁ r₁ o₂ r₂,
      g.eval input depth id p m₁ { labels := labels₁ } = some (o₁, r₁) ∧
      g.eval input depth id p m₂ { labels := labels₂ } = some (o₂, r₂) ∧
      (r₁.context.stats.cuts = 0 →
        r₂.context.stats.cuts = 0 ∧ Outcome.Rel (fun _ _ => True) o₁ o₂)) ∧
    (∀ operand, g.arena.get? id = some (.andPredicate operand) → ∀ mode labels₁ labels₂,
      ∃ o₁ r₁ o₂ r₂, g.eval input depth operand p .consuming { labels := labels₁ } = some (o₁, r₁) ∧
        g.eval input depth id p mode { labels := labels₂ } = some (o₂, r₂) ∧
        (r₁.context.stats.cuts = 0 → r₂.context.stats.cuts = 0 ∧
          o₂ = if o₁.isMatch then .matchedAt p 0 default else .failed p)) ∧
    ∀ operand, g.arena.get? id = some (.notPredicate operand) → ∀ mode labels₁ labels₂,
      ∃ o₁ r₁ o₂ r₂, g.eval input depth operand p .consuming { labels := labels₁ } = some (o₁, r₁) ∧
        g.eval input depth id p mode { labels := labels₂ } = some (o₂, r₂) ∧
        (r₁.context.stats.cuts = 0 → r₂.context.stats.cuts = 0 ∧
          o₂ = if o₁.isMatch then .failed p else .matchedAt p 0 default) := by
  refine ⟨fun m₁ m₂ labels₁ labels₂ => ?_, fun operand hget mode labels₁ labels₂ => ?_,
    fun operand hget mode labels₁ labels₂ => ?_⟩
  · obtain ⟨o₁, r₁, h₁⟩ := exists_eval_fresh hb hg hdepth hid hp m₁ labels₁
    obtain ⟨o₂, r₂, h₂⟩ := exists_eval_fresh hb hg hdepth hid hp m₂ labels₂
    exact ⟨o₁, r₁, o₂, r₂, h₁, h₂, eval_uncut_of_uncut hg hid h₁ h₂⟩
  · exact eval_predicate_of_uncut hb hg hdepth hid hp hget (.inl ⟨rfl, rfl⟩) mode labels₁ labels₂
  · obtain ⟨o₁, r₁, o₂, r₂, h₁, h₂, hcuts⟩ :=
      eval_predicate_of_uncut hb hg hdepth hid hp hget (.inr ⟨rfl, rfl⟩) mode labels₁ labels₂
    refine ⟨o₁, r₁, o₂, r₂, h₁, h₂, fun hzero => ?_⟩
    obtain ⟨hcuts₂, rfl⟩ := hcuts hzero
    refine ⟨hcuts₂, ?_⟩
    cases o₁ <;> rfl

/-- Rules that match `a` where the rule `B` does not match. -/
def skippingRules : List (Char × Expr Char Char) :=
  [('S', .sequence [.notPredicate (.nonTerminal 'B'), .terminal 'a']), ('B', .terminal 'b')]

/-- The rules make a grammar. -/
theorem isSome_skipping : (ofExprs (T := Unit) {} 'S' skippingRules).toOption.isSome := by decide

/-- The grammar of the rules. -/
def skipping : Grammar Char Char Unit := Option.get _ isSome_skipping

/-- On the input `a`, the call of the rule `B` does not match and is not refused, so the
not-predicate matches in both modes. -/
theorem eval_modes_agree_skipping :
    skipping.arena.get? ⟨0, 1⟩ = some (.notPredicate ⟨0, 0⟩) ∧ skipping.Live ⟨0, 1⟩ ∧
      ∀ mode, ∃ run, skipping.eval #[⟨'a', ⟨0, 1⟩, "a"⟩] (skipping.depthBound 1) ⟨0, 1⟩ 0 mode {} =
        some (.matchedAt 0 0 (), run) ∧ run.context.stats.cuts = 0 := by
  obtain ⟨b, rules, hb, hbuild, -⟩ := ofExprs_made (eq_ok_of_isSome_toOption isSome_skipping)
  have hget : skipping.arena.get? ⟨0, 1⟩ = some (.notPredicate ⟨0, 0⟩) := by decide
  have hlive : skipping.Live ⟨0, 1⟩ := by
    obtain ⟨_, hstart, -, hcallee⟩ := Live.closed hbuild (.inl rfl)
    cases (get?_startNode hbuild).symm.trans hstart
    obtain ⟨body, hbody, hbodyLive⟩ := hcallee 'S' rfl
    have hbody' : skipping.body? 'S' = some ⟨0, 3⟩ := by decide
    cases hbody'.symm.trans hbody
    obtain ⟨_, hsequence, hoperands, -⟩ := hbodyLive.closed hbuild
    have hsequence' : skipping.arena.get? ⟨0, 3⟩ = some (.sequence [⟨0, 1⟩, ⟨0, 2⟩]) := by decide
    cases hsequence'.symm.trans hsequence
    exact hoperands _ (.head _)
  have hfails : (skipping.eval #[⟨'a', ⟨0, 1⟩, "a"⟩] (skipping.depthBound 1) ⟨0, 0⟩ 0 .consuming
      {}).map (fun x => (x.1.isMatch, x.2.context.stats.cuts)) = some (false, 0) := by
    decide +kernel
  refine ⟨hget, hlive, fun mode => ?_⟩
  obtain ⟨-, -, hnot⟩ :=
    eval_modes_agree hb hbuild #[⟨'a', ⟨0, 1⟩, "a"⟩] (Nat.le_refl _) hlive (Nat.zero_le _)
  obtain ⟨o₁, r₁, o₂, r₂, h₁, h₂, hcuts⟩ := hnot _ hget mode ∅ ∅
  have hnone : (o₁.isMatch, r₁.context.stats.cuts) = (false, 0) := by
    have hmap := congrArg (Option.map fun x => (x.1.isMatch, x.2.context.stats.cuts)) h₁
    exact (Option.some.inj (hfails.symm.trans hmap)).symm
  obtain ⟨hmatch, hzero⟩ := Prod.mk.inj hnone
  obtain ⟨hcuts₂, ho⟩ := hcuts hzero
  rw [hmatch] at ho
  exact ⟨r₂, h₂.trans (by rw [ho]; rfl), hcuts₂⟩

end Packrat.Grammar
