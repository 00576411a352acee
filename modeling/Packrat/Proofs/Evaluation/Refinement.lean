import Packrat.Proofs.Evaluation.Adequacy
import Packrat.Proofs.Evaluation.Calls
import Packrat.Proofs.Evaluation.Termination

/-!
# Evaluation and the plain relation

The books of a parse show in its outcome only if a call is refused. A memo table is sound
(`Grammar.MemoSound`) if it has derivable outcomes only. As long as no call is refused it stays so,
and evaluation says what is derivable (`Grammar.evalKeeping_truthful`).

Conversely no call is refused on the way to a derivable outcome (`Grammar.evalKeeping_follows`). The
depth that a plain evaluation needs is what rules it out: everything in progress needs more depth
than what is evaluated within, so a call of something in progress would need more depth than itself.
The mode has no part in it, since the depth is the same in both modes.

`Grammar.parseWith_refines` puts both together for whole parses.
-/

namespace Packrat.Grammar

variable {K N T : Type} [DecidableEq N] [ToString K] [ToString N] [Inhabited T]

/-- Every outcome in the memo table is derivable for the body of its rule. -/
def MemoSound (g : Grammar K N T) (input : Array (Token K)) (c : Context N T) : Prop :=
  ∀ ⦃name p mode o⦄, c.memo.find? name p mode = some o →
    ∃ body, g.body? name = some body ∧ g.Parses input body p mode o

variable {g : Grammar K N T} {input : Array (Token K)} {keep : Keep N T} {id body : NodeId}
  {name : N} {p : Nat} {mode : Mode}

/-- The memo table stays sound if a derivable outcome is written down, or none is. -/
theorem MemoSound.close {before after : Context N T} {o : Outcome T} (h : g.MemoSound input after)
    (hbody : g.body? name = some body) (ho : g.Parses input body p mode o) :
    g.MemoSound input (.close keep before after id name p mode o) := by
  intro name' p' mode' o' hfind
  rcases Context.find?_close hfind with hold | ⟨-, rfl, rfl, rfl, rfl⟩
  exacts [h hold, ⟨body, hbody, ho⟩]

/-- The memo table is empty at first. -/
theorem memoSound_reset (g : Grammar K N T) (input : Array (Token K)) (c : Context N T) :
    g.MemoSound input c.reset :=
  fun name p mode o h => by simp at h

/-! ## What evaluation says is derivable -/

/-- The books of a parse that had refused `cuts` calls: there are no fewer now, and if there are no
more, the memo table is sound. -/
def Uncut (g : Grammar K N T) (input : Array (Token K)) (cuts : Nat) (c : Context N T) : Prop :=
  cuts ≤ c.stats.cuts ∧ (c.stats.cuts = cuts → g.MemoSound input c)

/-- A call says what its rule says, if no call is refused. -/
theorem callKeeping_truthful {ev : Evaluator N T} {run : Run N T} {cuts : Nat}
    (hpure : g.PureActions) (hget : g.arena.get? id = some (.nonTerminal name))
    (hbody : g.body? name = some body)
    (hev : ∀ ⦃run⦄, g.Sane (g.Uncut input cuts) run →
      g.Truthful (g.Uncut input cuts) (·.stats.cuts = cuts) (g.Parses input body p mode) run
        (ev body p mode run))
    (hs : g.Sane (g.Uncut input cuts) run) :
    g.Truthful (g.Uncut input cuts) (·.stats.cuts = cuts) (g.Parses input id p mode) run
      (g.callKeeping input keep ev id name p mode run) := by
  obtain ⟨⟨hle, hsound⟩, hl⟩ := hs
  cases hfind : run.context.memo.find? name p mode with
  | some hit =>
    rw [callKeeping_hit hfind]
    refine finishCall_truthful hpure hget hbody ⟨⟨hle, hsound⟩, hl⟩ fun hR => ⟨hR, ?_⟩
    obtain ⟨body', hbody', ho⟩ := hsound hR hfind
    rw [hbody] at hbody'
    cases hbody'
    exact ho
  | none =>
    by_cases hid : id ∈ run.context.activeAt p
    · rw [callKeeping_cut hfind hid]
      -- One call more is refused, so there cannot be as many as before.
      have hmore : run.context.countCall.countCut.stats.cuts ≠ cuts := by
        rw [Context.cuts_countCut, Context.cuts_countCall]
        omega
      exact .result ⟨⟨Nat.le_succ_of_le hle, fun h => absurd h hmore⟩, hl⟩
        fun hR => absurd hR hmore
    · rw [callKeeping_body hfind hid hbody]
      split
      · exact .nothing
      · next inner mid hinner =>
        have hentered : g.Sane (g.Uncut input cuts)
            { run with context := run.context.countCall.enter id p } := ⟨⟨hle, hsound⟩, hl⟩
        obtain ⟨⟨⟨hle', hsound'⟩, hl'⟩, himp⟩ := hev hentered hinner
        refine finishCall_truthful hpure hget hbody ⟨⟨?_, fun hR => ?_⟩, hl'⟩ fun hR => ?_
        · rw [Context.cuts_close]
          exact hle'
        · rw [Context.cuts_close] at hR
          exact (hsound' hR).close hbody (himp hR).2
        · rw [Context.cuts_close] at hR
          exact himp hR

variable [DecidableEq K]

section Built

variable {b : Builder K N T} {start : N} {rules : List (Rule N)}

/-- **What evaluation says without refusing a call is derivable.** -/
theorem evalKeeping_truthful (hg : b.build start rules = .ok g) (hpure : g.PureActions)
    (cuts depth : Nat) : ∀ ⦃id⦄, g.Live id → ∀ p mode ⦃run⦄, g.Sane (g.Uncut input cuts) run →
      g.Truthful (g.Uncut input cuts) (·.stats.cuts = cuts) (g.Parses input id p mode) run
        (g.evalKeeping input keep depth id p mode run) := by
  induction depth with
  | zero => exact fun id hid p mode run hs => .nothing
  | succ depth ih =>
    intro id hid p mode run hs
    obtain ⟨operator, hget, hops, hcallee⟩ := hid.closed hg
    refine step_truthful hpure hget (fun o ho => ih (hops o ho)) hs fun name hname => ?_
    subst hname
    obtain ⟨body, hbody, hlive⟩ := hcallee name rfl
    exact callKeeping_truthful hpure hget hbody (ih hlive p mode) hs

end Built

/-! ## What is derivable evaluation finds -/

/-- A plain run beside a run whose books have `active` in progress and `cuts` calls refused, and a
sound memo table. -/
structure Beside (g : Grammar K N T) (input : Array (Token K)) (cuts : Nat)
    (active : Nat → List NodeId) (plain run : Run N T) : Prop where
  plainLabelled : g.Labelled plain.labels
  labelled : g.Labelled run.labels
  sound : g.MemoSound input run.context
  cuts : run.context.stats.cuts = cuts
  active : run.context.activeAt = active

variable {cuts : Nat} {active : Nat → List NodeId}

omit [DecidableEq K] in
/-- Actions fire alike in both runs. -/
theorem alike_beside (hpure : g.PureActions) (mode : Mode) :
    Alike g g input (· = ·) (g.Beside input cuts active) mode mode where
  operators _ := rfl
  default := rfl
  fire id span vs₁ vs₂ r₁ r₂ hv hS := by
    rw [List.forall₂_eq_eq_eq] at hv
    subst hv
    refine ⟨?_, fire_labelled hS.plainLabelled, fire_labelled hS.labelled, ?_, ?_, ?_⟩
    · rw [fire_value hpure hS.plainLabelled, fire_value hpure hS.labelled]
    · rw [fire_context]
      exact hS.sound
    · rw [fire_context]
      exact hS.cuts
    · rw [fire_context]
      exact hS.active

section Built

variable {b : Builder K N T} {start : N} {rules : List (Rule N)}

/-- A call follows a plain call that has a result, if the body does once the call is in progress;
the non-terminal is not in progress, for its own depth is not enough for it. -/
theorem callKeeping_follows (hg : b.build start rules = .ok g) (hpure : g.PureActions)
    {depth : Nat} {plain run : Run N T} (hget : g.arena.get? id = some (.nonTerminal name))
    (hbody : g.body? name = some body) (hlive : g.Live body)
    (hactive : ∀ q, ∀ node ∈ active q, ¬ g.Closes input (depth + 1) node q)
    (hev : ∀ r₂ : Run N T, g.Beside input cuts (run.context.enter id p).activeAt plain r₂ →
      Follows False (Outcome.Rel (· = ·))
        (g.Beside input cuts (run.context.enter id p).activeAt)
        (g.plainEval input depth body p mode plain) (g.evalKeeping input keep depth body p mode r₂))
    (hS : g.Beside input cuts active plain run) :
    Follows False (Outcome.Rel (· = ·)) (g.Beside input cuts active)
      (g.plainCall input (g.plainEval input depth) id name p mode plain)
      (g.callKeeping input keep (g.evalKeeping input keep depth) id name p mode run) := by
  intro o plain' ho
  have hcloses : g.Closes input (depth + 1) id p := by
    have heval : g.plainEval input (depth + 1) id p mode plain = some (o, plain') := by
      rw [plainEval_succ, step, hget]
      exact ho
    exact closes_of_plainEval heval
  rw [plainCall, hbody] at ho
  dsimp only at ho
  split at ho
  · cases ho
  · next inner mid hinner =>
    obtain ⟨⟨-, hmid⟩, hderived⟩ :=
      plainEval_truthful hg hpure depth hlive p mode ⟨trivial, hS.plainLabelled⟩ hinner
    have hparses := (hderived trivial).2
    cases hfind : run.context.memo.find? name p mode with
    | some hit =>
      obtain ⟨body', hbody', hhit⟩ := hS.sound hfind
      rw [hbody] at hbody'
      cases hbody'
      have hsame := hhit.eq_of_plainEval hpure hS.plainLabelled hinner
      subst hsame
      rw [callKeeping_hit hfind]
      have hhits : g.Beside input cuts active mid
          { run with context := run.context.countCall.countHit } :=
        ⟨hmid, hS.labelled, hS.sound, hS.cuts, hS.active⟩
      exact (alike_beside hpure mode).finishCall (fun _ => rfl) id (.refl _) hhits ho
    | none =>
      have hid : id ∉ run.context.activeAt p := by
        rw [hS.active]
        exact fun hid => hactive p id hid hcloses
      obtain ⟨_, run', hinner', hrel, hS'⟩ := (hev
        { run with context := run.context.countCall.enter id p }
        ⟨hS.plainLabelled, hS.labelled, hS.sound, hS.cuts, rfl⟩).exists hinner
      cases hrel.eq
      rw [callKeeping_body hfind hid hbody, hinner']
      have hclosed : g.Beside input cuts active mid { run' with
          context := .close keep run.context.countCall run'.context id name p mode inner } := by
        refine ⟨hmid, hS'.labelled, hS'.sound.close hbody hparses, ?_, ?_⟩
        · rw [Context.cuts_close]
          exact hS'.cuts
        · exact Context.activeAt_close_of_entering
            (hS'.active.trans (Context.activeAt_entering hS.active id p))
      exact (alike_beside hpure mode).finishCall (fun _ => rfl) id (.refl _) hclosed ho

/-- **Evaluation follows a plain evaluation and refuses no call**, if no smaller depth is enough for
what is in progress. -/
theorem evalKeeping_follows (hg : b.build start rules = .ok g) (hpure : g.PureActions)
    (depth : Nat) : ∀ ⦃active⦄, (∀ q, ∀ node ∈ active q, ¬ g.Closes input depth node q) →
      ∀ ⦃id⦄, g.Live id → ∀ mode p ⦃plain run⦄, g.Beside input cuts active plain run →
        Follows False (Outcome.Rel (· = ·)) (g.Beside input cuts active)
          (g.plainEval input depth id p mode plain)
          (g.evalKeeping input keep depth id p mode run) := by
  induction depth with
  | zero => exact fun active hactive id hid mode p plain run hS => nofun
  | succ depth ih =>
    intro active hactive id hid mode p plain run hS
    have hbelow : ∀ q, ∀ node ∈ active q, ¬ g.Closes input depth node q :=
      fun q node hnode hcloses => hactive q node hnode (hcloses.mono (Nat.le_succ depth))
    by_cases hcloses : g.Closes input depth id p
    · -- A smaller depth is enough, and more changes nothing.
      intro o plain' ho
      obtain ⟨x, hx⟩ := Option.isSome_iff_exists.1 (hcloses mode plain)
      have hsame := plainEval_mono (Nat.le_succ depth) hx
      rw [ho] at hsame
      cases hsame
      obtain ⟨o', run', hrun, hrel, hS'⟩ := (ih hbelow hid mode p hS).exists hx
      exact .inr ⟨o', run', evalKeeping_mono (Nat.le_succ depth) hrun, hrel, hS'⟩
    · obtain ⟨operator, hget, hops, hcallee⟩ := hid.closed hg
      refine (alike_beside hpure mode).step (fun operator' hget' o ho => ?_)
        (fun operator' hget' o ho => ?_) (fun name hname => ?_) hS
      · cases hget.symm.trans hget'
        exact ih hbelow (hops o ho) mode
      · cases hget.symm.trans hget'
        exact ih hbelow (hops o ho) .probing
      · cases hget.symm.trans hname
        obtain ⟨body, hbody, hlive⟩ := hcallee name rfl
        refine callKeeping_follows hg hpure hget hbody hlive hactive (fun r₂ hr₂ => ?_) hS
        refine ih (fun q node hnode => ?_) hlive mode p hr₂
        rw [Context.activeAt_enter, hS.active] at hnode
        split at hnode
        · next hq =>
          rcases List.mem_cons.1 hnode with rfl | hnode
          exacts [hq ▸ hcloses, hbelow q node (hq ▸ hnode)]
        · exact hbelow q node hnode

/-- A parse finds a derivable outcome of the start node, and refuses no call. -/
theorem evalKeeping_start_of_parses (hg : b.build start rules = .ok g) (hpure : g.PureActions)
    {context : Context N T} {labels : Labels} (hl : g.Labelled labels) {depth : Nat}
    {o raw : Outcome T} {run : Run N T} (ho : g.Parses input g.startNode 0 .consuming o)
    (h : g.evalKeeping input keep depth g.startNode 0 .consuming
      { context := context.reset, labels } = some (raw, run)) :
    raw = o ∧ run.context.stats.cuts = 0 := by
  obtain ⟨enough, henough⟩ := ho.yields hpure
  have hplain : g.Labelled ({} : Run N T).labels := g.labelled_empty
  obtain ⟨plain, ho', -⟩ := henough enough (Nat.le_refl _) hplain
  have hS : g.Beside input 0 (fun _ => []) {} { context := context.reset, labels } :=
    ⟨hplain, hl, g.memoSound_reset input context, rfl, context.activeAt_reset⟩
  obtain ⟨_, run', hrun, hrel, hS'⟩ :=
    (evalKeeping_follows hg hpure enough (by simp) (.inl rfl) .consuming 0 hS).exists ho'
  -- Both depths give the same result.
  have hsame := evalKeeping_mono (Nat.le_max_left enough depth) hrun
  rw [evalKeeping_mono (Nat.le_max_right enough depth) h] at hsame
  cases hsame
  exact ⟨hrel.eq.symm, hS'.cuts⟩

/-- What a parse says without refusing a call is derivable. -/
theorem parses_of_evalKeeping_start (hg : b.build start rules = .ok g) (hpure : g.PureActions)
    {context : Context N T} {labels : Labels} (hl : g.Labelled labels) {depth : Nat}
    {raw : Outcome T} {run : Run N T}
    (h : g.evalKeeping input keep depth g.startNode 0 .consuming
      { context := context.reset, labels } = some (raw, run)) :
    g.Labelled run.labels ∧
      (run.context.stats.cuts = 0 → g.Parses input g.startNode 0 .consuming raw) := by
  have hs : g.Sane (g.Uncut input 0) { context := context.reset, labels } :=
    ⟨⟨Nat.zero_le _, fun _ => g.memoSound_reset input context⟩, hl⟩
  obtain ⟨⟨-, hl'⟩, himp⟩ := evalKeeping_truthful hg hpure 0 depth (.inl rfl) 0 .consuming hs h
  exact ⟨hl', fun hcuts => (himp hcuts).2⟩

/-- A parse returns what is derivable for the start node, but for matches that leave tokens over. -/
theorem parseWith_of_parses (hb : b.Made) (hg : b.build start rules = .ok g)
    (hpure : g.PureActions) (context : Context N T) {labels : Labels} (hl : g.Labelled labels)
    {o : Outcome T} (ho : g.Parses input g.startNode 0 .consuming o) :
    (g.parseWith input context labels).1 = o.complete input.size := by
  obtain ⟨raw, run, hraw⟩ :=
    evalKeeping_start_isSome hb hg input (fun _ _ => true) context labels
  cases (evalKeeping_start_of_parses hg hpure hl ho hraw).1
  rw [← eval_eq] at hraw
  simp only [parseWith, evalStart, hraw]

/-- **A parse refuses no call exactly if the plain relation has an outcome for the start node, and
then evaluation ends with this outcome.** The parse returns it as it is, unless it is a match that
leaves tokens over; that fails where they begin. -/
theorem parseWith_refines (hb : b.Made) (hg : b.build start rules = .ok g)
    (hpure : g.PureActions) (input : Array (Token K)) (context : Context N T) {labels : Labels}
    (hl : g.Labelled labels) :
    ∃ raw run, g.evalStart input { context := context.reset, labels } = some (raw, run) ∧
      (g.parseWith input context labels).2 = run ∧ g.Labelled run.labels ∧
      (run.context.stats.cuts = 0 ↔ ∃ o, g.Parses input g.startNode 0 .consuming o) ∧
      ∀ o, g.Parses input g.startNode 0 .consuming o → raw = o ∧
        (∀ next span value, o = .matched next span value → next ≠ input.size →
          (g.parseWith input context labels).1 = .failed next) ∧
        ((∀ next span value, o = .matched next span value → next = input.size) →
          (g.parseWith input context labels).1 = o) := by
  obtain ⟨raw, run, hraw⟩ :=
    evalKeeping_start_isSome hb hg input (fun _ _ => true) context labels
  obtain ⟨hl', hderived⟩ := parses_of_evalKeeping_start hg hpure hl hraw
  have hfound := fun {o} (ho : g.Parses input g.startNode 0 .consuming o) =>
    evalKeeping_start_of_parses hg hpure hl ho hraw
  have hstart : g.evalStart input { context := context.reset, labels } = some (raw, run) := by
    rw [evalStart, eval_eq]
    exact hraw
  have hparse : g.parseWith input context labels = (raw.complete input.size, run) := by
    simp only [parseWith, hstart]
  rw [hparse]
  refine ⟨raw, run, hstart, rfl, hl', ⟨fun hcuts => ⟨raw, hderived hcuts⟩, ?_⟩, fun o ho => ?_⟩
  · rintro ⟨o, ho⟩
    exact (hfound ho).2
  cases (hfound ho).1
  refine ⟨rfl, ?_, fun hall => ?_⟩
  · rintro next span value rfl hne
    exact if_neg hne
  · cases raw with
    | failed position => rfl
    | matched next span value => exact if_pos (hall next span value rfl)

end Built

/-- The registry that makes texts of nodes. -/
def nodeTexts : Registry Char Char String where
  passthrough := some (Action.passthrough fun node => node.peg ++ node.text)

/-- It has pure actions only. -/
theorem pure_nodeTexts : nodeTexts.Pure := by
  refine ⟨nofun, nofun, nofun, fun action haction kind => ?_⟩
  cases haction
  exact Action.pure_passthrough _ _

/-- The rules `S => [a] S | [a]` make a grammar with pure actions, so all of this holds for it. -/
theorem parseWith_refines_rightRecursive :
    ∃ g : Grammar Char Char String,
      ofExprs nodeTexts 'S' [('S', .orderedChoice [.sequence [.terminal 'a', .nonTerminal 'S'],
        .terminal 'a'])] = .ok g ∧ g.PureActions ∧ g.Labelled ∅ ∧
      ∀ input : Array (Token Char), ∃ raw run, g.evalStart input {} = some (raw, run) ∧
        (g.parseWith input {} ∅).2 = run ∧ g.Labelled run.labels ∧
        (run.context.stats.cuts = 0 ↔ ∃ o, g.Parses input g.startNode 0 .consuming o) := by
  have hok : (ofExprs nodeTexts 'S' [('S', .orderedChoice [.sequence [.terminal 'a',
      .nonTerminal 'S'], .terminal 'a'])]).toOption.isSome := by decide
  have hg := eq_ok_of_isSome_toOption hok
  have hpure := ofExprs_pureActions pure_nodeTexts hg
  obtain ⟨b, rules, hb, hbuild, -⟩ := ofExprs_made hg
  refine ⟨_, hg, hpure, labelled_empty _, fun input => ?_⟩
  obtain ⟨raw, run, hstart, hparse, hlabels, hcuts, -⟩ :=
    parseWith_refines hb hbuild hpure input {} (labelled_empty _)
  exact ⟨raw, run, hstart, hparse, hlabels, hcuts⟩

end Packrat.Grammar
