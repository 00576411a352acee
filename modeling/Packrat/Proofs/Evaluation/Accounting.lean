import Mathlib.Algebra.BigOperators.Group.Finset.Basic
import Mathlib.Algebra.BigOperators.Group.Finset.Piecewise
import Packrat.Proofs.Evaluation.Sharing
import Packrat.Proofs.Evaluation.Trials
import Packrat.Proofs.MemoTable

/-!
# What a parse costs

Every call of a rule is counted, and each is answered from the memo table, is refused, or evaluates
the body of the rule and writes the outcome down. While a parse goes on there are calls in progress
as well: the books (`Context.Ledger`) count them at every position, and every step of a parse keeps
them in order.

That gives a bound only. A rule could be called again through another node while its body is
evaluated, and the outcome of the inner call would be overwritten by that of the outer one.
`Grammar.evalOnce` is evaluation that gives up where this happens, and where a call would be
refused. It has the result of evaluation if no call is refused (`Grammar.evalOnce_follows`): each
operator is evaluated at the least depth at which it has a result, and the body of a rule in
progress would need less depth than the rule has (`Grammar.Ahead`). So an evaluation never contains
itself, and the books balance (`Grammar.Balanced`).

`Grammar.parseWith_accounts` puts both together for whole parses.
-/

namespace Packrat

variable {K N T : Type}

/-! ## Calls and entries -/

/-- The number of calls in progress at the positions up to `n`. -/
def pendingCalls (n : Nat) (active : Nat → List NodeId) : Nat :=
  ∑ p ∈ Finset.range (n + 1), (active p).length

/-- Entering a non-terminal puts one call more in progress. -/
theorem pendingCalls_entering {n p : Nat} (active : Nat → List NodeId) (id : NodeId) (hp : p ≤ n) :
    pendingCalls n (entering active id p) = pendingCalls n active + 1 := by
  have hlength : ∀ q, (entering active id p q).length =
      (active q).length + if q = p then 1 else 0 := by
    intro q
    rw [entering]
    split
    · next hq => rw [List.length_cons, hq]
    · rfl
  have hmem : p ∈ Finset.range (n + 1) := Finset.mem_range.2 (Nat.lt_succ_of_le hp)
  simp only [pendingCalls, hlength, Finset.sum_add_distrib, Finset.sum_ite_eq', hmem, if_true]

/-- The books of a parse of `n` tokens are in order: every call is in progress, was answered from
the memo table, was refused, or has written an entry, and every entry has a key of its own. -/
structure Context.Ledger (n : Nat) (active : Nat → List NodeId) (c : Context N T) : Prop where
  balance : pendingCalls n active + c.stats.memoHits + c.stats.cuts + c.memo.size ≤
    c.stats.ruleCalls
  nodup : c.memo.keys.Nodup

/-- The books of a parse that has just begun are in order. -/
theorem Context.ledger_reset (n : Nat) (c : Context N T) : c.reset.Ledger n fun _ => [] where
  balance := by simp [pendingCalls, reset]
  nodup := by simp [reset]

namespace Grammar

variable [DecidableEq N] [ToString K] [ToString N] [Inhabited T]

/-- **The books stay in order.** -/
theorem invariant_ledger (g : Grammar K N T) (input : Array (Token K)) (keep : Keep N T) :
    g.Invariant input keep fun active run => run.context.Ledger input.size active where
  fire active := fun id span values mode run _ h => by
    show (g.fire input id span values mode run).2.context.Ledger input.size active
    rw [fire_context]
    exact h
  hit active run h := by
    refine ⟨?_, h.nodup⟩
    have hbalance := h.balance
    simp only [Context.countHit, Context.countCall]
    omega
  cut active run h := by
    refine ⟨?_, h.nodup⟩
    have hbalance := h.balance
    simp only [Context.countCut, Context.countCall]
    omega
  enter active run id p h hp := by
    refine ⟨?_, h.nodup⟩
    have hbalance := h.balance
    rw [pendingCalls_entering active id hp]
    simp only [Context.enter, Context.countCall]
    omega
  close active run id p name body mode o before h hp _ _ := by
    have hbalance := h.balance
    rw [pendingCalls_entering active id hp] at hbalance
    refine ⟨?_, ?_⟩ <;> rw [Context.memo_close]
    · have hsize := run.context.memo.size_insert_le name p mode o
      rw [Context.stats_close]
      split <;> omega
    · split
      · exact Memo.nodup_keys_insert h.nodup o
      · exact h.nodup

/-! ## Evaluation that writes every entry once -/

section Once

variable (g : Grammar K N T) (input : Array (Token K))

/-- An evaluator of the body of a rule that gives up if an outcome of the rule has been written down
by the end of the body. -/
def fresh (name : N) (ev : Evaluator N T) : Evaluator N T := fun body p mode run =>
  (ev body p mode run).filter fun x => (x.2.context.memo.find? name p mode).isNone

/-- A call that gives up where it would be refused, and where it would overwrite an entry. -/
def callOnce (ev : Evaluator N T) : CallRule N T := fun id name start mode run =>
  if (run.context.memo.find? name start mode).isNone ∧ id ∈ run.context.activeAt start then none
  else g.call input (fresh name ev) id name start mode run

variable [DecidableEq K]

/-- Evaluation that refuses no call and writes every entry once, with a bound on the depth. -/
def evalOnce : (depth : Nat) → Evaluator N T := g.evalCalling input (g.callOnce input)

variable {g input} {ev ev₁ ev₂ : Evaluator N T} {id body : NodeId} {name : N} {start : Nat}
  {mode : Mode} {run mid : Run N T}

omit [ToString K] [ToString N] [Inhabited T] [DecidableEq K] in
theorem fresh_below (hev : Below ev₁ ev₂) : Below (fresh name ev₁) ev₂ := by
  intro id p mode run x hx
  exact hev (Option.filter_eq_some_iff.1 hx).1

omit [ToString K] [ToString N] [Inhabited T] [DecidableEq K] in
theorem fresh_mono (hev : Below ev₁ ev₂) : Below (fresh name ev₁) (fresh name ev₂) := by
  intro id p mode run x hx
  obtain ⟨hx, hnone⟩ := Option.filter_eq_some_iff.1 hx
  exact Option.filter_eq_some_iff.2 ⟨hev hx, hnone⟩

omit [DecidableEq K] in
/-- A call finds more if bodies are found more often. -/
theorem monotoneCalls_callOnce : MonotoneCalls (g.callOnce input) := by
  intro ev₁ ev₂ hev id name p mode run x hx
  unfold callOnce at hx ⊢
  split at hx
  · cases hx
  · next hgo =>
    rw [if_neg hgo]
    have hcall : MonotoneCalls (g.callKeeping input fun _ _ => true) := monotoneCalls_callKeeping
    exact hcall (fresh_mono hev) hx

omit [DecidableEq K] in
/-- What such a call finds, a call finds. -/
theorem callOnce_below (hev : Below ev₁ ev₂) {x : Outcome T × Run N T}
    (hx : g.callOnce input ev₁ id name start mode run = some x) :
    g.callKeeping input (fun _ _ => true) ev₂ id name start mode run = some x := by
  have hcall : MonotoneCalls (g.callKeeping input fun _ _ => true) := monotoneCalls_callKeeping
  unfold callOnce at hx
  split at hx
  · cases hx
  · exact hcall (fresh_below hev) hx

/-- What such an evaluation finds, evaluation finds. -/
theorem evalOnce_below (depth : Nat) :
    Below (g.evalOnce input depth) (g.evalKeeping input (fun _ _ => true) depth) := by
  have hcall : ∀ ⦃ev₁ ev₂ : Evaluator N T⦄, Below ev₁ ev₂ → ∀ ⦃id name p mode run x⦄,
      g.callOnce input ev₁ id name p mode run = some x →
        g.callKeeping input (fun _ _ => true) ev₂ id name p mode run = some x :=
    fun _ _ hev _ _ _ _ _ _ hx => callOnce_below hev hx
  exact evalCalling_below hcall depth

omit [DecidableEq K] in
/-- A call whose outcome is known. -/
theorem callOnce_hit {hit : Outcome T} (h : run.context.memo.find? name start mode = some hit) :
    g.callOnce input ev id name start mode run =
      some (g.finishCall input id mode hit
        { run with context := run.context.countCall.countHit }) := by
  rw [callOnce, h, if_neg (by simp)]
  show g.callKeeping input (fun _ _ => true) (fresh name ev) id name start mode run = _
  rw [callKeeping_hit h]

omit [DecidableEq K] in
/-- A call that evaluates the body of its rule, and writes its first outcome down. -/
theorem callOnce_body {inner : Outcome T} (h : run.context.memo.find? name start mode = none)
    (hid : id ∉ run.context.activeAt start) (hbody : g.body? name = some body)
    (hinner : ev body start mode { run with context := run.context.countCall.enter id start } =
      some (inner, mid))
    (hfresh : mid.context.memo.find? name start mode = none) :
    g.callOnce input ev id name start mode run =
      some (g.finishCall input id mode inner { mid with
        context := .close (fun _ _ => true) run.context.countCall mid.context id name start mode
          inner }) := by
  have hinner' : fresh name ev body start mode
      { run with context := run.context.countCall.enter id start } = some (inner, mid) := by
    rw [fresh, hinner, Option.filter_some, hfresh]
    rfl
  rw [callOnce, if_neg fun hcut => hid hcut.2]
  show g.callKeeping input (fun _ _ => true) (fresh name ev) id name start mode run = _
  rw [callKeeping_body h hid hbody, hinner']

end Once

end Grammar

/-! ## Calls in progress -/

/-- A call that evaluates the body of a rule. -/
structure Call (N : Type) where
  node : NodeId
  name : N
  position : Nat
  mode : Mode

/-- What is in progress within some calls, the innermost first. -/
def inProgress : List (Call N) → Nat → List NodeId
  | [] => fun _ => []
  | call :: calls => entering (inProgress calls) call.node call.position

theorem exists_call_of_mem_inProgress {calls : List (Call N)} {id : NodeId} {p : Nat}
    (h : id ∈ inProgress calls p) : ∃ call ∈ calls, call.node = id ∧ call.position = p := by
  induction calls with
  | nil => cases h
  | cons call calls ih =>
    rw [inProgress, entering] at h
    split at h
    · next hp =>
      subst hp
      rcases List.mem_cons.1 h with rfl | h
      · exact ⟨call, List.mem_cons_self, rfl, rfl⟩
      · obtain ⟨other, hother, hcall⟩ := ih h
        exact ⟨other, List.mem_cons_of_mem _ hother, hcall⟩
    · obtain ⟨other, hother, hcall⟩ := ih h
      exact ⟨other, List.mem_cons_of_mem _ hother, hcall⟩

namespace Grammar

variable [DecidableEq K] [DecidableEq N] [ToString K] [ToString N] [Inhabited T]

/-- At this depth everything that is evaluated is within the calls: each of them needs more depth
for the body of its rule. -/
structure Ahead (g : Grammar K N T) (input : Array (Token K)) (depth : Nat)
    (calls : List (Call N)) : Prop where
  caller : ∀ call ∈ calls, g.arena.get? call.node = some (.nonTerminal call.name)
  slow : ∀ call ∈ calls, ∀ body, g.body? call.name = some body →
    ∀ less < depth, ¬ g.silent.Closes input less body call.position

/-- A run within calls, beside a plain one without actions. Every outcome in the memo table is that
of a plain evaluation, nothing is known yet of the calls, and every other call was answered from the
memo table or has written an entry. -/
structure Balanced (g : Grammar K N T) (input : Array (Token K)) (calls : List (Call N))
    (plain : Run N Unit) (run : Run N T) : Prop where
  labelled : g.silent.Labelled plain.labels
  active : run.context.activeAt = inProgress calls
  memo : ∀ ⦃name p mode o⦄, run.context.memo.find? name p mode = some o →
    ∃ body o', g.body? name = some body ∧ g.silent.Parses input body p mode o' ∧
      Outcome.Rel (fun _ _ => True) o' o
  unknown : ∀ call ∈ calls, run.context.memo.find? call.name call.position call.mode = none
  balance : run.context.stats.ruleCalls =
    run.context.stats.memoHits + run.context.memo.size + calls.length

variable {g : Grammar K N T} {input : Array (Token K)} {calls : List (Call N)} {depth : Nat}
  {id body : NodeId} {name : N} {p : Nat} {mode : Mode} {plain : Run N Unit} {run mid : Run N T}

omit [Inhabited T] in
/-- Everything is within no calls. -/
theorem ahead_nil (g : Grammar K N T) (input : Array (Token K)) (depth : Nat) :
    g.Ahead input depth [] where
  caller call hcall := by cases hcall
  slow call hcall := by cases hcall

omit [Inhabited T] in
/-- Less depth is within the calls as well. -/
theorem Ahead.mono (h : g.Ahead input depth calls) {less : Nat} (hle : less ≤ depth) :
    g.Ahead input less calls where
  caller := h.caller
  slow call hcall body hbody depth hdepth := h.slow call hcall body hbody depth (by omega)

omit [Inhabited T] in
/-- The body of a rule is within a call that no smaller depth is enough for. -/
theorem Ahead.cons (h : g.Ahead input depth calls)
    (hget : g.arena.get? id = some (.nonTerminal name))
    (hslow : ¬ g.silent.Closes input depth id p) :
    g.Ahead input depth (⟨id, name, p, mode⟩ :: calls) where
  caller call hcall := by
    rcases List.mem_cons.1 hcall with rfl | hcall
    exacts [hget, h.caller call hcall]
  slow call hcall body hbody less hless := by
    rcases List.mem_cons.1 hcall with rfl | hcall
    · intro hcloses
      have hget' : g.silent.arena.get? id = some (.nonTerminal name) :=
        (g.arena.get?_silent id).trans hget
      have hcaller : g.silent.Closes input (less + 1) id p := hcloses.nonTerminal hget' hbody
      exact hslow (hcaller.mono hless)
    · exact h.slow call hcall body hbody less hless

omit [DecidableEq K] in
/-- Actions fire without touching the books. -/
theorem alike_balanced (mode : Mode) :
    Alike g.silent g input (fun _ _ => True) (g.Balanced input calls) mode mode where
  operators := g.arena.get?_silent
  default := trivial
  fire id span vs₁ vs₂ r₁ r₂ _ hS := by
    refine ⟨trivial, fire_labelled hS.labelled, ?_, ?_, ?_, ?_⟩ <;> rw [fire_context]
    exacts [hS.active, hS.memo, hS.unknown, hS.balance]

omit [DecidableEq K] in
/-- Whatever the action of a non-terminal does, the books stay balanced. -/
theorem Balanced.finishCall {o : Outcome Unit} {inner : Outcome T}
    (h : g.Balanced input calls plain run) (ho : Outcome.Rel (fun _ _ => True) o inner) :
    ∃ o' run', some (g.finishCall input id mode inner run) = some (o', run') ∧
      Outcome.Rel (fun _ _ => True) o o' ∧ g.Balanced input calls plain run' := by
  obtain ⟨o', run', hfinish, hrel, hcontext⟩ := g.finishCall_frame input id mode inner run
  refine ⟨o', run', congrArg some hfinish, ho.trans hrel, h.labelled, ?_, ?_, ?_, ?_⟩ <;>
    rw [hcontext]
  exacts [h.active, h.memo, h.unknown, h.balance]

omit [DecidableEq K] [Inhabited T] in
/-- A call that is answered from the memo table. -/
theorem Balanced.hit (h : g.Balanced input calls plain run) :
    g.Balanced input calls plain { run with context := run.context.countCall.countHit } where
  labelled := h.labelled
  active := h.active
  memo := h.memo
  unknown := h.unknown
  balance := by
    have hbalance := h.balance
    simp only [Context.countHit, Context.countCall]
    omega

omit [DecidableEq K] [Inhabited T] in
/-- A call that goes on to the body of its rule. -/
theorem Balanced.enter (h : g.Balanced input calls plain run)
    (hfind : run.context.memo.find? name p mode = none) :
    g.Balanced input (⟨id, name, p, mode⟩ :: calls) plain
      { run with context := run.context.countCall.enter id p } where
  labelled := h.labelled
  active := Context.activeAt_entering h.active id p
  memo := h.memo
  unknown call hcall := by
    rcases List.mem_cons.1 hcall with rfl | hcall
    exacts [hfind, h.unknown call hcall]
  balance := by
    have hbalance := h.balance
    simp only [Context.enter, Context.countCall, List.length_cons]
    omega

omit [DecidableEq K] [Inhabited T] in
/-- A call that writes down the outcome of the body of its rule, of which nothing is known yet. -/
theorem Balanced.close {o' : Outcome Unit} {o : Outcome T} (before : Context N T)
    (h : g.Balanced input (⟨id, name, p, mode⟩ :: calls) plain run)
    (hother : ∀ call ∈ calls, call.name = name → call.position ≠ p)
    (hbody : g.body? name = some body) (hparses : g.silent.Parses input body p mode o')
    (ho : Outcome.Rel (fun _ _ => True) o' o) :
    g.Balanced input calls plain { run with
      context := .close (fun _ _ => true) before run.context id name p mode o } where
  labelled := h.labelled
  active := Context.activeAt_close_of_entering h.active
  memo name' p' mode' o'' hfind := by
    rcases Context.find?_close hfind with hold | ⟨-, rfl, rfl, rfl, rfl⟩
    exacts [h.memo hold, ⟨body, o', hbody, hparses, ho⟩]
  unknown call hcall := by
    have hne : ¬ (call.name = name ∧ call.position = p ∧ call.mode = mode) :=
      fun hkey => hother call hcall hkey.1 hkey.2.1
    rw [Context.memo_close, if_pos rfl, Memo.find?_insert, if_neg hne]
    exact h.unknown call (List.mem_cons_of_mem _ hcall)
  balance := by
    have hbalance := h.balance
    have hsize := Memo.size_insert_of_find?_eq_none (h.unknown _ List.mem_cons_self) o
    rw [List.length_cons] at hbalance
    rw [Context.memo_close, if_pos rfl, Context.stats_close, hsize]
    omega

section Built

variable {b : Builder K N T} {start : N} {rules : List (Rule N)}

/-- A call follows a plain call that has a result, if the body does within the call. Neither is the
non-terminal in progress nor is an outcome of its rule written down meanwhile, for that would need
more depth than there is. -/
theorem callOnce_follows (hg : b.build start rules = .ok g)
    (hahead : g.Ahead input (depth + 1) calls) (hget : g.arena.get? id = some (.nonTerminal name))
    (hbody : g.body? name = some body) (hlive : g.silent.Live body)
    (hev : ∀ run, g.Balanced input (⟨id, name, p, mode⟩ :: calls) plain run →
      Follows False (Outcome.Rel fun _ _ => True)
        (g.Balanced input (⟨id, name, p, mode⟩ :: calls))
        (g.silent.plainEval input depth body p mode plain)
        (g.evalOnce input depth body p mode run))
    (hS : g.Balanced input calls plain run) :
    Follows False (Outcome.Rel fun _ _ => True) (g.Balanced input calls)
      (g.silent.plainCall input (g.silent.plainEval input depth) id name p mode plain)
      (g.callOnce input (g.evalOnce input depth) id name p mode run) := by
  intro o plain' ho
  have hbody' : g.silent.body? name = some body := hbody
  rw [g.silent_silent.plainCall_eq, bodyMove, hbody'] at ho
  dsimp only at ho
  have hcloses : g.silent.Closes input depth body p := closes_of_plainEval ho
  obtain ⟨⟨-, hlabelled⟩, hderived⟩ := plainEval_truthful (Builder.build_silent hg)
    g.pureActions_silent depth hlive p mode ⟨trivial, hS.labelled⟩ ho
  have hparses := (hderived trivial).2
  -- No call in progress is of this rule at this position.
  have hother : ∀ call ∈ calls, call.name = name → call.position ≠ p := by
    rintro call hcall rfl rfl
    exact hahead.slow call hcall body hbody depth (Nat.lt_succ_self depth) hcloses
  cases hfind : run.context.memo.find? name p mode with
  | some hit =>
    obtain ⟨_, o', hbody'', hparses', hrel⟩ := hS.memo hfind
    cases hbody.symm.trans hbody''
    have hsame := hparses'.eq_of_plainEval g.pureActions_silent hS.labelled ho
    subst hsame
    have hhit : g.Balanced input calls plain'
        { run with context := run.context.countCall.countHit } :=
      { hS.hit with labelled := hlabelled }
    rw [callOnce_hit hfind]
    exact .inr (hhit.finishCall hrel)
  | none =>
    have hid : id ∉ run.context.activeAt p := by
      intro hid
      rw [hS.active] at hid
      obtain ⟨call, hcall, rfl, hposition⟩ := exists_call_of_mem_inProgress hid
      have hname := hahead.caller call hcall
      rw [hget] at hname
      cases hname
      exact hother call hcall rfl hposition
    obtain ⟨inner, mid, hinner, hrel, hmid⟩ := (hev _ (hS.enter hfind)).exists ho
    have hclosed := hmid.close run.context.countCall hother hbody hparses hrel
    rw [callOnce_body hfind hid hbody hinner (hmid.unknown _ List.mem_cons_self)]
    exact .inr (hclosed.finishCall hrel)

/-- **Evaluation that refuses no call and writes every entry once follows a plain evaluation**, if
everything is within the calls in progress. -/
theorem evalOnce_follows (hg : b.build start rules = .ok g) (depth : Nat) :
    ∀ ⦃calls⦄, g.Ahead input depth calls → ∀ ⦃id⦄, g.silent.Live id → ∀ mode p ⦃plain run⦄,
      g.Balanced input calls plain run →
        Follows False (Outcome.Rel fun _ _ => True) (g.Balanced input calls)
          (g.silent.plainEval input depth id p mode plain)
          (g.evalOnce input depth id p mode run) := by
  induction depth with
  | zero => exact fun calls hahead id hid mode p plain run hS => nofun
  | succ depth ih =>
    intro calls hahead id hid mode p plain run hS
    have hbelow := hahead.mono (Nat.le_succ depth)
    by_cases hcloses : g.silent.Closes input depth id p
    · -- A smaller depth is enough, and more changes nothing.
      intro o plain' ho
      obtain ⟨x, hx⟩ := Option.isSome_iff_exists.1 (hcloses mode plain)
      have hsame := plainEval_mono (Nat.le_succ depth) hx
      rw [ho] at hsame
      cases hsame
      obtain ⟨o', run', hrun, hrel, hS'⟩ := (ih hbelow hid mode p hS).exists hx
      exact .inr ⟨o', run', evalCalling_mono monotoneCalls_callOnce (Nat.le_succ depth) hrun, hrel,
        hS'⟩
    · obtain ⟨operator, hget, hops, hcallee⟩ := hid.closed (Builder.build_silent hg)
      refine (alike_balanced mode).step (fun operator' hget' o ho => ?_)
        (fun operator' hget' o ho => ?_) (fun name hname => ?_) hS
      · cases hget.symm.trans hget'
        exact ih hbelow (hops o ho) mode
      · cases hget.symm.trans hget'
        exact ih hbelow (hops o ho) .probing
      · cases hget.symm.trans hname
        obtain ⟨body, hbody, hlive⟩ := hcallee name rfl
        have hcaller : g.arena.get? id = some (.nonTerminal name) :=
          (g.arena.get?_silent id).symm.trans hget
        refine callOnce_follows hg hahead hcaller hbody hlive (fun run hrun => ?_) hS
        exact ih (hbelow.cons hcaller hcloses) hlive mode p hrun

/-- A parse that refuses no call writes every entry once, and its books are balanced. -/
theorem exists_evalOnce_start (hb : b.Made) (hg : b.build start rules = .ok g)
    {context : Context N T} {labels : Labels} {raw : Outcome T}
    (hraw : g.evalStart input { context := context.reset, labels } = some (raw, run))
    (hcuts : run.context.stats.cuts = 0) :
    ∃ depth plain, g.Balanced input [] plain run ∧
      g.evalOnce input depth g.startNode 0 .consuming { context := context.reset, labels } =
        some (raw, run) := by
  -- Without actions the parse refuses no call either, so the start node has a derivable outcome.
  obtain ⟨-, hbooks⟩ := parseWith_silent hb hg input context labels
  have hparse : (g.parseWith input context labels).2 = run := by simp only [parseWith, hraw]
  rw [hparse] at hbooks
  obtain ⟨o, ho⟩ : ∃ o, g.silent.Parses input g.startNode 0 .consuming o :=
    (parseWith_silent_cuts hb hg input).1.1 (hbooks.stats ▸ hcuts)
  obtain ⟨depth, hdepth⟩ := ho.yields g.pureActions_silent
  have hlive : g.silent.Live g.startNode := .inl rfl
  have hempty : g.silent.Labelled ({} : Run N Unit).labels := labelled_empty _
  obtain ⟨plain, hplain, -⟩ := hdepth depth (Nat.le_refl _) hempty
  have hS : g.Balanced input [] {} { context := context.reset, labels } :=
    { labelled := hempty
      active := context.activeAt_reset
      memo := fun name p mode o h => by simp at h
      unknown := fun call hcall => by cases hcall
      balance := rfl }
  obtain ⟨raw', run', hrun, -, hbalanced⟩ :=
    (evalOnce_follows hg depth (g.ahead_nil input depth) hlive .consuming 0 hS).exists hplain
  -- The parse has a bound on the depth of its own, but the result is the same.
  have hsame := evalKeeping_mono (Nat.le_max_left depth (g.depthBound input.size))
    (evalOnce_below depth hrun)
  rw [evalStart, eval_eq] at hraw
  rw [evalKeeping_mono (Nat.le_max_right depth (g.depthBound input.size)) hraw] at hsame
  cases hsame
  exact ⟨depth, plain, hbalanced, hrun⟩

/-- A parse leaves books in order, with entries of rules at positions of the input only. -/
theorem parseWith_ledger (hb : b.Made) (hg : b.build start rules = .ok g)
    (input : Array (Token K)) (context : Context N T) (labels : Labels) :
    ∃ raw run, g.evalStart input { context := context.reset, labels } = some (raw, run) ∧
      g.parseWith input context labels = (raw.complete input.size, run) ∧
      run.context.Ledger input.size (fun _ => []) ∧
      ∀ ⦃name p mode⦄, (run.context.memo.find? name p mode).isSome →
        name ∈ g.rules.map (·.head) ∧ p ≤ input.size := by
  have hE := Extent.closed_all g input
  have hJ :=
    (g.invariant_ledger input fun _ _ => true).and (g.invariant_ruled input fun _ _ => true)
  have hstart : Context.Ledger input.size (fun _ => [])
      ({ context := context.reset, labels } : Run N T).context ∧
        g.Ruled ({ context := context.reset, labels } : Run N T).context :=
    ⟨context.ledger_reset input.size, g.ruled_reset context⟩
  obtain ⟨raw, run, hraw, hparse, -, hsound, hledger, hruled⟩ :=
    parseWith_endsWell hb hg hE hJ hstart
  refine ⟨raw, run, hraw, hparse, hledger, fun name p mode hfind => ?_⟩
  obtain ⟨o, ho⟩ := Option.isSome_iff_exists.1 hfind
  have hwithin := hsound.memo ho
  refine ⟨mem_heads_of_isSome_body? (hruled ho), ?_⟩
  cases o with
  | failed q => exact Nat.le_trans hwithin.1 hwithin.2
  | matched next span value => exact Nat.le_trans hwithin.1 hwithin.2.1

/-- **What a parse of `n` tokens costs.** Every call is answered from the memo table, is refused, or
evaluates the body of its rule; only bodies write entries, so there are no more entries than calls
that are left. Every entry has a rule, position and mode of its own, so there are two at most for
each rule and each of the `n + 1` positions.

If no call is refused, there are as many entries as calls that are left, because no entry is
overwritten: evaluation that gives up where it would overwrite one gets to the same end. So each
body is evaluated once for each rule, position and mode that is asked for. -/
theorem parseWith_accounts (hb : b.Made) (hg : b.build start rules = .ok g)
    (input : Array (Token K)) (context : Context N T) (labels : Labels) :
    ∃ raw run, g.evalStart input { context := context.reset, labels } = some (raw, run) ∧
      g.parseWith input context labels = (raw.complete input.size, run) ∧
      run.context.stats.memoHits + run.context.stats.cuts + run.context.memo.size ≤
        run.context.stats.ruleCalls ∧
      run.context.memo.keys.Nodup ∧
      run.context.memo.size ≤ 2 * g.rules.length * (input.size + 1) ∧
      (run.context.stats.cuts = 0 →
        run.context.stats.ruleCalls = run.context.stats.memoHits + run.context.memo.size ∧
          ∃ depth, g.evalOnce input depth g.startNode 0 .consuming
            { context := context.reset, labels } = some (raw, run)) := by
  obtain ⟨raw, run, hraw, hparse, hledger, hkeys⟩ := parseWith_ledger hb hg input context labels
  refine ⟨raw, run, hraw, hparse, ?_, hledger.nodup, ?_, fun hcuts => ?_⟩
  · have hbalance := hledger.balance
    omega
  · have hsize := Memo.size_le hledger.nodup hkeys
    rwa [List.length_map] at hsize
  · obtain ⟨depth, plain, hbalanced, hrun⟩ := exists_evalOnce_start hb hg hraw hcuts
    exact ⟨hbalanced.balance, depth, hrun⟩

end Built

/-- Rules of which the alternatives of one begin alike. -/
def sharedPrefix : List (Char × Expr Char Char) :=
  [('S', .orderedChoice [.sequence [.nonTerminal 'A', .terminal 'x'],
    .sequence [.nonTerminal 'A', .terminal 'y']]), ('A', .terminal 'a')]

/-- The rules make a grammar. -/
theorem isSome_sharedPrefix : (ofExprs (T := Unit) {} 'S' sharedPrefix).toOption.isSome := by
  decide

/-- What the alternatives begin with is evaluated for the first of them, and known for the
second. -/
theorem parseWith_accounts_sharedPrefix :
    ∃ (g : Grammar Char Char Unit) (input : Array (Token Char)),
      ofExprs {} 'S' sharedPrefix = .ok g ∧ input.toList.map (·.tag) = ['a', 'y'] ∧
        ∃ run, (g.parseWith input {} ∅).2 = run ∧ run.context.stats.cuts = 0 ∧
          run.context.stats.memoHits = 1 ∧
            run.context.stats.ruleCalls = run.context.stats.memoHits + run.context.memo.size := by
  have hg := eq_ok_of_isSome_toOption isSome_sharedPrefix
  obtain ⟨b, rules, hb, hbuild, -⟩ := ofExprs_made hg
  let input : Array (Token Char) := #[⟨'a', ⟨0, 1⟩, "a"⟩, ⟨'y', ⟨1, 1⟩, "y"⟩]
  obtain ⟨raw, run, -, hparse, -, -, -, honce⟩ := parseWith_accounts hb hbuild input {} ∅
  have hrun : (((ofExprs (T := Unit) {} 'S' sharedPrefix).toOption.get
      isSome_sharedPrefix).parseWith input {} ∅).2 = run := congrArg Prod.snd hparse
  have hstats : (((ofExprs (T := Unit) {} 'S' sharedPrefix).toOption.get
      isSome_sharedPrefix).parseWith input {} ∅).2.context.stats = ⟨3, 1, 0⟩ := by decide +kernel
  rw [hrun] at hstats
  have hcuts : run.context.stats.cuts = 0 := by rw [hstats]
  exact ⟨_, input, hg, rfl, run, hrun, hcuts, by rw [hstats], (honce hcuts).1⟩

end Grammar

end Packrat
