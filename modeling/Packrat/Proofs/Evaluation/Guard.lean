import Packrat.Proofs.Evaluation.Silent
import Packrat.Proofs.Evaluation.Trials

/-!
# The guard against left recursion

A call that evaluates the body of its rule marks its non-terminal as in progress at its position,
and takes the mark away afterwards; a call of a non-terminal that is marked is refused.

`Grammar.Enclosed` are the trials of a parse, each with the trials that it lies within. What is in
progress during a trial are the non-terminals that enclose it (`Grammar.Enclosed.activeAt_eq`), and
none is entered twice at one position (`Grammar.Enclosed.nodup`): beneath a call nothing but the
body of its rule is tried (`Grammar.TakesPart.body`), and only if the non-terminal was not in
progress. Whatever a trial does, it leaves in progress what was in progress before, and forgets no
outcome (`Context.Restored`). `Grammar.parseWith_guards` puts this together.
-/

namespace Packrat

variable {K N T : Type}

/-! ## What is restored -/

/-- Where `before` knows an outcome of a rule, `after` does. -/
def Context.Remembers [DecidableEq N] (after before : Context N T) : Prop :=
  ∀ ⦃name p mode⦄, (before.memo.find? name p mode).isSome →
    (after.memo.find? name p mode).isSome

/-- The same is in progress as before, and no outcome has been forgotten. -/
structure Context.Restored [DecidableEq N] (before after : Context N T) : Prop where
  active : after.activeAt = before.activeAt
  memo : after.Remembers before

/-- Closing a call forgets nothing. -/
theorem Context.Remembers.close [DecidableEq N] {c₀ before after : Context N T}
    (h : after.Remembers c₀) (keep : Keep N T) (id : NodeId) (name : N) (p : Nat) (mode : Mode)
    (o : Outcome T) : (Context.close keep before after id name p mode o).Remembers c₀ := by
  intro name' p' mode' hfind
  rw [memo_close]
  split
  · rw [Memo.find?_insert]
    split
    · rfl
    · exact h hfind
  · exact h hfind

namespace Grammar

section Remembering

variable [DecidableEq N] [ToString K] [ToString N] [Inhabited T]

/-- What was known once stays known. -/
theorem invariant_remembers (g : Grammar K N T) (input : Array (Token K)) (keep : Keep N T)
    (c₀ : Context N T) : g.Invariant input keep fun _ run => run.context.Remembers c₀ where
  fire _ := fun id span values mode run _ h => by
    show (g.fire input id span values mode run).2.context.Remembers c₀
    rw [fire_context]
    exact h
  hit _ _ h := h
  cut _ _ h := h
  enter _ _ _ _ h _ := h
  close _ _ id p name _ mode o _ h _ _ _ := h.close keep id name p mode o

end Remembering

/-! ## What is in progress -/

section Enclosing

variable (g : Grammar K N T)

/-- The calls among the trials, each by its non-terminal and position. -/
def inProgress (outer : List (Trial N T)) : List (NodeId × Nat) :=
  (outer.filter fun x => ((g.arena.get? x.node).bind Operator.callee?).isSome).map fun x =>
    (x.node, x.position)

/-- The non-terminals of the pairs at a position. -/
def activeOf (pairs : List (NodeId × Nat)) (p : Nat) : List NodeId :=
  (pairs.filter (·.2 = p)).map (·.1)

theorem mem_activeOf {pairs : List (NodeId × Nat)} {id : NodeId} {p : Nat} :
    id ∈ activeOf pairs p ↔ (id, p) ∈ pairs := by
  simp [activeOf]

variable {g}

/-- A call is in progress beneath it. -/
theorem inProgress_cons_call {x : Trial N T} {name : N} (outer : List (Trial N T))
    (hget : g.arena.get? x.node = some (.nonTerminal name)) :
    g.inProgress (x :: outer) = (x.node, x.position) :: g.inProgress outer := by
  simp [inProgress, hget, Operator.callee?]

/-- Nothing else is. -/
theorem inProgress_cons_of_forall {x : Trial N T} (outer : List (Trial N T))
    (hget : ∀ name, g.arena.get? x.node ≠ some (.nonTerminal name)) :
    g.inProgress (x :: outer) = g.inProgress outer := by
  have hcallee : (g.arena.get? x.node).bind Operator.callee? = none := by
    cases hop : g.arena.get? x.node with
    | none => rfl
    | some op =>
      cases op with
      | nonTerminal name => exact absurd hop (hget name)
      | _ => rfl
  simp [inProgress, hcallee]

end Enclosing

variable [DecidableEq K] [DecidableEq N] [ToString K] [ToString N] [Inhabited T]
  (g : Grammar K N T) (input : Array (Token K))

/-- The trials of a parse, with the depth that is left for each and the trials that it lies within,
the innermost first. -/
inductive Enclosed (context : Context N T) (labels : Labels) :
    Nat → List (Trial N T) → Trial N T → Prop
  | start : Enclosed context labels (g.depthBound input.size) []
      ⟨g.startNode, 0, .consuming, { context := context.reset, labels }⟩
  | beneath {depth : Nat} {outer : List (Trial N T)} {x y : Trial N T} :
      Enclosed context labels (depth + 1) outer x → g.TakesPart input (g.eval input depth) x y →
      Enclosed context labels depth (x :: outer) y

variable {g input} {ev : Evaluator N T} {x y : Trial N T} {context : Context N T}
  {labels : Labels} {depth : Nat} {outer : List (Trial N T)} {name : N}

/-- A trial of a non-terminal is a call. -/
theorem result_call (ev : Evaluator N T) (hget : g.arena.get? x.node = some (.nonTerminal name)) :
    x.result (g.step input (g.call input ev) ev) =
      g.callKeeping input (fun _ _ => true) ev x.node name x.position x.mode x.run := by
  rw [Trial.result, step, hget]
  rfl

/-- **Beneath a call that has a result, the body of its rule is tried and nothing else**, and it is
tried only if no outcome is known and the non-terminal is not in progress. -/
theorem TakesPart.body (h : g.TakesPart input ev x y)
    (hget : g.arena.get? x.node = some (.nonTerminal name))
    (hx : (x.result (g.step input (g.call input ev) ev)).isSome) :
    x.run.context.memo.find? name x.position x.mode = none ∧
      x.node ∉ x.run.context.activeAt x.position ∧
      ∃ body, g.body? name = some body ∧ y = x.ofBody body := by
  refine h.of_forall (fun z => x.run.context.memo.find? name x.position x.mode = none ∧
    x.node ∉ x.run.context.activeAt x.position ∧
      ∃ body, g.body? name = some body ∧ z = x.ofBody body) ?_
  intro ev' hev' hnone
  rw [result_call _ hget] at hx hnone
  cases hfind : x.run.context.memo.find? name x.position x.mode with
  | some hit =>
    rw [callKeeping_hit hfind] at hnone
    cases hnone
  | none =>
    by_cases hid : x.node ∈ x.run.context.activeAt x.position
    · rw [callKeeping_cut hfind hid] at hnone
      cases hnone
    · cases hbody : g.body? name with
      | none => simp [callKeeping, hfind, hid, hbody] at hnone
      | some body =>
        have hsame : ev' body x.position x.mode
              { x.run with context := x.run.context.countCall.enter x.node x.position } =
            ev body x.position x.mode
              { x.run with context := x.run.context.countCall.enter x.node x.position } :=
          hev' (x.ofBody body) ⟨hfind, hid, body, hbody, rfl⟩
        have hcall : g.callKeeping input (fun _ _ => true) ev' x.node name x.position x.mode
            x.run = g.callKeeping input (fun _ _ => true) ev x.node name x.position x.mode
              x.run := by
          rw [callKeeping_body hfind hid hbody, callKeeping_body hfind hid hbody, hsame]
        rw [← hcall, hnone] at hx
        cases hx

omit [DecidableEq K] [DecidableEq N] [ToString K] [ToString N] [Inhabited T] in
/-- What is in progress beneath a trial is what is in progress during it, and the trial itself if it
is a call. -/
theorem beneath_activeOf (x : Trial N T) (outer : List (Trial N T)) :
    g.beneath (activeOf (g.inProgress outer)) x = activeOf (g.inProgress (x :: outer)) := by
  unfold beneath
  split
  · next name hget =>
    rw [inProgress_cons_call outer hget]
    funext p
    rw [entering]
    split
    · next hp => simp [activeOf, hp]
    · next hp => simp [activeOf, Ne.symm hp]
  · next hget => rw [inProgress_cons_of_forall outer hget]

/-- An enclosed trial is one of the trials of the parse. -/
theorem Enclosed.tried (h : g.Enclosed input context labels depth outer x) :
    g.Tried input context labels depth (activeOf (g.inProgress outer)) x := by
  induction h with
  | start => exact .start
  | beneath _ hpart ih =>
    rw [← beneath_activeOf]
    exact ih.beneath hpart

/-- Every trial of the parse is enclosed by others, and by none at first. -/
theorem Tried.exists_enclosed {active : Nat → List NodeId}
    (h : g.Tried input context labels depth active x) :
    ∃ outer, g.Enclosed input context labels depth outer x := by
  induction h with
  | start => exact ⟨[], .start⟩
  | beneath _ hpart ih =>
    obtain ⟨outer, hx⟩ := ih
    exact ⟨_, hx.beneath hpart⟩

section Built

variable {b : Builder K N T} {start : N} {rules : List (Rule N)}

/-- **What is in progress during a trial are the calls that enclose it.** -/
theorem Enclosed.activeAt_eq (hb : b.Made) (hg : b.build start rules = .ok g)
    (h : g.Enclosed input context labels depth outer x) :
    x.run.context.activeAt = activeOf (g.inProgress outer) := by
  obtain ⟨hx, -⟩ := h.tried.placed hb hg (Extent.closed_all g input)
    (g.invariant_true input _) trivial
  exact hx.sound.active

/-- **No non-terminal is entered twice at one position.** -/
theorem Enclosed.nodup (hb : b.Made) (hg : b.build start rules = .ok g)
    (h : g.Enclosed input context labels depth outer x) : (g.inProgress outer).Nodup := by
  induction h with
  | start => exact List.nodup_nil
  | @beneath depth outer x y hx hpart ih =>
    by_cases hcall : ∃ name, g.arena.get? x.node = some (.nonTerminal name)
    · obtain ⟨name, hget⟩ := hcall
      obtain ⟨o, run, ho, -⟩ := hx.tried.endsWell hb hg (Extent.closed_all g input)
        (g.invariant_true input _) trivial
      have hresult : (x.result (g.step input (g.call input (g.eval input depth))
          (g.eval input depth))).isSome := by
        show (x.result (g.eval input (depth + 1))).isSome
        rw [ho]
        rfl
      obtain ⟨-, hid, -⟩ := hpart.body hget hresult
      rw [hx.activeAt_eq hb hg, mem_activeOf] at hid
      rw [inProgress_cons_call outer hget]
      exact List.nodup_cons.2 ⟨hid, ih⟩
    · rw [inProgress_cons_of_forall outer (not_exists.1 hcall)]
      exact ih

/-- An enclosed trial is placed, from books that have forgotten nothing of their own. -/
theorem Enclosed.placed (hb : b.Made) (hg : b.build start rules = .ok g)
    (h : g.Enclosed input context labels depth outer x) :
    g.Placed input Extent.all (fun _ run => run.context.Remembers x.run.context)
        x.run.context.activeAt x ∧
      g.need input.size x.run.context.activeAt x.node < depth := by
  obtain ⟨hx, hdepth⟩ := h.tried.placed hb hg (Extent.closed_all g input)
    (g.invariant_true input _) trivial
  rw [← h.activeAt_eq hb hg] at hx hdepth
  exact ⟨⟨hx.live, hx.within, hx.sound, fun _ _ _ hfind => hfind⟩, hdepth⟩

/-- An evaluation of what is placed keeps what is in progress and remembers what was known. -/
theorem Placed.eval_remembers (hb : b.Made) (hg : b.build start rules = .ok g)
    {c₀ : Context N T} {active : Nat → List NodeId}
    (hx : g.Placed input Extent.all (fun _ run => run.context.Remembers c₀) active x)
    (hdepth : g.need input.size active x.node < depth) :
    Ends (fun c => g.Sound Extent.all input.size active c ∧ c.Remembers c₀)
      (Outcome.Within input.size x.position) (x.result (g.eval input depth)) := by
  obtain ⟨o, run, ho, hfits, hends⟩ := evalKeeping_keeps hb hg (Extent.closed_all g input)
    (g.invariant_remembers input _ c₀) depth hx hdepth
  rw [← eval_eq] at ho
  exact ⟨o, run, ho, hfits.1, hends⟩

/-- **An evaluation restores what was in progress and forgets nothing.** -/
theorem Enclosed.eval_restores (hb : b.Made) (hg : b.build start rules = .ok g)
    (h : g.Enclosed input context labels depth outer x) :
    Ends x.run.context.Restored (Outcome.Within input.size x.position)
      (x.result (g.eval input depth)) := by
  obtain ⟨hx, hdepth⟩ := h.placed hb hg
  obtain ⟨o, run, ho, hwithin, hsound, hmemo⟩ := hx.eval_remembers hb hg hdepth
  exact ⟨o, run, ho, hwithin, hsound.active, hmemo⟩

/-- **So does a repetition of an operand.** -/
theorem Enclosed.repetition_restores (hb : b.Made) (hg : b.build start rules = .ok g)
    (h : g.Enclosed input context labels (depth + 1) outer x) {op : Operator K N NodeId}
    {operand : NodeId} (hget : g.arena.get? x.node = some op) (ho : operand ∈ op.operands) :
    Ends x.run.context.Restored (fun y => x.position ≤ y.1 ∧ y.1 ≤ input.size)
      (repetition input (g.eval input depth) operand x.mode (input.size + 1) x.position []
        x.run) := by
  obtain ⟨hx, hdepth⟩ := h.placed hb hg
  obtain ⟨op', hget', hops, -⟩ := hx.live.closed hg
  rw [hget] at hget'
  cases hget'
  obtain ⟨_, hgeto, -⟩ := (hops operand ho).closed hg
  have holder : operand.index < x.node.index :=
    Grammar.ordered hb hg hget operand ho (Arena.owned_of_get? hgeto).1
  have hneed : g.need input.size x.run.context.activeAt operand < depth := by
    have hlt : g.need input.size x.run.context.activeAt operand <
        g.need input.size x.run.context.activeAt x.node := Nat.add_lt_add_left holder _
    omega
  -- Every turn of the repetition restores what the first one found.
  have hturn : ∀ p ≤ input.size, ∀ ⦃run : Run N T⦄,
      g.Sound Extent.all input.size x.run.context.activeAt run.context ∧
        run.context.Remembers x.run.context →
      Ends (fun c => g.Sound Extent.all input.size x.run.context.activeAt c ∧
        c.Remembers x.run.context) (Outcome.Within input.size p)
        (g.eval input depth operand p x.mode run) := by
    rintro p hp run ⟨hsound, hmemo⟩
    have hplaced : g.Placed input Extent.all (fun _ run => run.context.Remembers x.run.context)
        x.run.context.activeAt ⟨operand, p, x.mode, run⟩ := ⟨hops operand ho, hp, hsound, hmemo⟩
    exact hplaced.eval_remembers hb hg hneed
  obtain ⟨y, run, hy, hwithin, hsound, hmemo⟩ := repetition_ends
    (P := fun c => g.Sound Extent.all input.size x.run.context.activeAt c ∧
      c.Remembers x.run.context) hturn (input.size + 1) x.position hx.within (by omega) []
    ⟨hx.sound, hx.kept⟩
  exact ⟨y, run, hy, hwithin, hsound.active, hmemo⟩

/-- **A call is refused just when no outcome is known and the non-terminal is in progress.** -/
theorem Enclosed.cut_iff (hb : b.Made) (hg : b.build start rules = .ok g)
    (h : g.Enclosed input context labels (depth + 1) outer x)
    (hget : g.arena.get? x.node = some (.nonTerminal name)) :
    g.call input (g.eval input depth) x.node name x.position x.mode x.run =
        some (.failed x.position,
          { x.run with context := x.run.context.countCall.countCut }) ↔
      x.run.context.memo.find? name x.position x.mode = none ∧
        (x.node, x.position) ∈ g.inProgress outer := by
  show g.callKeeping input (fun _ _ => true) _ _ _ _ _ _ = _ ↔ _
  rw [← mem_activeOf, ← h.activeAt_eq hb hg]
  refine ⟨fun hcut => ?_, fun ⟨hfind, hid⟩ => callKeeping_cut hfind hid⟩
  cases hfind : x.run.context.memo.find? name x.position x.mode with
  | some hit =>
    -- An answer from the memo table is counted as such.
    rw [callKeeping_hit hfind] at hcut
    obtain ⟨o, run, hfinish, -, hcontext⟩ := g.finishCall_frame input x.node x.mode hit
      { x.run with context := x.run.context.countCall.countHit }
    rw [hfinish] at hcut
    cases hcut
    have hhits := congrArg (fun c => c.stats.memoHits) hcontext
    simp [Context.countHit, Context.countCut, Context.countCall] at hhits
  | none =>
    refine ⟨rfl, ?_⟩
    by_contra hid
    obtain ⟨op, hop, -, hcallee⟩ := (h.placed hb hg).1.live.closed hg
    cases hget.symm.trans hop
    obtain ⟨body, hbody, -⟩ := hcallee name rfl
    rw [callKeeping_body hfind hid hbody] at hcut
    split at hcut
    · cases hcut
    · next inner mid _ =>
      -- The outcome of the body has been written down.
      obtain ⟨o, run, hfinish, -, hcontext⟩ := g.finishCall_frame input x.node x.mode inner
        { mid with
          context :=
            .close (fun _ _ => true) x.run.context.countCall mid.context x.node name x.position
              x.mode inner }
      rw [hfinish] at hcut
      cases hcut
      have hmemo := congrArg (fun c => c.memo.find? name x.position x.mode) hcontext
      simp [Context.memo_close, Memo.find?_insert, hfind] at hmemo

/-- **The guard keeps its books.** At every step of a parse, what is in progress are just the calls
that enclose the step and whose bodies are still being evaluated, each entered once. Every
evaluation, every repetition and every call returns, however it ends, with the same in progress as
before and no outcome forgotten; so nothing is in progress after a parse. A call is refused just
when the same non-terminal is in progress at the same position and no outcome of its rule is known
there in its mode; and what it tries otherwise is the body of its rule. -/
theorem parseWith_guards (hb : b.Made) (hg : b.build start rules = .ok g)
    (input : Array (Token K)) (context : Context N T) (labels : Labels) :
    (∀ depth outer x, g.Enclosed input context labels depth outer x →
      x.run.context.activeAt = activeOf (g.inProgress outer) ∧ (g.inProgress outer).Nodup ∧
      ∃ below, depth = below + 1 ∧
        Ends x.run.context.Restored (Outcome.Within input.size x.position)
          (x.result (g.eval input depth)) ∧
        (∀ operand, g.arena.get? x.node = some (.zeroOrMore operand) ∨
            g.arena.get? x.node = some (.oneOrMore operand) →
          Ends x.run.context.Restored (fun y => x.position ≤ y.1 ∧ y.1 ≤ input.size)
            (repetition input (g.eval input below) operand x.mode (input.size + 1) x.position []
              x.run)) ∧
        ∀ name, g.arena.get? x.node = some (.nonTerminal name) →
          Ends x.run.context.Restored (Outcome.Within input.size x.position)
            (g.call input (g.eval input below) x.node name x.position x.mode x.run) ∧
          (g.call input (g.eval input below) x.node name x.position x.mode x.run =
              some (.failed x.position,
                { x.run with context := x.run.context.countCall.countCut }) ↔
            x.run.context.memo.find? name x.position x.mode = none ∧
              (x.node, x.position) ∈ g.inProgress outer) ∧
          ∀ y, g.TakesPart input (g.eval input below) x y →
            ∃ body, g.body? name = some body ∧ y = x.ofBody body) ∧
    (g.parseWith input context labels).2.context.activeAt = fun _ => [] := by
  refine ⟨fun depth outer x h => ⟨h.activeAt_eq hb hg, h.nodup hb hg, ?_⟩, ?_⟩
  · have hdepth := (h.placed hb hg).2
    obtain ⟨below, rfl⟩ : ∃ below, depth = below + 1 := ⟨depth - 1, by omega⟩
    have heval := h.eval_restores hb hg
    refine ⟨below, rfl, heval, ?_, ?_⟩
    · rintro operand (hget | hget)
      · exact h.repetition_restores hb hg hget List.mem_cons_self
      · exact h.repetition_restores hb hg hget List.mem_cons_self
    · intro name hget
      have hcall : x.result (g.eval input (below + 1)) =
          g.call input (g.eval input below) x.node name x.position x.mode x.run :=
        result_call _ hget
      refine ⟨hcall ▸ heval, h.cut_iff hb hg hget, fun y hpart => ?_⟩
      obtain ⟨o, run, ho, -⟩ := heval
      have hresult : (x.result (g.eval input (below + 1))).isSome := ho ▸ rfl
      exact (hpart.body hget hresult).2.2
  · have hend : Ends context.reset.Restored (Outcome.Within input.size 0)
        (g.evalStart input { context := context.reset, labels }) :=
      Enclosed.start.eval_restores hb hg
    obtain ⟨o, run, ho, -, hrestored⟩ := hend
    simp only [parseWith, ho]
    exact hrestored.active.trans context.activeAt_reset

end Built

/-- Rules of which one calls itself at once: after every parse nothing is in progress, and while the
body of the start rule is evaluated, the call of the start symbol is. -/
theorem parseWith_guards_leftRecursive :
    ∃ g : Grammar Char Char Unit, ofExprs {} 'S' leftRecursive = .ok g ∧
      ∀ input : Array (Token Char),
        (g.parseWith input {} ∅).2.context.activeAt = (fun _ => []) ∧
        ∃ depth outer x, g.Enclosed input {} ∅ depth outer x ∧
          x.run.context.activeAt 0 = [g.startNode] ∧ (g.startNode, 0) ∈ g.inProgress outer := by
  have hg := eq_ok_of_isSome_toOption isSome_leftRecursive
  obtain ⟨b, rules, hb, hbuild, -⟩ := ofExprs_made hg
  refine ⟨_, hg, fun input => ?_⟩
  obtain ⟨hguards, hend⟩ := parseWith_guards hb hbuild input {} ∅
  obtain ⟨body, depth, active, -, htried⟩ := exists_tried_startBody hbuild input {} ∅
  obtain ⟨outer, hx⟩ := htried.exists_enclosed
  obtain ⟨hactive, -⟩ := hguards depth outer _ hx
  have hfirst := congrFun hactive 0
  simp only [Trial.ofBody, Context.activeAt_enter, if_true, Context.activeAt_countCall,
    Context.activeAt_reset] at hfirst
  refine ⟨hend, depth, outer, _, hx, ?_, mem_activeOf.1 ?_⟩
  · simp [Trial.ofBody]
  · rw [← hfirst]
    exact List.mem_cons_self

end Grammar

end Packrat
