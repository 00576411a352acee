import Packrat.Proofs.Evaluation.Termination

/-!
# What a parse tries

A parse evaluates operators one within the other. A trial takes part in another one if there is no
result of the other without it (`Grammar.TakesPart`): an evaluator that has no result of it, and is
otherwise the same, has no result of the other either. `Grammar.Tried` are the trials that a parse
makes on its way, each with the depth that is left and what is in progress then.

What evaluation keeps holds of all of them: every trial of a parse is placed, and ends well
(`Grammar.Tried.endsWell`).
-/

namespace Packrat

variable {K N T : Type}

/-- What is tried when a call of a rule evaluates its body. -/
def Trial.ofBody (x : Trial N T) (body : NodeId) : Trial N T where
  node := body
  position := x.position
  mode := x.mode
  run := { x.run with context := x.run.context.countCall.enter x.node x.position }

namespace Grammar

variable [DecidableEq K] [DecidableEq N] [ToString K] [ToString N] [Inhabited T]
  (g : Grammar K N T) (input : Array (Token K))

/-- Without a result of the trial `y` there is none of the trial `x`, if `ev` evaluates operands and
the bodies of rules. -/
def TakesPart (ev : Evaluator N T) (x y : Trial N T) : Prop :=
  ∀ ev' : Evaluator N T, (∀ z, z ≠ y → z.result ev' = z.result ev) → y.result ev' = none →
    x.result (g.step input (g.call input ev') ev') = none

/-- The trials of a parse, with the depth that is left for each and what is in progress. -/
inductive Tried (context : Context N T) (labels : Labels) :
    Nat → (Nat → List NodeId) → Trial N T → Prop
  | start : Tried context labels (g.depthBound input.size) (fun _ => [])
      ⟨g.startNode, 0, .consuming, { context := context.reset, labels }⟩
  | beneath {depth : Nat} {active : Nat → List NodeId} {x y : Trial N T} :
      Tried context labels (depth + 1) active x → g.TakesPart input (g.eval input depth) x y →
      Tried context labels depth (g.beneath active x) y

variable {g input} {ev : Evaluator N T} {x y : Trial N T}

open scoped Classical in
/-- A trial takes part in another one if the other has a result from all evaluators that agree with
`ev` where a property holds, and the property holds of no other. -/
theorem TakesPart.of_forall (h : g.TakesPart input ev x y) (P : Trial N T → Prop)
    (hP : ∀ ev' : Evaluator N T, (∀ z, P z → z.result ev' = z.result ev) →
      x.result (g.step input (g.call input ev') ev') ≠ none) : P y := by
  by_contra hy
  let ev' : Evaluator N T := fun id p mode run =>
    if Trial.mk id p mode run = y then none else ev id p mode run
  have hother : ∀ z, z ≠ y → z.result ev' = z.result ev := fun z hz => if_neg hz
  refine hP ev' (fun z hz => hother z ?_) (h ev' hother (if_pos rfl))
  rintro rfl
  exact hy hz

/-- A call that is neither known nor refused tries the body of its rule. -/
theorem takesPart_body {name : N} {body : NodeId}
    (hget : g.arena.get? x.node = some (.nonTerminal name))
    (hfind : x.run.context.memo.find? name x.position x.mode = none)
    (hid : x.node ∉ x.run.context.activeAt x.position) (hbody : g.body? name = some body) :
    g.TakesPart input ev x (x.ofBody body) := by
  intro ev' _ hnone
  have hnone' : ev' body x.position x.mode
      { x.run with context := x.run.context.countCall.enter x.node x.position } = none := hnone
  rw [Trial.result, step, hget]
  show g.callKeeping input (fun _ _ => true) ev' x.node name x.position x.mode x.run = none
  rw [callKeeping_body hfind hid hbody, hnone']

/-! ## What holds of all trials -/

section Built

variable {b : Builder K N T} {start : N} {rules : List (Rule N)} {E : Extent}
  {J : (Nat → List NodeId) → Run N T → Prop} {context : Context N T} {labels : Labels}
  {depth : Nat} {active : Nat → List NodeId}

omit [DecidableEq K] [ToString K] [ToString N] [Inhabited T] in
/-- The trial of the start node is placed. -/
theorem placed_start (hstart : J (fun _ => []) { context := context.reset, labels }) :
    g.Placed input E J (fun _ => [])
      ⟨g.startNode, 0, .consuming, { context := context.reset, labels }⟩ :=
  ⟨.inl rfl, Nat.zero_le _, g.sound_reset E input.size context, hstart⟩

/-- What takes part in a placed trial is placed beneath it, from its position on, and needs less
depth. -/
theorem Placed.of_takesPart (hb : b.Made) (hg : b.build start rules = .ok g)
    (hE : E.Closed g input) (hJ : g.Invariant input (fun _ _ => true) J)
    (hx : g.Placed input E J active x) (hdepth : g.need input.size active x.node < depth + 1)
    (h : g.TakesPart input (g.eval input depth) x y) :
    g.Placed input E J (g.beneath active x) y ∧ g.need input.size (g.beneath active x) y.node <
      g.need input.size active x.node ∧ x.position ≤ y.position := by
  refine h.of_forall (fun z => g.Placed input E J (g.beneath active x) z ∧
    g.need input.size (g.beneath active x) z.node < g.need input.size active x.node ∧
      x.position ≤ z.position) fun ev' hev' hnone => ?_
  -- The trial has a result as soon as all that is placed beneath it does.
  obtain ⟨o, run, ho, -⟩ := hx.ends hb hg hE hJ fun z hz hneed hle => by
    rw [hev' z ⟨hz, hneed, hle⟩, eval_eq]
    exact evalKeeping_keeps hb hg hE hJ depth hz (by omega)
  rw [show g.call input ev' = g.callKeeping input (fun _ _ => true) ev' from rfl, ho] at hnone
  cases hnone

/-- **Every trial of a parse is placed**, and has the depth that it needs. -/
theorem Tried.placed (hb : b.Made) (hg : b.build start rules = .ok g) (hE : E.Closed g input)
    (hJ : g.Invariant input (fun _ _ => true) J)
    (hstart : J (fun _ => []) { context := context.reset, labels })
    (h : g.Tried input context labels depth active x) :
    g.Placed input E J active x ∧ g.need input.size active x.node < depth := by
  induction h with
  | start =>
    exact ⟨placed_start hstart, need_lt_depthBound (by rw [get?_startNode hg]; rfl) _⟩
  | @beneath depth active x y _ hpart ih =>
    obtain ⟨hx, hdepth⟩ := ih
    obtain ⟨hy, hneed, -⟩ := hx.of_takesPart hb hg hE hJ hdepth hpart
    exact ⟨hy, by omega⟩

/-- **Every trial of a parse ends well.** -/
theorem Tried.endsWell (hb : b.Made) (hg : b.build start rules = .ok g) (hE : E.Closed g input)
    (hJ : g.Invariant input (fun _ _ => true) J)
    (hstart : J (fun _ => []) { context := context.reset, labels })
    (h : g.Tried input context labels depth active x) :
    g.EndsWell input E J active x (x.result (g.eval input depth)) := by
  obtain ⟨hx, hdepth⟩ := h.placed hb hg hE hJ hstart
  rw [eval_eq]
  exact evalKeeping_keeps hb hg hE hJ depth hx hdepth

/-- A parse tries the body of the start rule. -/
theorem exists_tried_startBody (hg : b.build start rules = .ok g) (input : Array (Token K))
    (context : Context N T) (labels : Labels) :
    ∃ body depth active, g.body? g.start = some body ∧ g.Tried input context labels depth active
      (Trial.ofBody ⟨g.startNode, 0, .consuming, { context := context.reset, labels }⟩ body) := by
  have hlive : g.Live g.startNode := .inl rfl
  have hget := get?_startNode hg
  obtain ⟨operator, hget', -, hcallee⟩ := hlive.closed hg
  cases hget.symm.trans hget'
  obtain ⟨body, hbody, -⟩ := hcallee g.start rfl
  have hdepth : g.need input.size (fun _ => []) g.startNode < g.depthBound input.size :=
    need_lt_depthBound (by rw [hget]; rfl) _
  obtain ⟨depth, hdepth⟩ : ∃ depth, g.depthBound input.size = depth + 1 :=
    ⟨g.depthBound input.size - 1, by omega⟩
  have htried : g.Tried input context labels (depth + 1) (fun _ => [])
      ⟨g.startNode, 0, .consuming, { context := context.reset, labels }⟩ := hdepth ▸ .start
  refine ⟨body, depth, _, hbody, htried.beneath (takesPart_body hget ?_ ?_ hbody)⟩
  · exact context.find?_reset _ _ _
  · simp

/-- A parse returns what the trial of the start node gives, but for a match that leaves tokens
over. -/
theorem parseWith_endsWell (hb : b.Made) (hg : b.build start rules = .ok g) (hE : E.Closed g input)
    (hJ : g.Invariant input (fun _ _ => true) J)
    (hstart : J (fun _ => []) { context := context.reset, labels }) :
    ∃ raw run, g.evalStart input { context := context.reset, labels } = some (raw, run) ∧
      g.parseWith input context labels = (raw.complete input.size, run) ∧
      raw.Fits input.size E g.startNode 0 ∧
      g.Sound E input.size (fun _ => []) run.context ∧ J (fun _ => []) run := by
  have htried : g.Tried input context labels (g.depthBound input.size) (fun _ => [])
      ⟨g.startNode, 0, .consuming, { context := context.reset, labels }⟩ := .start
  obtain ⟨raw, run, hraw, hfits, hsound, hkept⟩ := htried.endsWell hb hg hE hJ hstart
  have heval : g.evalStart input { context := context.reset, labels } = some (raw, run) := hraw
  exact ⟨raw, run, heval, by simp only [parseWith, heval], hfits, hsound, hkept⟩

end Built

end Grammar

end Packrat
