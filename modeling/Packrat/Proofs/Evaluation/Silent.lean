import Packrat.Proofs.Evaluation.Termination

/-!
# Evaluation without actions

Two grammars that differ only in their actions evaluate alike: the outcomes agree but for their
values, and so do the books, which never look at a value (`Grammar.evalKeeping_sameBooks`).

`Grammar.silent` is a grammar without its actions, over the one value there is. It is built like the
grammar (`Builder.build_silent`) and parses as it does (`Grammar.parseWith_silent`), so that
recognition can be studied where no action gets in the way.
-/

namespace Packrat

variable {K N T T₁ T₂ : Type}

/-! ## Books that agree -/

/-- The books agree but for the values in the memo table. -/
structure SameBooks [DecidableEq N] (c₁ : Context N T₁) (c₂ : Context N T₂) : Prop where
  active : c₁.activeAt = c₂.activeAt
  stats : c₁.stats = c₂.stats
  memo : ∀ name p mode, Option.Rel (Outcome.Rel fun _ _ => True) (c₁.memo.find? name p mode)
    (c₂.memo.find? name p mode)

namespace SameBooks

variable [DecidableEq N] {c₁ : Context N T₁} {c₂ : Context N T₂}

/-- Books that have just been opened agree. -/
theorem reset (c₁ : Context N T₁) (c₂ : Context N T₂) : SameBooks c₁.reset c₂.reset where
  active := c₁.activeAt_reset.trans c₂.activeAt_reset.symm
  stats := rfl
  memo name p mode := by
    simp only [Context.reset, Memo.find?, Memo.column, Std.TreeMap.getD_emptyc, List.find?_nil]
    exact .none

/-- Entering a non-terminal keeps the books in agreement. -/
theorem enter (h : SameBooks c₁ c₂) (id : NodeId) (p : Nat) :
    SameBooks (c₁.countCall.enter id p) (c₂.countCall.enter id p) where
  active := by
    funext q
    simp only [Context.activeAt_enter, Context.activeAt_countCall, h.active]
  stats := by simp only [Context.enter, Context.countCall, h.stats]
  memo := h.memo

/-- Writing down outcomes that agree keeps the books in agreement. -/
theorem close (h : SameBooks c₁ c₂) (before₁ : Context N T₁) (before₂ : Context N T₂) (id : NodeId)
    (name : N) (p : Nat) (mode : Mode) {o₁ : Outcome T₁} {o₂ : Outcome T₂}
    (ho : Outcome.Rel (fun _ _ => True) o₁ o₂) :
    SameBooks (.close (fun _ _ => true) before₁ c₁ id name p mode o₁)
      (.close (fun _ _ => true) before₂ c₂ id name p mode o₂) where
  active := by
    funext q
    simp only [Context.activeAt_close, Context.activeAt_leave, h.active]
  stats := h.stats
  memo name' p' mode' := by
    simp only [Context.close, if_true, Context.memo_record, Context.memo_leave, Memo.find?_insert]
    split
    · exact .some ho
    · exact h.memo name' p' mode'

end SameBooks

/-! ## Grammars that differ in their actions -/

namespace Grammar

variable [DecidableEq N] [ToString K] [ToString N] [Inhabited T₁] [Inhabited T₂]
  {g₁ : Grammar K N T₁} {g₂ : Grammar K N T₂} {input : Array (Token K)} {mode : Mode}

/-- Actions fire without touching the books. -/
theorem alike_sameBooks (hops : ∀ id, g₁.arena.get? id = g₂.arena.get? id) :
    Alike g₁ g₂ input (fun _ _ => True) (fun r₁ r₂ => SameBooks r₁.context r₂.context) mode
      mode where
  operators := hops
  default := trivial
  fire id span vs₁ vs₂ r₁ r₂ _ hS := by
    refine ⟨trivial, ?_⟩
    rw [fire_context, fire_context]
    exact hS

omit [DecidableEq N] in
/-- Whether a non-terminal has an action shows in the value only. -/
theorem finishCall_frame [Inhabited T] (g : Grammar K N T) (input : Array (Token K)) (id : NodeId)
    (mode : Mode) (o : Outcome T) (r : Run N T) :
    ∃ o' r', g.finishCall input id mode o r = (o', r') ∧ Outcome.Rel (fun _ _ => True) o o' ∧
      r'.context = r.context := by
  cases o with
  | failed q => exact ⟨_, _, rfl, .failed q, rfl⟩
  | matched next span value =>
    unfold finishCall
    dsimp only
    split
    · exact ⟨_, _, rfl, .matched next span trivial, fire_context⟩
    · exact ⟨_, _, rfl, .matched next span trivial, rfl⟩

/-- Calls end alike. -/
theorem finishCall_sameBooks {id : NodeId} {o₁ : Outcome T₁} {o₂ : Outcome T₂} {r₁ : Run N T₁}
    {r₂ : Run N T₂} (ho : Outcome.Rel (fun _ _ => True) o₁ o₂)
    (hS : SameBooks r₁.context r₂.context) :
    Follows False (Outcome.Rel fun _ _ => True) (fun r₁ r₂ => SameBooks r₁.context r₂.context)
      (some (g₁.finishCall input id mode o₁ r₁)) (some (g₂.finishCall input id mode o₂ r₂)) := by
  obtain ⟨o₁', r₁', h₁, ho₁, hr₁⟩ := g₁.finishCall_frame input id mode o₁ r₁
  obtain ⟨o₂', r₂', h₂, ho₂, hr₂⟩ := g₂.finishCall_frame input id mode o₂ r₂
  rw [h₁, h₂]
  refine .some ?_ (by rw [hr₁, hr₂]; exact hS)
  cases ho <;> cases ho₁ <;> cases ho₂ <;> constructor
  trivial

/-- Rules are called alike, if the bodies of rules are evaluated alike. -/
theorem callKeeping_sameBooks {ev₁ : Evaluator N T₁} {ev₂ : Evaluator N T₂} {id : NodeId}
    {name : N} {p : Nat} {r₁ : Run N T₁} {r₂ : Run N T₂} (hbody : g₁.body? name = g₂.body? name)
    (hev : ∀ body (r₁ : Run N T₁) (r₂ : Run N T₂), SameBooks r₁.context r₂.context →
      Follows False (Outcome.Rel fun _ _ => True) (fun r₁ r₂ => SameBooks r₁.context r₂.context)
        (ev₁ body p mode r₁) (ev₂ body p mode r₂))
    (hS : SameBooks r₁.context r₂.context) :
    Follows False (Outcome.Rel fun _ _ => True) (fun r₁ r₂ => SameBooks r₁.context r₂.context)
      (g₁.callKeeping input (fun _ _ => true) ev₁ id name p mode r₁)
      (g₂.callKeeping input (fun _ _ => true) ev₂ id name p mode r₂) := by
  refine callKeeping_sideBySide hbody hS.active (hS.memo name p mode) (fun o₁ o₂ _ ho => ?_) ?_
    (hS.enter id p) (fun body _ => hev body _ _ (hS.enter id p)) fun o₁ o₂ m₁ m₂ ho hm => ?_
  · refine finishCall_sameBooks ho ⟨hS.active, ?_, hS.memo⟩
    simp only [Context.countHit, Context.countCall, hS.stats]
  · refine ⟨hS.active, ?_, hS.memo⟩
    simp only [Context.countCut, Context.countCall, hS.stats]
  · have hclosed := hm.close r₁.context.countCall r₂.context.countCall id name p mode ho
    exact finishCall_sameBooks ho hclosed

variable [DecidableEq K]

/-- **Grammars that differ in their actions evaluate alike**, but for the values. -/
theorem evalKeeping_sameBooks (hops : ∀ id, g₁.arena.get? id = g₂.arena.get? id)
    (hrules : g₁.rules = g₂.rules) (depth : Nat) : ∀ id p mode ⦃r₁ : Run N T₁⦄ ⦃r₂ : Run N T₂⦄,
      SameBooks r₁.context r₂.context →
        Follows False (Outcome.Rel fun _ _ => True)
          (fun r₁ r₂ => SameBooks r₁.context r₂.context)
          (g₁.evalKeeping input (fun _ _ => true) depth id p mode r₁)
          (g₂.evalKeeping input (fun _ _ => true) depth id p mode r₂) := by
  induction depth with
  | zero => exact fun id p mode r₁ r₂ hS => nofun
  | succ depth ih =>
    intro id p mode r₁ r₂ hS
    refine (alike_sameBooks hops).step (fun _ _ o _ p => ih o p mode)
      (fun _ _ o _ p => ih o p .probing) (fun name _ => ?_) hS
    have hbody : g₁.body? name = g₂.body? name := by rw [body?, body?, hrules]
    exact callKeeping_sameBooks hbody (fun body r₁ r₂ => @ih body p mode r₁ r₂) hS

end Grammar

/-! ## Grammars without actions -/

/-- The arena without its actions. -/
def Arena.silent (a : Arena K N T) : Arena K N Unit where
  id := a.id
  operators := a.operators
  actions := a.actions.map fun _ => none
  aligned := by simp [a.aligned]

namespace Arena

variable (a : Arena K N T)

@[simp] theorem get?_silent (id : NodeId) : a.silent.get? id = a.get? id := rfl

@[simp] theorem action?_silent (id : NodeId) : a.silent.action? id = none := by
  simp only [action?, silent, Array.getElem?_map]
  cases a.actions[id.index]? <;> simp

@[simp] theorem size_silent : a.silent.size = a.size := rfl

theorem silent_push (op : Operator K N NodeId) (action : Option (Action K T)) :
    (a.push op action).2.silent = (a.silent.push op none).2 := by
  simp [push, silent]

theorem edgeCount_silent : a.silent.edgeCount = a.edgeCount := rfl

theorem visit_silent (fuel : Nat) (stack visited : List NodeId) :
    a.silent.visit fuel stack visited = a.visit fuel stack visited := by
  induction fuel generalizing stack visited with
  | zero => rfl
  | succ fuel ih =>
    cases stack with
    | nil => rfl
    | cons id stack => simp only [visit, get?_silent, ih]

theorem subtree_silent (root : NodeId) : a.silent.subtree root = a.subtree root := by
  rw [subtree, subtree, visit_silent, edgeCount_silent]

/-- What is wrong with a set of rules does not depend on the actions. -/
theorem ruleError?_silent [DecidableEq N] (start : N) (rules : List (Rule N)) :
    a.silent.ruleError? start rules = a.ruleError? start rules := by
  simp only [ruleError?, Rule.reachesForeign, Rule.undefinedName?, calledNames, subtree_silent,
    get?_silent]

end Arena

/-- The builder without its actions. -/
def Builder.silent (b : Builder K N T) : Builder K N Unit := ⟨b.arena.silent, {}⟩

/-- The grammar without its actions. -/
def Grammar.silent (g : Grammar K N T) : Grammar K N Unit :=
  ⟨g.arena.silent, g.rules, g.start, g.startNode, g.slots, by simpa using g.aligned⟩

/-- A builder has a history without its actions too. -/
theorem Builder.Made.silent {b : Builder K N T} (h : b.Made) : b.silent.Made := by
  induction h with
  | new id registry =>
    have hnew : (Builder.new id registry).silent = .new id {} := by
      simp [Builder.silent, Builder.new, Arena.silent, Arena.empty]
    rw [hnew]
    exact .new id {}
  | withRegistry _ _ ih => exact ih
  | @addWith b b' operator action id _ hops hadd ih =>
    have hadd' : b.silent.addWith operator none = (.ok id, b'.silent) := by
      unfold Builder.addWith at hadd ⊢
      split at hadd
      · next henough =>
        cases hadd
        rw [if_pos henough]
        simp [Builder.silent, Arena.silent, Arena.push, Arena.idAt, Arena.size]
      · cases hadd
    refine .addWith ih (fun o ho hown => ?_) hadd'
    rw [Builder.silent, Arena.size_silent]
    exact hops o ho hown

section Built

variable [DecidableEq N] {b : Builder K N T} {start : N} {rules : List (Rule N)}
  {g : Grammar K N T}

/-- A grammar without its actions is built like the grammar. -/
theorem Builder.build_silent (hg : b.build start rules = .ok g) :
    b.silent.build start rules = .ok g.silent := by
  have hsilent : b.silent.arena.ruleError? start rules = b.arena.ruleError? start rules :=
    Arena.ruleError?_silent ..
  unfold Builder.build at hg ⊢
  rw [hsilent]
  split at hg
  · cases hg
  · cases hg
    simp only [Grammar.silent, Except.ok.injEq, Grammar.mk.injEq]
    exact ⟨(Arena.silent_push ..).symm, trivial, trivial, rfl, rfl⟩

namespace Grammar

variable [DecidableEq K] [ToString K] [ToString N] [Inhabited T]

/-- **A grammar parses like the grammar without its actions**: the outcomes agree but for the value,
and so do the books. -/
theorem parseWith_silent (hb : b.Made) (hg : b.build start rules = .ok g) (input : Array (Token K))
    (context : Context N T) (labels : Labels) :
    Outcome.Rel (fun _ _ => True) (g.parseWith input context labels).1
        (g.silent.parseWith input {} ∅).1 ∧
      SameBooks (g.parseWith input context labels).2.context
        (g.silent.parseWith input {} ∅).2.context := by
  obtain ⟨raw, run, hraw⟩ := evalKeeping_start_isSome hb hg input (fun _ _ => true) context labels
  have hS : SameBooks ({ context := context.reset, labels } : Run N T).context
      ({ context := Context.reset {} } : Run N Unit).context := .reset context {}
  have hops : ∀ id, g.arena.get? id = g.silent.arena.get? id := fun id =>
    (g.arena.get?_silent id).symm
  obtain ⟨raw', run', hraw', hrel, hbooks⟩ :=
    (evalKeeping_sameBooks hops rfl _ g.startNode 0 .consuming hS).exists hraw
  have hdepth : g.silent.depthBound input.size = g.depthBound input.size := by
    simp only [depthBound, silent, Arena.size_silent]
    rfl
  rw [← eval_eq] at hraw hraw'
  have hparse : g.parseWith input context labels = (raw.complete input.size, run) := by
    simp only [parseWith, evalStart, hraw]
  have hparse' : g.silent.parseWith input {} ∅ = (raw'.complete input.size, run') := by
    have hstart : g.silent.evalStart input { context := Context.reset {} } =
        some (raw', run') := by
      rw [evalStart, hdepth]
      exact hraw'
    simp only [parseWith, hstart]
  rw [hparse, hparse']
  refine ⟨?_, hbooks⟩
  cases hrel with
  | failed q => exact .failed q
  | matched next span _ =>
    rw [Outcome.complete, Outcome.complete]
    split
    · exact .matched next span trivial
    · exact .failed next

end Grammar

end Built

end Packrat
