import Packrat.Proofs.Evaluation.Simulation

/-!
# How rules are called

`Grammar.callKeeping` is `Grammar.call` with one decision left open: whether the outcome of a body
is written down. To write down everything is what `Grammar.call` does (`Grammar.eval_eq`), to write
down nothing leaves the guard alone. A call is answered from the memo table
(`Grammar.callKeeping_hit`), is refused (`Grammar.callKeeping_cut`), or evaluates the body of its
rule (`Grammar.callKeeping_body`). Two calls that take the same of these ways are compared once
(`Grammar.callKeeping_sideBySide`).
-/

namespace Packrat

variable {K N T : Type}

/-! ## What the books say after an entry -/

namespace Context

variable (c : Context N T) (id : NodeId) (position : Nat)

@[simp] theorem activeAt_countCall : c.countCall.activeAt = c.activeAt := rfl
@[simp] theorem activeAt_countHit : c.countHit.activeAt = c.activeAt := rfl
@[simp] theorem activeAt_countCut : c.countCut.activeAt = c.activeAt := rfl
@[simp] theorem memo_countCall : c.countCall.memo = c.memo := rfl
@[simp] theorem memo_countHit : c.countHit.memo = c.memo := rfl
@[simp] theorem memo_countCut : c.countCut.memo = c.memo := rfl
@[simp] theorem memo_enter : (c.enter id position).memo = c.memo := rfl
@[simp] theorem memo_leave : (c.leave id position).memo = c.memo := rfl
@[simp] theorem cuts_countCall : c.countCall.stats.cuts = c.stats.cuts := rfl
@[simp] theorem cuts_countHit : c.countHit.stats.cuts = c.stats.cuts := rfl
@[simp] theorem cuts_countCut : c.countCut.stats.cuts = c.stats.cuts + 1 := rfl
@[simp] theorem cuts_enter : (c.enter id position).stats.cuts = c.stats.cuts := rfl
@[simp] theorem cuts_leave : (c.leave id position).stats.cuts = c.stats.cuts := rfl

/-- Nothing is in progress at first. -/
@[simp] theorem activeAt_reset : c.reset.activeAt = fun _ => [] := by
  funext p
  simp [reset, activeAt]

variable [DecidableEq N] (name : N) (mode : Mode) (o : Outcome T)

/-- Nothing is known at first. -/
@[simp] theorem find?_reset : c.reset.memo.find? name position mode = none := by
  simp [reset, Memo.find?, Memo.column]

@[simp] theorem activeAt_record : (c.record name position mode o).activeAt = c.activeAt := rfl
@[simp] theorem cuts_record : (c.record name position mode o).stats.cuts = c.stats.cuts := rfl
@[simp] theorem memo_record :
    (c.record name position mode o).memo = c.memo.insert name position mode o := rfl

end Context

/-- What is in progress once the non-terminal at `id` is entered at `p`. -/
def entering (active : Nat → List NodeId) (id : NodeId) (p : Nat) : Nat → List NodeId :=
  fun q => if q = p then id :: active p else active q

/-- The books say so. -/
theorem Context.activeAt_entering {c : Context N T} {active : Nat → List NodeId}
    (h : c.activeAt = active) (id : NodeId) (p : Nat) :
    (c.enter id p).activeAt = entering active id p := by
  funext q
  rw [activeAt_enter, entering, h]

/-- Whether the outcome of a body is written down, from the contexts before and after it. -/
abbrev Keep (N T : Type) := Context N T → Context N T → Bool

/-- The context after the body of a rule: the non-terminal is left, and the outcome is written down
if it is to be kept. -/
def Context.close [DecidableEq N] (keep : Keep N T) (before after : Context N T) (id : NodeId)
    (name : N) (position : Nat) (mode : Mode) (o : Outcome T) : Context N T :=
  let left := after.leave id position
  if keep before left then left.record name position mode o else left

namespace Context

variable [DecidableEq N] (keep : Keep N T) (before after : Context N T) (id : NodeId) (name : N)
  (position : Nat) (mode : Mode) (o : Outcome T)

@[simp] theorem stats_close :
    (close keep before after id name position mode o).stats = after.stats := by
  unfold close
  dsimp only
  split <;> rfl

@[simp] theorem activeAt_close :
    (close keep before after id name position mode o).activeAt =
      (after.leave id position).activeAt := by
  unfold close
  dsimp only
  split <;> rfl

theorem memo_close :
    (close keep before after id name position mode o).memo =
      if keep before (after.leave id position) then after.memo.insert name position mode o
      else after.memo := by
  unfold close
  dsimp only
  split <;> rfl

@[simp] theorem cuts_close :
    (close keep before after id name position mode o).stats.cuts = after.stats.cuts := by
  unfold close
  dsimp only
  split <;> rfl

variable {keep before after id name position mode o}

/-- Closing undoes entering. -/
theorem activeAt_close_of_entering {active : Nat → List NodeId}
    (h : after.activeAt = entering active id position) :
    (close keep before after id name position mode o).activeAt = active := by
  funext p
  rw [activeAt_close, activeAt_leave, h, entering, entering]
  split
  · next hp => rw [if_pos rfl, List.erase_cons_head, hp]
  · rfl

/-- An outcome in the memo table was there before, or has just been kept. -/
theorem find?_close {name' : N} {p : Nat} {mode' : Mode} {o' : Outcome T}
    (h : (close keep before after id name position mode o).memo.find? name' p mode' = some o') :
    after.memo.find? name' p mode' = some o' ∨
      keep before (after.leave id position) ∧ name' = name ∧ p = position ∧ mode' = mode ∧
        o' = o := by
  unfold close at h
  dsimp only at h
  split at h
  · next hkeep =>
    rw [memo_record, Memo.find?_insert] at h
    split at h
    · next hkey =>
      cases h
      exact .inr ⟨hkeep, hkey.1, hkey.2.1, hkey.2.2, rfl⟩
    · exact .inl h
  · exact .inl h

end Context

namespace Grammar

variable [DecidableEq N] [ToString K] [ToString N] [Inhabited T]
  (g : Grammar K N T) (input : Array (Token K))

/-- A call of the rule `name` by the non-terminal at `id`, where `keep` says which outcomes of
bodies are written down. -/
def callKeeping (keep : Keep N T) (ev : Evaluator N T) (id : NodeId) (name : N) (start : Nat)
    (mode : Mode) (run : Run N T) : Option (Outcome T × Run N T) :=
  let context := run.context.countCall
  match context.memo.find? name start mode with
  | some hit => some (g.finishCall input id mode hit { run with context := context.countHit })
  | none =>
    if id ∈ context.activeAt start then
      some (.failed start, { run with context := context.countCut })
    else
      let entered : Run N T := { run with context := context.enter id start }
      let inner :=
        match g.body? name with
        | some body => ev body start mode entered
        | none => some (.failed start, entered)
      match inner with
      | none => none
      | some (inner, run) =>
        some (g.finishCall input id mode inner
          { run with context := .close keep context run.context id name start mode inner })

section Answers

variable {g input} {keep : Keep N T} {ev : Evaluator N T} {id body : NodeId} {name : N}
  {start : Nat} {mode : Mode} {run : Run N T}

/-- A call whose outcome is known. -/
theorem callKeeping_hit {hit : Outcome T} (h : run.context.memo.find? name start mode = some hit) :
    g.callKeeping input keep ev id name start mode run =
      some (g.finishCall input id mode hit
        { run with context := run.context.countCall.countHit }) := by
  simp only [callKeeping, Context.memo_countCall, h]

/-- A call that is refused. -/
theorem callKeeping_cut (h : run.context.memo.find? name start mode = none)
    (hid : id ∈ run.context.activeAt start) :
    g.callKeeping input keep ev id name start mode run =
      some (.failed start, { run with context := run.context.countCall.countCut }) := by
  simp only [callKeeping, Context.memo_countCall, h, Context.activeAt_countCall, hid, if_true]

/-- A call that evaluates the body of its rule. -/
theorem callKeeping_body (h : run.context.memo.find? name start mode = none)
    (hid : id ∉ run.context.activeAt start) (hbody : g.body? name = some body) :
    g.callKeeping input keep ev id name start mode run =
      match ev body start mode
          { run with context := run.context.countCall.enter id start } with
      | none => none
      | some (inner, mid) =>
        some (g.finishCall input id mode inner
          { mid with
            context :=
              .close keep run.context.countCall mid.context id name start mode inner }) := by
  simp only [callKeeping, Context.memo_countCall, h, Context.activeAt_countCall, hid, if_false,
    hbody]

/-- A call finds more if bodies are found more often. -/
theorem monotoneCalls_callKeeping : MonotoneCalls (g.callKeeping input keep) := by
  intro ev₁ ev₂ hev id name p mode run x hx
  unfold callKeeping at hx ⊢
  dsimp only at hx ⊢
  split at hx
  · exact hx
  · split at hx
    · next hcut =>
      rw [if_pos hcut]
      exact hx
    · next hcut =>
      rw [if_neg hcut]
      cases hbody : g.body? name with
      | none => simpa only [hbody] using hx
      | some body =>
        simp only [hbody] at hx ⊢
        split at hx
        · cases hx
        · next hinner =>
          rw [hev hinner]
          exact hx

end Answers

variable [DecidableEq K]

/-- Evaluation with a bound on the depth, where `keep` says which outcomes are written down. -/
def evalKeeping (keep : Keep N T) : (depth : Nat) → Evaluator N T :=
  g.evalCalling input (g.callKeeping input keep)

/-- Evaluation writes every outcome down. -/
theorem eval_eq (depth : Nat) :
    g.eval input depth = g.evalKeeping input (fun _ _ => true) depth := by
  induction depth with
  | zero => rfl
  | succ depth ih =>
    rw [eval, ih]
    rfl

variable {g input}

/-- More depth changes no result. -/
theorem evalKeeping_mono {keep : Keep N T} {n k : Nat} (h : n ≤ k) :
    Below (g.evalKeeping input keep n) (g.evalKeeping input keep k) :=
  evalCalling_mono monotoneCalls_callKeeping h

/-! ## Calls side by side -/

omit [DecidableEq N] [ToString K] [ToString N] [Inhabited T] [DecidableEq K] in
/-- What is known in the same memo table is related by equality. -/
theorem rel_find?_refl (found : Option (Outcome T)) :
    Option.Rel (Outcome.Rel (· = ·)) found found := by
  cases found with
  | none => exact .none
  | some o => exact .some (.refl o)

section SideBySide

variable {T₁ T₂ : Type} [Inhabited T₁] [Inhabited T₂] {g₁ : Grammar K N T₁} {g₂ : Grammar K N T₂}
  {keep₁ : Keep N T₁} {keep₂ : Keep N T₂} {ev₁ : Evaluator N T₁} {ev₂ : Evaluator N T₂}
  {V : T₁ → T₂ → Prop} {S : Run N T₁ → Run N T₂ → Prop} {lax : Prop} {id : NodeId} {name : N}
  {p : Nat} {mode : Mode} {r₁ : Run N T₁} {r₂ : Run N T₂}

omit [DecidableEq K] in
/-- **A call follows a call** if the same is known and in progress, the body of the rule is
followed, and so are the ways in which a call can end. -/
theorem callKeeping_sideBySide (hbody : g₁.body? name = g₂.body? name)
    (hactive : r₁.context.activeAt = r₂.context.activeAt)
    (hfind : Option.Rel (Outcome.Rel V) (r₁.context.memo.find? name p mode)
      (r₂.context.memo.find? name p mode))
    (hhit : ∀ ⦃o₁ o₂⦄, r₁.context.memo.find? name p mode = some o₁ → Outcome.Rel V o₁ o₂ →
      Follows lax (Outcome.Rel V) S
        (some (g₁.finishCall input id mode o₁
          { r₁ with context := r₁.context.countCall.countHit }))
        (some (g₂.finishCall input id mode o₂
          { r₂ with context := r₂.context.countCall.countHit })))
    (hcut : S { r₁ with context := r₁.context.countCall.countCut }
      { r₂ with context := r₂.context.countCall.countCut })
    (henter : S { r₁ with context := r₁.context.countCall.enter id p }
      { r₂ with context := r₂.context.countCall.enter id p })
    (hev : ∀ body, g₁.body? name = some body → Follows lax (Outcome.Rel V) S
      (ev₁ body p mode { r₁ with context := r₁.context.countCall.enter id p })
      (ev₂ body p mode { r₂ with context := r₂.context.countCall.enter id p }))
    (hclose : ∀ ⦃o₁ o₂ m₁ m₂⦄, Outcome.Rel V o₁ o₂ → S m₁ m₂ → Follows lax (Outcome.Rel V) S
      (some (g₁.finishCall input id mode o₁ { m₁ with
        context := .close keep₁ r₁.context.countCall m₁.context id name p mode o₁ }))
      (some (g₂.finishCall input id mode o₂ { m₂ with
        context := .close keep₂ r₂.context.countCall m₂.context id name p mode o₂ }))) :
    Follows lax (Outcome.Rel V) S (g₁.callKeeping input keep₁ ev₁ id name p mode r₁)
      (g₂.callKeeping input keep₂ ev₂ id name p mode r₂) := by
  generalize hfind₁ : r₁.context.memo.find? name p mode = found₁ at hfind
  generalize hfind₂ : r₂.context.memo.find? name p mode = found₂ at hfind
  cases hfind with
  | some hrel =>
    rw [callKeeping_hit hfind₁, callKeeping_hit hfind₂]
    exact hhit hfind₁ hrel
  | none =>
    by_cases hid : id ∈ r₁.context.activeAt p
    · rw [callKeeping_cut hfind₁ hid, callKeeping_cut hfind₂ (hactive ▸ hid)]
      exact .some (.failed p) hcut
    · have hid₂ : id ∉ r₂.context.activeAt p := hactive ▸ hid
      simp only [callKeeping, Context.memo_countCall, hfind₁, hfind₂, Context.activeAt_countCall,
        hid, hid₂, if_false, ← hbody]
      -- A rule that is not there fails like a body that does.
      cases hbody₁ : g₁.body? name with
      | none => exact hclose (.failed p) henter
      | some body =>
        intro o r₁' ho
        dsimp only at ho ⊢
        split at ho
        · cases ho
        · next inner₁ mid₁ hinner₁ =>
          rcases hev body hbody₁ hinner₁ with ⟨hlax, hnone⟩ | ⟨inner₂, mid₂, hinner₂, hrel, hmid⟩
          · rw [hnone]
            exact .inl ⟨hlax, rfl⟩
          · rw [hinner₂]
            exact hclose hrel hmid ho

end SideBySide

end Grammar

end Packrat
