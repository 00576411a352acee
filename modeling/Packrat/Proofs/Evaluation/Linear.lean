import Packrat.Proofs.Evaluation.Accounting
import Packrat.Proofs.Evaluation.Ranked
import Packrat.Proofs.Validation

/-!
# Parses in linear time

The memo table keeps what is known while probing apart from what is known while consuming, so in
general a rule may be evaluated twice at a position. Where the operands of predicates call no rules,
everything is asked for in the consuming mode only (`Grammar.evalKeeping_unprobed`). A ranked
grammar of this kind evaluates every rule once at most at each position
(`Grammar.Ranked.parseWith_cost`), whether the tokens match or not.
-/

namespace Packrat

variable {K N T ι κ : Type}

/-! ## Rules that are called in the consuming mode only -/

@[simp] theorem Operator.operandMode_map (f : ι → κ) (op : Operator K N ι) :
    (op.map f).operandMode = op.operandMode := by
  funext mode
  rw [operandMode, operandMode, kind_map]

/-- Operators that are related try their operands in the same mode. -/
theorem Operator.Rel.operandMode {N' : Type} {Q : N → N' → Prop} {R : ι → κ → Prop}
    {op : Operator K N ι} {op' : Operator K N' κ} (h : Operator.Rel Q R op op') :
    op.operandMode = op'.operandMode := by
  cases h <;> rfl

/-- Whether an operator tried in a mode calls rules in the consuming mode only, if it is known of
its operands in each mode. -/
def Operator.onlyConsumes (op : Operator K N (Mode → Bool)) (mode : Mode) : Bool :=
  (op.callee?.isNone || mode = .consuming) && op.operands.all fun o => o (op.operandMode mode)

/-- Whether an expression tried in a mode calls rules in the consuming mode only. -/
def Expr.onlyConsumes : Expr K N → Mode → Bool := fold Operator.onlyConsumes

theorem Expr.onlyConsumes_iff {e : Expr K N} {mode : Mode} :
    e.onlyConsumes mode ↔ (e.operator.callee?.isSome → mode = .consuming) ∧
      ∀ o ∈ e.operator.operands, o.onlyConsumes (e.operator.operandMode mode) := by
  rw [onlyConsumes, fold_eq, Operator.onlyConsumes, Operator.operands_map, Operator.callee?_map,
    Operator.operandMode_map]
  cases e.operator.callee? <;> simp

namespace Grammar

/-- A move of runs keeps a property of them. -/
def Keeps (U : Run N T → Prop) (move : Run N T → Option (Outcome T × Run N T)) : Prop :=
  ∀ ⦃run o run'⦄, U run → move run = some (o, run') → U run'

/-- A move that keeps a property follows itself with it. -/
theorem Keeps.follows {U : Run N T → Prop} {move : Run N T → Option (Outcome T × Run N T)}
    (h : Keeps U move) ⦃r₁ r₂ : Run N T⦄ (hU : r₁ = r₂ ∧ U r₁) :
    Follows False (Outcome.Rel (· = ·)) (fun r₁ r₂ => r₁ = r₂ ∧ U r₁) (move r₁) (move r₂) := by
  obtain ⟨rfl, hU⟩ := hU
  intro o run' hmove
  exact .inr ⟨o, run', hmove, .refl o, rfl, h hU hmove⟩

/-- A move that follows itself with a property keeps it. -/
theorem keeps_of_follows {U : Run N T → Prop} {move : Run N T → Option (Outcome T × Run N T)}
    (h : ∀ run, U run → Follows False (Outcome.Rel (· = ·)) (fun r₁ r₂ => r₁ = r₂ ∧ U r₁)
      (move run) (move run)) : Keeps U move := by
  intro run o run' hU hmove
  obtain ⟨_, _, -, -, -, hU'⟩ := (h run hU).exists hmove
  exact hU'

section Step

variable [ToString K] [ToString N] [Inhabited T] {g : Grammar K N T} {input : Array (Token K)}
  {ev : Evaluator N T} {id : NodeId} {mode : Mode} {p : Nat}

/-- An operator keeps what its operands and the call of a rule keep, each in the mode in which it is
tried. -/
theorem step_keepsInModes [DecidableEq K] {U : Run N T → Prop} {callRule : CallRule N T}
    (hfire : ∀ id span values mode run, U run → U (g.fire input id span values mode run).2)
    (hev : ∀ op, g.arena.get? id = some op → ∀ o ∈ op.operands, ∀ q,
      Keeps U (ev o q (op.operandMode mode)))
    (hcall : ∀ name, g.arena.get? id = some (.nonTerminal name) →
      Keeps U (callRule id name p mode)) :
    Keeps U (g.step input callRule ev id p mode) := by
  have halike : Alike g g input (· = ·) (fun r₁ r₂ => r₁ = r₂ ∧ U r₁) mode mode :=
    { operators := fun _ => rfl
      default := rfl
      fire := fun id span vs₁ vs₂ r₁ r₂ hvalues hU => by
        obtain ⟨rfl, hU⟩ := hU
        rw [List.forall₂_eq_eq_eq] at hvalues
        subst hvalues
        exact ⟨rfl, rfl, hfire id span vs₁ mode r₁ hU⟩ }
  exact keeps_of_follows fun run hU => halike.step_of_modes
    (fun op hop o ho q => (hev op hop o ho q).follows)
    (fun name hget => (hcall name hget).follows ⟨rfl, hU⟩) ⟨rfl, hU⟩

end Step

/-! ## What is known while probing -/

variable [DecidableEq N]

/-- Nothing is known while probing. -/
def Unprobed (run : Run N T) : Prop :=
  ∀ ⦃name p⦄, run.context.memo.find? name p .probing = none

variable [ToString K] [ToString N] [Inhabited T] {g : Grammar K N T} {input : Array (Token K)}

omit [ToString K] [ToString N] [Inhabited T] in
theorem Unprobed.close {mid : Run N T} (h : Unprobed mid) (before : Context N T) (id : NodeId)
    (name : N) (p : Nat) (o : Outcome T) :
    Unprobed { mid with
      context := Context.close (fun _ _ => true) before mid.context id name p .consuming o } := by
  refine fun name' q => Option.eq_none_iff_forall_ne_some.2 fun o' ho' => ?_
  rcases Context.find?_close ho' with hold | ⟨-, -, -, hmode, -⟩
  · rw [h] at hold
    cases hold
  · cases hmode

theorem keeps_finishCall (id : NodeId) (mode : Mode) (o : Outcome T) :
    Keeps Unprobed fun run => some (g.finishCall input id mode o run) := by
  intro run o' run' hU hfinish
  obtain ⟨_, _, hsame, -, hcontext⟩ := g.finishCall_frame input id mode o run
  dsimp only at hfinish
  rw [hsame] at hfinish
  cases hfinish
  rw [Unprobed, hcontext]
  exact hU

/-- A call in the consuming mode writes down nothing else. -/
theorem callKeeping_unprobed {ev : Evaluator N T} {id : NodeId} {name : N} {p : Nat}
    (hev : ∀ body, g.body? name = some body → Keeps Unprobed (ev body p .consuming)) :
    Keeps Unprobed (g.callKeeping input (fun _ _ => true) ev id name p .consuming) := by
  refine keeps_of_follows fun run hU => callKeeping_sideBySide rfl rfl (rel_find?_refl _)
    (fun o₁ o₂ _ ho => ?_) ⟨rfl, hU⟩ ⟨rfl, hU⟩
    (fun body hbody => (hev body hbody).follows ⟨rfl, hU⟩) fun o₁ o₂ m₁ m₂ ho hm => ?_
  · cases ho.eq
    exact (keeps_finishCall id .consuming o₁).follows ⟨rfl, hU⟩
  · cases ho.eq
    obtain ⟨rfl, hm⟩ := hm
    exact (keeps_finishCall id .consuming o₁).follows ⟨rfl, hm.close _ id name p o₁⟩

variable [DecidableEq K] {b : Builder K N T} {start : N} {rules : List (Rule N)}

/-- **Nothing is asked for while probing**, if all rules call rules in the consuming mode only. -/
theorem evalKeeping_unprobed (hb : b.Made) (hg : b.build start rules = .ok g)
    (hconsumes : ∀ ⦃name e⦄, g.tree? name = some e → e.onlyConsumes .consuming) (depth : Nat) :
    ∀ {size id e mode}, g.arena.unfolding size id = some e → e.onlyConsumes mode → ∀ p,
      Keeps Unprobed (g.evalKeeping input (fun _ _ => true) depth id p mode) := by
  induction depth with
  | zero => exact fun _ _ _ _ _ _ _ => nofun
  | succ depth ih =>
    intro size id e mode he hmode p
    cases size with
    | zero => cases he
    | succ size =>
      obtain ⟨op, hop, hrel⟩ := Arena.unfolding_succ_eq_some.1 he
      obtain ⟨hcallee, hoperands⟩ := Expr.onlyConsumes_iff.1 hmode
      refine step_keepsInModes (fun id span values mode run hU => ?_) (fun op' hop' o ho q => ?_)
        fun name hname => ?_
      · rw [Unprobed, fire_context]
        exact hU
      · cases hop.symm.trans hop'
        obtain ⟨item, hitem, hunfold⟩ := hrel.flip.exists_of_mem ho
        rw [hrel.operandMode]
        exact ih hunfold (hoperands item hitem) q
      · cases hop.symm.trans hname
        have hconsuming : mode = .consuming := by
          refine hcallee ?_
          generalize e.operator = op' at hrel
          cases hrel
          rfl
        subst hconsuming
        refine callKeeping_unprobed fun body hbody => ?_
        obtain ⟨t, -, -, htree⟩ := exists_tree_of_body? hb hg hbody
        have hunfold : g.arena.unfold? body = some (t.rename Prod.fst) := by
          rwa [tree?, hbody] at htree
        exact ih hunfold (hconsumes htree) p

/-- **A ranked grammar is evaluated in linear time**, if its predicates call no rules. Whatever the
tokens are, a parse ends, no call is refused, and every call that is not answered from the memo
table evaluates the body of its rule, of which there is one entry; each rule has one entry at most
at each of the `n + 1` positions. -/
theorem Ranked.parseWith_cost {skips : N → Bool} {rank : N → Nat} (h : g.Ranked skips rank)
    (hb : b.Made) (hg : b.build start rules = .ok g)
    (hconsumes : ∀ ⦃name e⦄, g.tree? name = some e → e.onlyConsumes .consuming)
    (input : Array (Token K)) (context : Context N T) (labels : Labels) :
    ∃ raw run, g.evalStart input { context := context.reset, labels } = some (raw, run) ∧
      g.parseWith input context labels = (raw.complete input.size, run) ∧
      run.context.stats.cuts = 0 ∧
      run.context.stats.ruleCalls = run.context.stats.memoHits + run.context.memo.size ∧
      run.context.memo.size ≤ g.rules.length * (input.size + 1) := by
  obtain ⟨raw, run, hraw, hparse, hledger, hkeys⟩ := parseWith_ledger hb hg input context labels
  have hcuts : run.context.stats.cuts = 0 := by
    have hzero := h.cuts_eq_zero hb hg input context labels
    rwa [hparse] at hzero
  obtain ⟨depth, plain, hbalanced, -⟩ := exists_evalOnce_start hb hg hraw hcuts
  refine ⟨raw, run, hraw, hparse, hcuts, hbalanced.balance, ?_⟩
  have hunprobed : Unprobed run := by
    have hempty : Unprobed ({ context := context.reset, labels } : Run N T) :=
      fun name p => context.find?_reset p name .probing
    have hlive : g.Live g.startNode := .inl rfl
    obtain ⟨t, hmarked, hunfold, -⟩ := hlive.exists_unfold hb hg
    cases (unfold?_marked_startNode hg).symm.trans hmarked
    rw [evalStart, eval_eq] at hraw
    exact evalKeeping_unprobed hb hg hconsumes _ hunfold rfl 0 hempty hraw
  have hsize := Memo.size_le_of_modes [.consuming] hledger.nodup fun name p mode hkey => by
    refine ⟨(hkeys hkey).1, (hkeys hkey).2, ?_⟩
    cases mode with
    | consuming => exact List.mem_cons_self
    | probing =>
      rw [hunprobed] at hkey
      cases hkey
  rwa [List.length_map, List.length_singleton, Nat.mul_one] at hsize

end Grammar

end Packrat
