import Packrat.Proofs.Evaluation.Moves
import Packrat.Proofs.Unfolding

/-!
# Evaluating trees

The moves of an expression are a fold over it (`Expr.move`), given the moves of its non-terminals.
Evaluating an operator in an arena and evaluating its tree come to the same, but for the depth that
is needed (`Grammar.Silent.evalCalling_le_move`, `Grammar.Silent.move_le_evalCalling`).

Unlike operators in an arena, trees can be rewritten. A tree moves like a renamed one
(`Expr.move_follows`) and like the spliced one (`Expr.move_spliced`), as long as no move goes back
(`Move.Steady`). So grammars evaluate alike if their trees are alike once they are spliced
(`Grammar.Silent.evalCalling_follows`).
-/

namespace Packrat

variable {K N ν ν₁ ν₂ : Type} [DecidableEq K] {input : Array (Token K)}

/-! ## Moves of expressions -/

/-- The move of an expression, given how names are called. -/
def Expr.move (input : Array (Token K)) (call : ν → Move N) : Expr K ν → Move N :=
  Expr.fold (Operator.move input call)

theorem Expr.move_eq (call : ν → Move N) (e : Expr K ν) :
    e.move input call = (e.operator.map (move input call)).move input call := fold_eq _ e

/-- **Expressions that are the same but for their names move alike**, if the names are called
alike. -/
theorem Expr.move_follows {P : Nat → Outcome Unit → Prop} (hP : Regular P)
    {S : Run N Unit → Run N Unit → Prop} {f₁ : ν₁ → ν} {f₂ : ν₂ → ν} {call₁ : ν₁ → Move N}
    {call₂ : ν₂ → Move N}
    (hcall : ∀ x y, f₁ x = f₂ y → Move.FollowedBy P S (call₁ x) (call₂ y)) {e₁ : Expr K ν₁}
    {e₂ : Expr K ν₂} (h : e₁.rename f₁ = e₂.rename f₂) :
    Move.FollowedBy P S (e₁.move input call₁) (e₂.move input call₂) := by
  induction e₁ using operandInduction generalizing e₂ with
  | step e₁ ih =>
    have hops := congrArg Expr.operator h
    rw [operator_rename, operator_rename] at hops
    have hrel := (Operator.rel_of_map_eq hops).imp (fun _ _ h => h) fun o ho o' _ h => ih o ho h
    rw [move_eq, move_eq]
    exact Operator.move_follows hP hcall (hrel.map (move input call₁) (move input call₂))

/-! ## Splicing -/

namespace Move

variable {J : Run N Unit → Prop} {m m₁ m₂ : Move N} {mode : Mode} {p : Nat} {r r' : Run N Unit}

/-- A move that keeps `J` and does not go back. -/
def Steady (J : Run N Unit → Prop) (m : Move N) : Prop :=
  ∀ p mode ⦃r o r'⦄, J r → m p mode r = some (o, r') → J r' ∧ o.Forward p

/-- A steady move follows itself. -/
theorem Steady.followedBy (h : Steady J m) :
    FollowedBy (fun p o => o.Forward p) (fun r₁ r₂ => r₁ = r₂ ∧ J r₁) m m := by
  rintro p mode r _ ⟨rfl, hJ⟩ o r' ho
  obtain ⟨hJ', hforward⟩ := h p mode hJ ho
  exact .inr ⟨o, r', ho, ⟨rfl, hforward⟩, rfl, hJ'⟩

/-- A move that follows itself is steady. -/
theorem FollowedBy.steady
    (h : FollowedBy (fun p o => o.Forward p) (fun r₁ r₂ => r₁ = r₂ ∧ J r₁) m m) : Steady J m := by
  intro p mode r o r' hJ ho
  obtain ⟨_, _, -, ⟨-, hforward⟩, -, hJ'⟩ := (h p mode ⟨rfl, hJ⟩).exists ho
  exact ⟨hJ', hforward⟩

/-- Moves that agree from the runs on that satisfy `J`. -/
def AgreeOn (J : Run N Unit → Prop) (m₁ m₂ : Move N) : Prop :=
  ∀ p mode ⦃r⦄, J r → m₁ p mode r = m₂ p mode r

/-- Moves that agree follow one another, if one of them is steady. -/
theorem AgreeOn.followedBy (h : AgreeOn J m₁ m₂) (hm : Steady J m₁) :
    FollowedBy (fun _ _ => True) (fun r₁ r₂ => r₁ = r₂ ∧ J r₁) m₁ m₂ := by
  rintro p mode r _ ⟨rfl, hJ⟩ o r' ho
  exact .inr ⟨o, r', h p mode hJ ▸ ho, ⟨rfl, trivial⟩, rfl, (hm p mode hJ ho).1⟩

/-- Moves that follow one another agree. -/
theorem agreeOn_of_followedBy
    (h : FollowedBy (fun _ _ => True) (fun r₁ r₂ => r₁ = r₂ ∧ J r₁) m₁ m₂)
    (h' : FollowedBy (fun _ _ => True) (fun r₁ r₂ => r₁ = r₂ ∧ J r₁) m₂ m₁) :
    AgreeOn J m₁ m₂ := by
  intro p mode r hJ
  cases h₁ : m₁ p mode r with
  | some x =>
    obtain ⟨_, _, h₂, ⟨rfl, -⟩, rfl, -⟩ := (h p mode ⟨rfl, hJ⟩).exists h₁
    exact h₂.symm
  | none =>
    cases h₂ : m₂ p mode r with
    | none => rfl
    | some x =>
      obtain ⟨_, _, h₁', -⟩ := (h' p mode ⟨rfl, hJ⟩).exists h₂
      rw [h₁] at h₁'
      cases h₁'

/-- Steady moves, one after the other, do not go back. -/
theorem inOrder_steady {ms : List (Move N)} (hms : ∀ m ∈ ms, Steady J m) (hJ : J r)
    {x : Except Nat Nat} (h : inOrder mode ms p r = some (x, r')) :
    J r' ∧ ∀ stop, x = .ok stop → p ≤ stop := by
  induction ms generalizing p r with
  | nil =>
    cases h
    exact ⟨hJ, fun stop hstop => Nat.le_of_eq (Except.ok.inj hstop)⟩
  | cons m rest ih =>
    obtain ⟨hm, hrest⟩ := List.forall_mem_cons.1 hms
    rw [inOrder] at h
    split at h
    · cases h
    · next hfirst =>
      cases h
      refine ⟨(hm p mode hJ hfirst).1, fun stop hstop => ?_⟩
      cases hstop
    · next hfirst =>
      obtain ⟨hJ', hle⟩ := hm p mode hJ hfirst
      obtain ⟨hJ'', hstop⟩ := ih hrest hJ' h
      exact ⟨hJ'', fun stop hx => Nat.le_trans hle (hstop stop hx)⟩

/-- Moves one after the other, in two parts. -/
theorem inOrder_append (ms ms' : List (Move N)) :
    inOrder mode (ms ++ ms') p r =
      match inOrder mode ms p r with
      | none => none
      | some (.error q, r) => some (.error q, r)
      | some (.ok stop, r) => inOrder mode ms' stop r := by
  induction ms generalizing p r with
  | nil => rfl
  | cons m rest ih =>
    rw [List.cons_append, inOrder, inOrder]
    cases m p mode r with
    | none => rfl
    | some x =>
      obtain ⟨o, r'⟩ := x
      cases o with
      | failed q => rfl
      | matched next span _ => exact ih

end Move

/-- Operators move alike if their operands do. -/
theorem Operator.move_agreeOn {J : Run N Unit → Prop} {call : ν → Move N}
    (hcall : ∀ x, (call x).Steady J) {op₁ op₂ : Operator K ν (Move N)}
    (h : Operator.Rel Eq (fun m₁ m₂ => m₁.Steady J ∧ m₂.Steady J ∧ m₁.AgreeOn J m₂) op₁ op₂) :
    Move.AgreeOn J (op₁.move input call) (op₂.move input call) := by
  have hself : ∀ x y, x = y → Move.FollowedBy (fun _ _ => True)
      (fun r₁ r₂ => r₁ = r₂ ∧ J r₁) (call x) (call y) := by
    rintro x _ rfl
    exact Move.AgreeOn.followedBy (fun _ _ _ _ => rfl) (hcall x)
  refine Move.agreeOn_of_followedBy (Operator.move_follows regular_true hself ?_)
    (Operator.move_follows regular_true (fun x y h => hself x y h) ?_)
  · exact h.imp (fun _ _ h => h) fun m₁ _ m₂ _ hm => hm.2.2.followedBy hm.1
  · refine h.flip.imp (fun _ _ h => h.symm) fun m₂ _ m₁ _ hm => ?_
    exact Move.AgreeOn.followedBy (fun p mode r hJ => (hm.2.2 p mode hJ).symm) hm.2.1

namespace Expr

variable {J : Run N Unit → Prop} {call : ν → Move N}

/-- Expressions are steady if the calls in them are. -/
theorem move_steady (hcall : ∀ x, (call x).Steady J) (e : Expr K ν) :
    (e.move input call).Steady J := by
  have hself : ∀ x y, id x = id y → Move.FollowedBy (fun p o => o.Forward p)
      (fun r₁ r₂ => r₁ = r₂ ∧ J r₁) (call x) (call y) := by
    rintro x _ rfl
    exact (hcall x).followedBy
  exact (move_follows regular_forward hself rfl).steady

/-- Within a sequence, an expression moves like what it stands for there. -/
theorem inOrder_flatMap_inSequence (hcall : ∀ x, (call x).Steady J) (items : List (Expr K ν))
    (mode : Mode) (p : Nat) {r : Run N Unit} (hJ : J r) :
    Move.inOrder mode ((items.flatMap inSequence).map (move input call)) p r =
      Move.inOrder mode (items.map (move input call)) p r := by
  induction items generalizing p r with
  | nil => rfl
  | cons item rest ih =>
    rw [List.flatMap_cons, List.map_append, Move.inOrder_append, List.map_cons, Move.inOrder]
    by_cases hseq : ∃ parts, item = .sequence parts
    · obtain ⟨parts, rfl⟩ := hseq
      have hparts : ∀ m ∈ parts.map (move input call), m.Steady J :=
        List.forall_mem_map.2 fun e _ => move_steady hcall e
      rw [move_eq]
      dsimp only [inSequence, operator, Operator.map, Operator.move]
      cases hall : Move.inOrder mode (parts.map (move input call)) p r with
      | none => rfl
      | some x =>
        obtain ⟨x, r'⟩ := x
        obtain ⟨hJ', hle⟩ := Move.inOrder_steady hparts hJ hall
        cases x with
        | error q => rfl
        | ok stop =>
          -- The sequence ends where its last part does, since that is not before its beginning.
          have hnext : p + (stop - p) = stop := by
            have hstop := hle stop rfl
            omega
          dsimp only [Outcome.matchedAt]
          rw [hnext]
          exact ih stop hJ'
    · have hself : item.inSequence = [item] := by
        cases item with
        | sequence parts => exact absurd ⟨parts, rfl⟩ hseq
        | _ => rfl
      rw [hself, List.map_singleton, Move.inOrder]
      cases hfirst : item.move input call p mode r with
      | none => rfl
      | some x =>
        obtain ⟨o, r'⟩ := x
        cases o with
        | failed q => rfl
        | matched next span _ => exact ih next (move_steady hcall item p mode hJ hfirst).1

/-- **An expression moves like the spliced one.** -/
theorem move_spliced (hcall : ∀ x, (call x).Steady J) (e : Expr K ν) :
    Move.AgreeOn J (e.spliced.move input call) (e.move input call) := by
  induction e using operandInduction with
  | step e ih =>
    have hoperands : Move.AgreeOn J
        (((e.operator.map spliced).map (move input call)).move input call) (e.move input call) := by
      have hrel : Operator.Rel Eq
          (fun x y : Expr K ν => (x.spliced.move input call).Steady J ∧
            (y.move input call).Steady J ∧ (x.spliced.move input call).AgreeOn J
              (y.move input call)) e.operator e.operator :=
        Operator.rel_self fun o ho => ⟨move_steady hcall _, move_steady hcall o, ih o ho⟩
      rw [move_eq call e, Operator.map_map]
      exact Operator.move_agreeOn hcall
        (hrel.map (fun o : Expr K ν => o.spliced.move input call) (move input call))
    intro p mode r hJ
    rw [← hoperands p mode hJ, spliced_eq, move_eq, operator_toExpr]
    cases e with
    | sequence items =>
      dsimp only [operator, Operator.map, Operator.splice, Operator.move]
      rw [inOrder_flatMap_inSequence hcall _ mode p hJ]
    | _ => rfl

end Expr

/-! ## Trees in an arena -/

namespace Grammar

variable [ToString K] [ToString N] {g : Grammar K N Unit}
  {callRule : Evaluator N Unit → CallRule N Unit} {id : NodeId} {depth : Nat}
  {t : Expr K (N × NodeId)}

/-- How the non-terminals of a marked tree are called, with a bound on the depth. -/
def callAt (g : Grammar K N Unit) (input : Array (Token K))
    (callRule : Evaluator N Unit → CallRule N Unit) (depth : Nat) (x : N × NodeId) : Move N :=
  callRule (g.evalCalling input callRule depth) x.2 x.1

/-- More depth finds more. -/
theorem evalCalling_le (hcall : MonotoneCalls callRule) {n k : Nat} (h : n ≤ k) (id : NodeId) :
    Move.Le (g.evalCalling input callRule n id) (g.evalCalling input callRule k id) :=
  Move.le_of_forall fun _ _ _ _ hx => evalCalling_mono hcall h hx

/-- More depth answers more calls. -/
theorem callAt_le (hcall : MonotoneCalls callRule) {n k : Nat} (h : n ≤ k) (x : N × NodeId) :
    Move.Le (g.callAt input callRule n x) (g.callAt input callRule k x) :=
  Move.le_of_forall fun _ _ _ _ hx => hcall (evalCalling_mono hcall h) hx

/-- **What evaluation in an arena finds, evaluation of the tree finds.** -/
theorem Silent.evalCalling_le_move (hg : g.Silent) (hcall : MonotoneCalls callRule) {n : Nat}
    (ht : g.arena.marked.unfolding depth id = some t) :
    Move.Le (g.evalCalling input callRule (n + 1) id)
      (t.move input (g.callAt input callRule n)) := by
  induction depth generalizing id t with
  | zero => cases ht
  | succ depth ih =>
    obtain ⟨op, hop, hrel⟩ := Arena.unfolding_succ_eq_some.1 ht
    rw [Arena.get?_marked, Option.map_eq_some_iff] at hop
    obtain ⟨op, hop, rfl⟩ := hop
    have hstep : g.evalCalling input callRule (n + 1) id =
        (op.map (g.evalCalling input callRule n)).move input
          (callRule (g.evalCalling input callRule n) id) := by
      funext p mode run
      rw [evalCalling, hg.step_eq_move, hop]
    have hoperands := hrel.of_rename.imp (fun _ _ h => h) fun o _ item _ ho =>
      (evalCalling_le hcall (Nat.le_succ n) o).trans (ih ho)
    rw [hstep, Expr.move_eq]
    refine Operator.move_follows regular_true ?_ (hoperands.map _ _)
    rintro name _ rfl
    exact callAt_le hcall (Nat.le_refl n) (name, id)

/-- **What evaluation of the tree finds, evaluation in the arena finds** with the depth of the tree
more. -/
theorem Silent.move_le_evalCalling (hg : g.Silent) (hcall : MonotoneCalls callRule) {n : Nat}
    (ht : g.arena.marked.unfolding depth id = some t) :
    Move.Le (t.move input (g.callAt input callRule n))
      (g.evalCalling input callRule (n + depth) id) := by
  induction depth generalizing id t with
  | zero => cases ht
  | succ depth ih =>
    obtain ⟨op, hop, hrel⟩ := Arena.unfolding_succ_eq_some.1 ht
    rw [Arena.get?_marked, Option.map_eq_some_iff] at hop
    obtain ⟨op, hop, rfl⟩ := hop
    have hstep : g.evalCalling input callRule (n + (depth + 1)) id =
        (op.map (g.evalCalling input callRule (n + depth))).move input
          (callRule (g.evalCalling input callRule (n + depth)) id) := by
      funext p mode run
      rw [← Nat.add_assoc, evalCalling, hg.step_eq_move, hop]
    have hoperands := hrel.of_rename.flip.imp (fun _ _ h => h) fun item _ o _ ho => ih ho
    rw [hstep, Expr.move_eq]
    refine Operator.move_follows regular_true ?_ (hoperands.map _ _)
    rintro _ name rfl
    exact callAt_le hcall (Nat.le_add_right n depth) (name, id)

/-- Evaluation is steady if calls are. -/
theorem Silent.evalCalling_steady (hg : g.Silent) {J : Run N Unit → Prop}
    (hcall : ∀ ev : Evaluator N Unit, (∀ id, Move.Steady J (ev id)) →
      ∀ id name, Move.Steady J (callRule ev id name)) (n : Nat) :
    ∀ id, Move.Steady J (g.evalCalling input callRule n id) := by
  induction n with
  | zero => exact fun id p mode r o r' _ => nofun
  | succ n ih =>
    intro id p mode r o r' hJ ho
    rw [evalCalling, hg.step_eq_move] at ho
    cases hop : g.arena.get? id with
    | none =>
      rw [hop] at ho
      cases ho
      exact ⟨hJ, trivial⟩
    | some op =>
      rw [hop] at ho
      have hself : ∀ x y, x = y → Move.FollowedBy (fun p o => o.Forward p)
          (fun r₁ r₂ => r₁ = r₂ ∧ J r₁) (callRule (g.evalCalling input callRule n) id x)
          (callRule (g.evalCalling input callRule n) id y) := by
        rintro x _ rfl
        exact (hcall _ ih id x).followedBy
      have hrel : Operator.Rel Eq (fun x y => Move.FollowedBy (fun p o => o.Forward p)
          (fun r₁ r₂ => r₁ = r₂ ∧ J r₁) (g.evalCalling input callRule n x)
          (g.evalCalling input callRule n y)) op op :=
        Operator.rel_self fun o _ => (ih o).followedBy
      exact (Operator.move_follows regular_forward hself (hrel.map _ _)).steady p mode hJ ho

/-! ## Grammars with the same trees -/

/-- **Grammars evaluate alike if their trees are alike once they are spliced.** The names and ids of
non-terminals may differ, if calls are answered alike whenever bodies are. -/
theorem Silent.evalCalling_follows {g₁ g₂ : Grammar K N Unit} (hg₁ : g₁.Silent) (hg₂ : g₂.Silent)
    {c₁ c₂ : Evaluator N Unit → CallRule N Unit} (hmono₁ : MonotoneCalls c₁)
    (hmono₂ : MonotoneCalls c₂) {J₁ J₂ : Run N Unit → Prop} {S : Run N Unit → Run N Unit → Prop}
    (hJ : ∀ ⦃r₁ r₂⦄, S r₁ r₂ → J₁ r₁ ∧ J₂ r₂)
    (hsteady₁ : ∀ ev : Evaluator N Unit, (∀ id, Move.Steady J₁ (ev id)) →
      ∀ id name, Move.Steady J₁ (c₁ ev id name))
    (hsteady₂ : ∀ ev : Evaluator N Unit, (∀ id, Move.Steady J₂ (ev id)) →
      ∀ id name, Move.Steady J₂ (c₂ ev id name))
    {f₁ f₂ : N × NodeId → ν} {Twin : NodeId → NodeId → Prop}
    (htwin : ∀ ⦃id₁ id₂⦄, Twin id₁ id₂ → ∃ t₁ t₂, g₁.arena.marked.unfold? id₁ = some t₁ ∧
      g₂.arena.marked.unfold? id₂ = some t₂ ∧ t₁.spliced.rename f₁ = t₂.spliced.rename f₂)
    (hcall : ∀ ev₁ ev₂ : Evaluator N Unit, (∀ id, Move.Steady J₁ (ev₁ id)) →
      (∀ id₁ id₂, Twin id₁ id₂ → Move.FollowedBy (fun _ _ => True) S (ev₁ id₁) (ev₂ id₂)) →
      ∀ x y, f₁ x = f₂ y →
        Move.FollowedBy (fun _ _ => True) S (c₁ ev₁ x.2 x.1) (c₂ ev₂ y.2 y.1)) (n : Nat) :
    ∃ k, ∀ id₁ id₂, Twin id₁ id₂ → Move.FollowedBy (fun _ _ => True) S
      (g₁.evalCalling input c₁ n id₁) (g₂.evalCalling input c₂ k id₂) := by
  induction n with
  | zero => exact ⟨0, fun id₁ id₂ _ p mode r₁ r₂ _ => nofun⟩
  | succ n ih =>
    obtain ⟨k, hk⟩ := ih
    refine ⟨k + g₂.arena.marked.size, fun id₁ id₂ htwins p mode r₁ r₂ hS o r₁' ho => ?_⟩
    obtain ⟨t₁, t₂, ht₁, ht₂, hsame⟩ := htwin htwins
    obtain ⟨hJ₁, hJ₂⟩ := hJ hS
    have hev₁ : ∀ id, Move.Steady J₁ (g₁.evalCalling input c₁ n id) :=
      hg₁.evalCalling_steady hsteady₁ n
    have hcalls₁ : ∀ x, (g₁.callAt input c₁ n x).Steady J₁ := fun x => hsteady₁ _ hev₁ x.2 x.1
    have hcalls₂ : ∀ x, (g₂.callAt input c₂ k x).Steady J₂ := fun x =>
      hsteady₂ _ (hg₂.evalCalling_steady hsteady₂ k) x.2 x.1
    -- From the arena to its tree, over to the other tree, and back to its arena.
    have htree := (hg₁.evalCalling_le_move hmono₁ ht₁).eq_some ho
    rw [← Expr.move_spliced hcalls₁ t₁ p mode hJ₁] at htree
    have hcalls : ∀ x y, f₁ x = f₂ y → Move.FollowedBy (fun _ _ => True) S
        (g₁.callAt input c₁ n x) (g₂.callAt input c₂ k y) := hcall _ _ hev₁ hk
    obtain ⟨_, r₂', htree₂, ⟨rfl, -⟩, hS'⟩ :=
      (Expr.move_follows regular_true hcalls hsame p mode hS).exists htree
    rw [Expr.move_spliced hcalls₂ t₂ p mode hJ₂] at htree₂
    exact .inr ⟨o, r₂', (hg₂.move_le_evalCalling hmono₂ ht₂).eq_some htree₂, ⟨rfl, trivial⟩, hS'⟩

end Grammar

end Packrat
