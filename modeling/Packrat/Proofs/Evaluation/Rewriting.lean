import Packrat.Proofs.Evaluation.Echoes
import Packrat.Proofs.Evaluation.Sharing

/-!
# Rewriting expressions

Some operators can be written with others: a repetition with one turn at least, an optional operand,
a predicate, a choice or a sequence within another one. `Expr.Rewrites` is the least preorder that
contains these rewritings and is kept by all operators, so it is rewriting anywhere in an expression
any number of times.

The evaluator does not treat the two sides alike. A repetition stops without trying its operand
again where a turn has not advanced, or no tokens are left; written as one turn and then any number,
it does try. So the rewritten expression may fail to end where the other one ends, and echoes are in
one direction only: what it finds, the other finds too (`Expr.Rewrites.echoedBy`). Calls of rules
are no obstacle, since the rules of both grammars are evaluated to some depth, and the induction is
on that depth (`Grammar.Silent.plainEval_echoes_of_rewritten`).

`Grammar.parseWith_of_rewrites` is the result about parses.
-/

namespace Packrat

variable {K N ν ν₁ T T₁ T₂ : Type}

/-! ## Rewriting -/

/-- The second expression is obtained from the first by writing operators with others, anywhere and
any number of times. -/
inductive Expr.Rewrites : Expr K N → Expr K N → Prop
  | refl (e : Expr K N) : Rewrites e e
  | trans {e e' e'' : Expr K N} : Rewrites e e' → Rewrites e' e'' → Rewrites e e''
  | oneOrMore (e : Expr K N) : Rewrites (.oneOrMore e) (.sequence [e, .zeroOrMore e])
  | optional (e : Expr K N) : Rewrites (.optional e) (.orderedChoice [e, .emptyString])
  | andPredicate (e : Expr K N) : Rewrites (.andPredicate e) (.notPredicate (.notPredicate e))
  | orderedChoice (before items after : List (Expr K N)) :
      Rewrites (.orderedChoice (before ++ .orderedChoice items :: after))
        (.orderedChoice (before ++ items ++ after))
  | sequence (before items after : List (Expr K N)) :
      Rewrites (.sequence (before ++ .sequence items :: after))
        (.sequence (before ++ items ++ after))
  /-- An operator over pairs of an operand and what it is rewritten to. -/
  | inside (op : Operator K N (Expr K N × Expr K N)) :
      (∀ x ∈ op.operands, Rewrites x.1 x.2) →
      Rewrites (op.map Prod.fst).toExpr (op.map Prod.snd).toExpr

/-- **A rewritten expression is echoed by the original.** -/
theorem Expr.Rewrites.echoedBy [DecidableEq K] {input : Array (Token K)} {call : ν → Move N}
    (hcall : ∀ x, Move.EchoedBy input.size (call x) (call x)) {e e' : Expr K ν}
    (h : e.Rewrites e') : Move.EchoedBy input.size (e'.move input call) (e.move input call) := by
  have hself : ∀ e : Expr K ν, Move.EchoedBy input.size (e.move input call) (e.move input call) :=
    move_echoes hcall
  induction h with
  | refl e => exact hself e
  | trans _ _ ih ih' => exact ih'.trans ih
  | oneOrMore e => exact (hself e).oneOrMore call
  | optional e => exact (hself e).optional call
  | andPredicate e => exact (hself e).andPredicate call
  | orderedChoice before items after =>
    refine Move.echoedBy_of_eq (fun p _ mode r => ?_) (hself _)
    simp only [move_eq, operator, Operator.map, Operator.move, List.map_append, List.map_cons]
    exact Move.firstOf_splice call _ _ _
  | sequence before items after =>
    have hall : ∀ es : List (Expr K ν), ∀ m ∈ es.map (move input call),
        Move.EchoedBy input.size m m := fun es => List.forall_mem_map.2 fun e _ => hself e
    refine Move.echoedBy_of_eq (fun p hp mode r => ?_) (hself _)
    have hsplice := Move.inOrder_splice call (after.map (move input call)) (hall before)
      (hall items) hp mode r
    simp only [move_eq, operator, Operator.map, Operator.move, List.map_append, List.map_cons]
      at hsplice ⊢
    rw [hsplice]
  | inside op _ ih =>
    rw [move_eq, move_eq, operator_toExpr, operator_toExpr, Operator.map_map, Operator.map_map]
    refine Operator.move_echoes (Q := Eq) ?_ ((Operator.rel_self ih).map _ _)
    rintro x _ rfl
    exact hcall x

/-! ## Names -/

section Names

variable [DecidableEq K] {input : Array (Token K)}

/-- A renamed operator calls the names it has now. -/
theorem Operator.move_rename (f : ν₁ → ν) (call : ν → Move N) (op : Operator K ν₁ (Move N)) :
    (op.rename f).move input call = op.move input fun x => call (f x) := by
  cases op <;> rfl

/-- A renamed expression calls the names it has now. -/
theorem Expr.move_rename (f : ν₁ → ν) (call : ν → Move N) (e : Expr K ν₁) :
    (e.rename f).move input call = e.move input fun x => call (f x) := by
  induction e using operandInduction with
  | step e ih =>
    have hoperands : (e.operator.map (rename f)).map (move input call) =
        e.operator.map (move input fun x => call (f x)) := by
      rw [Operator.map_map]
      exact Operator.map_congr ih
    rw [move_eq, operator_rename, Operator.map_rename, hoperands, Operator.move_rename, ← move_eq]

end Names

/-! ## Grammars -/

namespace Grammar

variable [DecidableEq K] [DecidableEq N] [ToString K] [ToString N] {input : Array (Token K)}

section Silent

variable {g g₁ g₂ : Grammar K N Unit} {id : NodeId} {t : Expr K (N × NodeId)}

/-- How the rules are called from a tree, at a depth. -/
theorem Silent.callAt_plainCall (hg : g.Silent) (n : Nat) :
    g.callAt input (g.plainCall input) n = fun x => g.bodyMove (g.plainEval input n) x.1 := by
  funext x
  exact hg.plainCall_eq

/-- What plain evaluation finds at an id, evaluation of the tree finds. -/
theorem Silent.plainEval_le_move (hg : g.Silent) (ht : g.arena.marked.unfold? id = some t)
    (n : Nat) : Move.Le (g.plainEval input (n + 1) id)
      ((t.rename Prod.fst).move input (g.bodyMove (g.plainEval input n))) := by
  rw [Expr.move_rename, ← hg.callAt_plainCall]
  exact hg.evalCalling_le_move monotoneCalls_plainCall ht

/-- What evaluation of the tree finds, plain evaluation finds with the depth of the tree more. -/
theorem Silent.move_le_plainEval (hg : g.Silent) (ht : g.arena.marked.unfold? id = some t)
    (n : Nat) : Move.Le ((t.rename Prod.fst).move input (g.bodyMove (g.plainEval input n)))
      (g.plainEval input (n + g.arena.marked.size) id) := by
  rw [Expr.move_rename, ← hg.callAt_plainCall]
  exact hg.move_le_evalCalling monotoneCalls_plainCall ht

omit [DecidableEq K] [ToString K] [ToString N] in
/-- Bodies of rules are echoed if operators that are related are. -/
theorem bodyMove_echoes {size : Nat} {ev₁ ev₂ : Evaluator N Unit} {R : NodeId → NodeId → Prop}
    {name : N} (hbody : Option.Rel R (g₁.body? name) (g₂.body? name))
    (hev : ∀ id₁ id₂, R id₁ id₂ → Move.EchoedBy size (ev₁ id₁) (ev₂ id₂)) :
    Move.EchoedBy size (g₁.bodyMove ev₁ name) (g₂.bodyMove ev₂ name) := by
  intro p hp mode r₁ r₂
  unfold bodyMove
  generalize g₁.body? name = body₁, g₂.body? name = body₂ at hbody
  cases hbody with
  | none => exact .some (.failed p p) trivial
  | some hR => exact hev _ _ hR p hp mode r₁ r₂

omit [DecidableEq K] [ToString K] [ToString N] in
/-- The body of a rule echoes itself if operators do. -/
theorem bodyMove_echoes_self {size : Nat} {ev : Evaluator N Unit}
    (hev : ∀ id, Move.EchoedBy size (ev id) (ev id)) (name : N) :
    Move.EchoedBy size (g.bodyMove ev name) (g.bodyMove ev name) := by
  have hbody : Option.Rel Eq (g.body? name) (g.body? name) := by
    cases g.body? name with
    | none => exact .none
    | some body => exact .some rfl
  refine bodyMove_echoes hbody ?_
  rintro id _ rfl
  exact hev id

/-- Plain evaluation echoes itself: it does not depend on the run. -/
theorem Silent.plainEval_echoes (hg : g.Silent) (n : Nat) :
    ∀ id, Move.EchoedBy input.size (g.plainEval input n id) (g.plainEval input n id) := by
  induction n with
  | zero => exact fun id p _ mode r₁ r₂ => nofun
  | succ n ih =>
    intro id p hp mode r₁ r₂
    have hbodies : ∀ x y, x = y →
        Move.EchoedBy input.size (g.plainCall input (g.plainEval input n) id x)
          (g.plainCall input (g.plainEval input n) id y) := by
      rintro x _ rfl
      rw [hg.plainCall_eq]
      exact bodyMove_echoes_self ih x
    rw [plainEval_succ, hg.step_eq_move, hg.step_eq_move]
    cases hop : g.arena.get? id with
    | none => exact .some (.failed p p) trivial
    | some op =>
      exact Operator.move_echoes hbodies ((Operator.rel_self fun o _ => ih o).map _ _) p hp mode
        r₁ r₂

/-- The tree at an id of the first grammar is rewritten to the one at an id of the second. -/
def Rewritten (g₁ g₂ : Grammar K N Unit) (id₁ id₂ : NodeId) : Prop :=
  ∃ t₁ t₂, g₁.arena.marked.unfold? id₁ = some t₁ ∧ g₂.arena.marked.unfold? id₂ = some t₂ ∧
    (t₁.rename Prod.fst).Rewrites (t₂.rename Prod.fst)

/-- **Where the trees of rules are rewritten, plain evaluation is echoed**, at every depth by some
depth. -/
theorem Silent.plainEval_echoes_of_rewritten (hg₁ : g₁.Silent) (hg₂ : g₂.Silent)
    (hbodies : ∀ name, Option.Rel (fun id₂ id₁ => g₁.Rewritten g₂ id₁ id₂) (g₂.body? name)
      (g₁.body? name)) (n : Nat) :
    ∃ k, ∀ id₁ id₂, g₁.Rewritten g₂ id₁ id₂ →
      Move.EchoedBy input.size (g₂.plainEval input n id₂) (g₁.plainEval input k id₁) := by
  induction n with
  | zero => exact ⟨0, fun id₁ id₂ _ p _ mode r₁ r₂ => nofun⟩
  | succ n ih =>
    obtain ⟨k, hk⟩ := ih
    refine ⟨k + g₁.arena.marked.size, fun id₁ id₂ hid => ?_⟩
    obtain ⟨t₁, t₂, ht₁, ht₂, hrewrites⟩ := hid
    have hself : ∀ name, Move.EchoedBy input.size (g₂.bodyMove (g₂.plainEval input n) name)
        (g₂.bodyMove (g₂.plainEval input n) name) := bodyMove_echoes_self (hg₂.plainEval_echoes n)
    have hcalls : ∀ name, Move.EchoedBy input.size (g₂.bodyMove (g₂.plainEval input n) name)
        (g₁.bodyMove (g₁.plainEval input k) name) := fun name =>
      bodyMove_echoes (hbodies name) fun id₂ id₁ hid => hk id₁ id₂ hid
    -- From the arena to its tree, back to the tree it was rewritten from, and to that one's arena.
    have htrees := (hrewrites.echoedBy hself).trans
      (Expr.move_echoes hcalls (t₁.rename Prod.fst))
    exact (hg₂.plainEval_le_move ht₂ n).echoedBy (htrees.le (hg₁.move_le_plainEval ht₁ k))

end Silent

/-! ## Parses -/

section Built

variable {b₁ : Builder K N T₁} {b₂ : Builder K N T₂} {start : N} {rules₁ rules₂ : List (Rule N)}
  {g₁ : Grammar K N T₁} {g₂ : Grammar K N T₂}

omit [DecidableEq K] [ToString K] [ToString N] in
/-- Bodies of rules are rewritten if their trees are. -/
theorem rewritten_bodies (hb₁ : b₁.Made) (hb₂ : b₂.Made) (hg₁ : b₁.build start rules₁ = .ok g₁)
    (hg₂ : b₂.build start rules₂ = .ok g₂)
    (htrees : ∀ name, Option.Rel Expr.Rewrites (g₁.tree? name) (g₂.tree? name)) (name : N) :
    Option.Rel (fun id₂ id₁ => g₁.silent.Rewritten g₂.silent id₁ id₂) (g₂.silent.body? name)
      (g₁.silent.body? name) := by
  have hrel := htrees name
  show Option.Rel _ (g₂.body? name) (g₁.body? name)
  cases hbody₁ : g₁.body? name with
  | none =>
    cases hbody₂ : g₂.body? name with
    | none => exact .none
    | some body₂ =>
      obtain ⟨t₂, -, -, htree₂⟩ := exists_tree_of_body? hb₂ hg₂ hbody₂
      rw [htree₂, tree?, hbody₁] at hrel
      cases hrel
  | some body₁ =>
    obtain ⟨t₁, ht₁, -, htree₁⟩ := exists_tree_of_body? hb₁ hg₁ hbody₁
    cases hbody₂ : g₂.body? name with
    | none =>
      rw [htree₁, tree?, hbody₂] at hrel
      cases hrel
    | some body₂ =>
      obtain ⟨t₂, ht₂, -, htree₂⟩ := exists_tree_of_body? hb₂ hg₂ hbody₂
      rw [htree₁, htree₂] at hrel
      cases hrel with
      | some hrewrites =>
        refine .some ⟨t₁, t₂, ?_, ?_, hrewrites⟩
        · rw [unfold?_marked_silent, ht₁]
        · rw [unfold?_marked_silent, ht₂]

omit [DecidableEq K] [ToString K] [ToString N] in
/-- The start nodes are rewritten to one another. -/
theorem rewritten_startNodes (hg₁ : b₁.build start rules₁ = .ok g₁)
    (hg₂ : b₂.build start rules₂ = .ok g₂) :
    g₁.silent.Rewritten g₂.silent g₁.silent.startNode g₂.silent.startNode := by
  refine ⟨.nonTerminal (start, g₁.startNode), .nonTerminal (start, g₂.startNode), ?_, ?_,
    .refl (.nonTerminal start)⟩
  · exact (g₁.unfold?_marked_silent _).trans (unfold?_marked_startNode hg₁)
  · exact (g₂.unfold?_marked_silent _).trans (unfold?_marked_startNode hg₂)

/-- What is derivable for the start node of the rewritten grammar is so for the other one, up to
agreement. -/
theorem exists_parses_silent_of_rewrites (hb₁ : b₁.Made) (hb₂ : b₂.Made)
    (hg₁ : b₁.build start rules₁ = .ok g₁) (hg₂ : b₂.build start rules₂ = .ok g₂)
    (htrees : ∀ name, Option.Rel Expr.Rewrites (g₁.tree? name) (g₂.tree? name))
    {o₂ : Outcome Unit} (h : g₂.silent.Parses input g₂.silent.startNode 0 .consuming o₂) :
    ∃ o₁, g₁.silent.Parses input g₁.silent.startNode 0 .consuming o₁ ∧
      Outcome.Agree input.size 0 o₂ o₁ := by
  have hempty : ∀ g : Grammar K N Unit, g.Labelled ({} : Run N Unit).labels := labelled_empty
  obtain ⟨depth, hdepth⟩ := h.yields g₂.pureActions_silent
  obtain ⟨run, hrun, -⟩ := hdepth depth (Nat.le_refl _) (hempty _)
  obtain ⟨k, hk⟩ := g₁.silent_silent.plainEval_echoes_of_rewritten g₂.silent_silent
    (rewritten_bodies hb₁ hb₂ hg₁ hg₂ htrees) depth
  obtain ⟨o₁, run', hrun', hagree⟩ :=
    (hk _ _ (rewritten_startNodes hg₁ hg₂)).exists (Nat.zero_le _) hrun {}
  exact ⟨o₁, parses_of_plainEval (Builder.build_silent hg₁) g₁.pureActions_silent (.inl rfl)
    (hempty _) hrun', hagree⟩

/-- **Operators can be written with others.** Where a parse with the rewritten grammar refuses no
call, the parse with the other one refuses none either; both accept or both reject, and if they
accept, they end at the same place and have matched the same tokens. The grammars may share
operators in any way, and may have any actions. -/
theorem parseWith_of_rewrites [Inhabited T₁] [Inhabited T₂] (hb₁ : b₁.Made) (hb₂ : b₂.Made)
    (hg₁ : b₁.build start rules₁ = .ok g₁) (hg₂ : b₂.build start rules₂ = .ok g₂)
    (htrees : ∀ name, Option.Rel Expr.Rewrites (g₁.tree? name) (g₂.tree? name))
    (input : Array (Token K)) (context₁ : Context N T₁) (context₂ : Context N T₂)
    (labels₁ labels₂ : Labels)
    (hcuts : (g₂.parseWith input context₂ labels₂).2.context.stats.cuts = 0) :
    (g₁.parseWith input context₁ labels₁).2.context.stats.cuts = 0 ∧
      (g₁.parseWith input context₁ labels₁).1.isMatch =
        (g₂.parseWith input context₂ labels₂).1.isMatch ∧
      ((g₁.parseWith input context₁ labels₁).1.isMatch = true →
        (g₁.parseWith input context₁ labels₁).1.next =
            (g₂.parseWith input context₂ labels₂).1.next ∧
          (g₁.parseWith input context₁ labels₁).1.span? =
            (g₂.parseWith input context₂ labels₂).1.span?) := by
  obtain ⟨hrel₁, hbooks₁⟩ := parseWith_silent hb₁ hg₁ input context₁ labels₁
  obtain ⟨hrel₂, hbooks₂⟩ := parseWith_silent hb₂ hg₂ input context₂ labels₂
  obtain ⟨hcuts₁, hparse₁⟩ := parseWith_silent_cuts hb₁ hg₁ input
  obtain ⟨hcuts₂, hparse₂⟩ := parseWith_silent_cuts hb₂ hg₂ input
  rw [hbooks₂.stats, hcuts₂] at hcuts
  obtain ⟨o₂, ho₂⟩ := hcuts
  obtain ⟨o₁, ho₁, hagree⟩ := exists_parses_silent_of_rewrites hb₁ hb₂ hg₁ hg₂ htrees ho₂
  rw [hparse₁ o₁ ho₁] at hrel₁
  rw [hparse₂ o₂ ho₂] at hrel₂
  have hparses := hagree.symm.complete.of_rel hrel₁ hrel₂
  exact ⟨by rw [hbooks₁.stats, hcuts₁]; exact ⟨o₁, ho₁⟩, hparses.same⟩

end Built

/-- The rule `S => &([x]) ([x])+`. -/
def repeated : Grammar Char Char Unit :=
  .of [.terminal 'x', .andPredicate ⟨0, 0⟩, .oneOrMore ⟨0, 0⟩, .sequence [⟨0, 1⟩, ⟨0, 2⟩]] 'S'
    [⟨'S', ⟨0, 3⟩⟩]

/-- The rule `S => !(!([x])) [x] ([x])*`. -/
def onceAndRepeated : Grammar Char Char Unit :=
  .of [.terminal 'x', .notPredicate ⟨0, 0⟩, .notPredicate ⟨0, 1⟩, .zeroOrMore ⟨0, 0⟩,
    .sequence [⟨0, 2⟩, ⟨0, 0⟩, ⟨0, 3⟩]] 'S' [⟨'S', ⟨0, 4⟩⟩]

/-- Both accept two tokens, since the second one does and refuses no call. -/
theorem parseWith_of_rewrites_repeated :
    ∃ (b₁ b₂ : Builder Char Char Unit) (rules₁ rules₂ : List (Rule Char))
      (input : Array (Token Char)),
      b₁.Made ∧ b₁.build 'S' rules₁ = .ok repeated ∧
      b₂.Made ∧ b₂.build 'S' rules₂ = .ok onceAndRepeated ∧
      input.toList.map (·.tag) = ['x', 'x'] ∧
      (∀ name, Option.Rel Expr.Rewrites (repeated.tree? name) (onceAndRepeated.tree? name)) ∧
      (onceAndRepeated.parseWith input {} ∅).2.context.stats.cuts = 0 ∧
      (repeated.parseWith input {} ∅).2.context.stats.cuts = 0 ∧
      (repeated.parseWith input {} ∅).1.isMatch = true ∧
      (repeated.parseWith input {} ∅).1.next = 2 ∧
      (repeated.parseWith input {} ∅).1.span? = some ⟨0, 2⟩ := by
  obtain ⟨b₁, rules₁, hb₁, hg₁⟩ : ∃ (b : Builder Char Char Unit) (rules : List (Rule Char)),
      b.Made ∧ b.build 'S' rules = .ok repeated := exists_build_of (by decide) rfl
  obtain ⟨b₂, rules₂, hb₂, hg₂⟩ : ∃ (b : Builder Char Char Unit) (rules : List (Rule Char)),
      b.Made ∧ b.build 'S' rules = .ok onceAndRepeated := exists_build_of (by decide) rfl
  have htree₁ : repeated.tree? 'S' = some (.sequence
      [.andPredicate (.terminal 'x'), .oneOrMore (.terminal 'x')]) := rfl
  have htree₂ : onceAndRepeated.tree? 'S' = some (.sequence
      [.notPredicate (.notPredicate (.terminal 'x')), .terminal 'x',
        .zeroOrMore (.terminal 'x')]) := rfl
  -- Both operands are written with others, and then the inner sequence is spliced.
  have hrewrites : Expr.Rewrites
      (.sequence [.andPredicate (.terminal 'x'), .oneOrMore (.terminal 'x')] : Expr Char Char)
      (.sequence [.notPredicate (.notPredicate (.terminal 'x')), .terminal 'x',
        .zeroOrMore (.terminal 'x')]) := by
    refine .trans (.inside (.sequence [(.andPredicate (.terminal 'x'),
        .notPredicate (.notPredicate (.terminal 'x'))), (.oneOrMore (.terminal 'x'),
        .sequence [.terminal 'x', .zeroOrMore (.terminal 'x')])]) ?_)
      (.sequence [.notPredicate (.notPredicate (.terminal 'x'))]
        [.terminal 'x', .zeroOrMore (.terminal 'x')] [])
    simp only [Operator.operands, List.forall_mem_cons]
    exact ⟨.andPredicate _, .oneOrMore _, nofun⟩
  have htrees : ∀ name,
      Option.Rel Expr.Rewrites (repeated.tree? name) (onceAndRepeated.tree? name) := by
    intro name
    by_cases hname : 'S' = name
    · rw [← hname, htree₁, htree₂]
      exact .some hrewrites
    · simp [tree?, body?, repeated, onceAndRepeated, of, hname]
  have hcuts : (onceAndRepeated.parseWith #[⟨'x', ⟨0, 1⟩, "x"⟩, ⟨'x', ⟨1, 1⟩, "x"⟩] {}
      ∅).2.context.stats.cuts = 0 := by decide +kernel
  obtain ⟨hcuts₁, hmatch, hsame⟩ := parseWith_of_rewrites hb₁ hb₂ hg₁ hg₂ htrees
    #[⟨'x', ⟨0, 1⟩, "x"⟩, ⟨'x', ⟨1, 1⟩, "x"⟩] {} {} ∅ ∅ hcuts
  have haccepts : (repeated.parseWith #[⟨'x', ⟨0, 1⟩, "x"⟩, ⟨'x', ⟨1, 1⟩, "x"⟩] {}
      ∅).1.isMatch = true := by
    rw [hmatch]
    decide +kernel
  obtain ⟨hnext, hspan⟩ := hsame haccepts
  refine ⟨b₁, b₂, rules₁, rules₂, _, hb₁, hg₁, hb₂, hg₂, rfl, htrees, hcuts, hcuts₁, haccepts, ?_,
    ?_⟩
  · rw [hnext]
    decide +kernel
  · rw [hspan]
    decide +kernel

/-- The rules `S => ([x] | A)+` and `A => A`. -/
def repeatedCall : Grammar Char Char Unit :=
  .of [.terminal 'x', .nonTerminal 'A', .orderedChoice [⟨0, 0⟩, ⟨0, 1⟩], .oneOrMore ⟨0, 2⟩] 'S'
    [⟨'S', ⟨0, 3⟩⟩, ⟨'A', ⟨0, 1⟩⟩]

/-- The rules `S => ([x] | A) ([x] | A)*` and `A => A`. -/
def onceAndRepeatedCall : Grammar Char Char Unit :=
  .of [.terminal 'x', .nonTerminal 'A', .orderedChoice [⟨0, 0⟩, ⟨0, 1⟩], .zeroOrMore ⟨0, 2⟩,
    .sequence [⟨0, 2⟩, ⟨0, 3⟩]] 'S' [⟨'S', ⟨0, 4⟩⟩, ⟨'A', ⟨0, 1⟩⟩]

/-- **Rewriting can make a parse refuse calls.** Where no tokens are left, the first grammar does
not try the operand again; the second one does, and calls `A` in vain. -/
theorem exists_cuts_of_rewrites :
    (∀ name, Option.Rel Expr.Rewrites (repeatedCall.tree? name)
      (onceAndRepeatedCall.tree? name)) ∧
    (repeatedCall.parseWith #[⟨'x', ⟨0, 1⟩, "x"⟩] {} ∅).2.context.stats.cuts = 0 ∧
    (onceAndRepeatedCall.parseWith #[⟨'x', ⟨0, 1⟩, "x"⟩] {} ∅).2.context.stats.cuts = 1 := by
  refine ⟨fun name => ?_, by decide +kernel, by decide +kernel⟩
  have hstart₁ : repeatedCall.tree? 'S' = some (.oneOrMore
      (.orderedChoice [.terminal 'x', .nonTerminal 'A'])) := rfl
  have hstart₂ : onceAndRepeatedCall.tree? 'S' = some (.sequence
      [.orderedChoice [.terminal 'x', .nonTerminal 'A'],
        .zeroOrMore (.orderedChoice [.terminal 'x', .nonTerminal 'A'])]) := rfl
  have hcalled₁ : repeatedCall.tree? 'A' = some (.nonTerminal 'A') := rfl
  have hcalled₂ : onceAndRepeatedCall.tree? 'A' = some (.nonTerminal 'A') := rfl
  by_cases hstart : 'S' = name
  · rw [← hstart, hstart₁, hstart₂]
    exact .some (.oneOrMore _)
  · by_cases hcalled : 'A' = name
    · rw [← hcalled, hcalled₁, hcalled₂]
      exact .some (.refl _)
    · simp [tree?, body?, repeatedCall, onceAndRepeatedCall, of, hstart, hcalled]

end Grammar

end Packrat
