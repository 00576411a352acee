import Packrat.Proofs.Lowering
import Packrat.Proofs.Validation

/-!
# Resolving tags and names

Lowering resolves the tags and names of an expression in the order in which they are written
(`Expr.mentions`). If all of them resolve, it makes the operators of the expression that it has been
resolved to (`Lowering.agree_of_resolvesTo`), and there is such an expression
(`Lowering.exists_resolvesTo`). Else it stops at the first tag or name that is refused, and reports
the error for this one (`Lowering.lower_of_refused`). Both are said of rules as well, where the head
is resolved before the body.

Two operators of which one is needed are never refused, because a full expression has enough
operands everywhere.
-/

namespace Packrat

variable {K N T A B A' B' ε ε' α ι κ : Type}

/-! ## Other tags and names -/

namespace Operator

/-- Replaces tags and names. -/
def translate (f : A → K) (h : B → N) : Operator A B ι → Operator K N ι
  | .terminal tag => .terminal (f tag)
  | .nonTerminal name => .nonTerminal (h name)
  | .emptyString => .emptyString
  | .sequence xs => .sequence xs
  | .orderedChoice xs => .orderedChoice xs
  | .optional x => .optional x
  | .zeroOrMore x => .zeroOrMore x
  | .oneOrMore x => .oneOrMore x
  | .andPredicate x => .andPredicate x
  | .notPredicate x => .notPredicate x

@[simp] theorem operands_translate (f : A → K) (h : B → N) (op : Operator A B ι) :
    (op.translate f h).operands = op.operands := by
  cases op <;> rfl

@[simp] theorem hasEnoughOperands_translate (f : A → K) (h : B → N) (op : Operator A B ι) :
    (op.translate f h).hasEnoughOperands = op.hasEnoughOperands := by
  cases op <;> rfl

@[simp] theorem callee?_translate (f : A → K) (h : B → N) (op : Operator A B ι) :
    (op.translate f h).callee? = op.callee?.map h := by
  cases op <;> rfl

theorem map_translate (f : A → K) (h : B → N) (g : ι → κ) (op : Operator A B ι) :
    (op.translate f h).map g = (op.map g).translate f h := by
  cases op <;> rfl

/-- The tag or name that an operator mentions itself. -/
def mention? : Operator A B ι → Option (A ⊕ B)
  | .terminal tag => some (.inl tag)
  | .nonTerminal name => some (.inr name)
  | _ => none

@[simp] theorem mention?_map (g : ι → κ) (op : Operator A B ι) :
    (op.map g).mention? = op.mention? := by
  cases op <;> rfl

/-- The tag or name of an operator, and then those of its operands. -/
def mentions (op : Operator A B (List (A ⊕ B))) : List (A ⊕ B) :=
  op.mention?.toList ++ op.operands.flatten

end Operator

namespace Expr

/-- Replaces the tags and names of an expression. -/
def translate (f : A → K) (h : B → N) : Expr A B → Expr K N :=
  fold fun op => (op.translate f h).toExpr

theorem translate_eq (f : A → K) (h : B → N) (e : Expr A B) :
    e.translate f h = ((e.operator.map (translate f h)).translate f h).toExpr := fold_eq _ e

/-- The operator of a translated expression. -/
theorem operator_translate (f : A → K) (h : B → N) (e : Expr A B) :
    (e.translate f h).operator = (e.operator.map (translate f h)).translate f h := by
  rw [translate_eq, operator_toExpr]

/-- A translated expression is full if the expression is. -/
theorem full_translate (f : A → K) (h : B → N) (e : Expr A B) :
    (e.translate f h).Full ↔ e.Full := by
  induction e using operandInduction with
  | step e ih =>
    rw [full_iff, full_iff (e := e), operator_translate, Operator.hasEnoughOperands_translate,
      Operator.hasEnoughOperands_map, Operator.operands_translate, Operator.operands_map,
      List.forall_mem_map]
    exact and_congr_right fun _ => forall₂_congr ih

/-- A translated expression calls the translated names. -/
theorem calls_translate (f : A → K) (h : B → N) (e : Expr A B) :
    (e.translate f h).calls = e.calls.map h := by
  induction e using operandInduction with
  | step e ih =>
    have hoperands : (e.operator.operands.map (translate f h)).flatMap calls =
        (e.operator.operands.flatMap calls).map h := by
      rw [List.flatMap_map, List.map_flatMap]
      exact List.flatMap_congr ih
    rw [calls_eq, calls_eq e, operator_translate, Operator.callee?_translate,
      Operator.callee?_map, Operator.operands_translate, Operator.operands_map, hoperands,
      List.map_append]
    cases e.operator.callee? <;> rfl

/-- The tags and names of an expression, in the order in which they are written. -/
def mentions : Expr A B → List (A ⊕ B) := fold Operator.mentions

theorem mentions_eq (e : Expr A B) :
    e.mentions = e.operator.mention?.toList ++ e.operator.operands.flatMap mentions := by
  rw [mentions, fold_eq, Operator.mentions, Operator.mention?_map, Operator.operands_map,
    List.flatMap_def]

end Expr

namespace Lowering

/-- Resolves tags and names after they have been translated. -/
def comap (f : A → A') (h : B → B') (l : Lowering A' B' K N ε) : Lowering A B K N ε :=
  ⟨fun tag => l.tag (f tag), fun name => l.name (h name), l.refused⟩

/-- What is reported of a tag or name, if it does not resolve. -/
def refusal? (l : Lowering A B K N ε) : A ⊕ B → Option ε
  | .inl tag =>
    match l.tag tag with
    | .ok _ => none
    | .error e => some e
  | .inr name =>
    match l.name name with
    | .ok _ => none
    | .error e => some e

/-- An expression is resolved to another one: the same operators with the tags and names that its
own stand for. -/
def ResolvesTo (l : Lowering A B K N ε) (e : Expr A B) (e' : Expr K N) : Prop :=
  e.translate l.tag l.name = e'.translate .ok .ok

section Refusal

variable {l : Lowering A B K N ε} {err : ε}

theorem refusal?_inl_eq_none {tag : A} : l.refusal? (.inl tag) = none ↔ ∃ k, l.tag tag = .ok k := by
  rw [refusal?]
  split <;> simp_all

theorem refusal?_inr_eq_none {name : B} :
    l.refusal? (.inr name) = none ↔ ∃ n, l.name name = .ok n := by
  rw [refusal?]
  split <;> simp_all

theorem refusal?_inl_eq_some {tag : A} :
    l.refusal? (.inl tag) = some err ↔ l.tag tag = .error err := by
  rw [refusal?]
  split <;> simp_all

theorem refusal?_inr_eq_some {name : B} :
    l.refusal? (.inr name) = some err ↔ l.name name = .error err := by
  rw [refusal?]
  split <;> simp_all

/-- An operator whose own tag or name resolves. -/
theorem exists_translate_ok {op : Operator A B ι}
    (h : ∀ m ∈ op.mention?.toList, l.refusal? m = none) :
    ∃ op' : Operator K N ι, op.translate l.tag l.name = op'.translate .ok .ok := by
  cases op with
  | terminal tag =>
    obtain ⟨k, hk⟩ := refusal?_inl_eq_none.1 (h _ List.mem_cons_self)
    exact ⟨.terminal k, congrArg Operator.terminal hk⟩
  | nonTerminal name =>
    obtain ⟨n, hn⟩ := refusal?_inr_eq_none.1 (h _ List.mem_cons_self)
    exact ⟨.nonTerminal n, congrArg Operator.nonTerminal hn⟩
  | emptyString => exact ⟨.emptyString, rfl⟩
  | sequence xs => exact ⟨.sequence xs, rfl⟩
  | orderedChoice xs => exact ⟨.orderedChoice xs, rfl⟩
  | optional x => exact ⟨.optional x, rfl⟩
  | zeroOrMore x => exact ⟨.zeroOrMore x, rfl⟩
  | oneOrMore x => exact ⟨.oneOrMore x, rfl⟩
  | andPredicate x => exact ⟨.andPredicate x, rfl⟩
  | notPredicate x => exact ⟨.notPredicate x, rfl⟩

/-- **An expression is resolved to another one if none of its tags and names is refused.** -/
theorem exists_resolvesTo {e : Expr A B} (h : ∀ m ∈ e.mentions, l.refusal? m = none) :
    ∃ e', l.ResolvesTo e e' := by
  induction e using Expr.operandInduction with
  | step e ih =>
    rw [Expr.mentions_eq] at h
    obtain ⟨hown, hothers⟩ := List.forall_mem_append.1 h
    have hoperands : ∀ o ∈ e.operator.operands, ∃ o', l.ResolvesTo o o' := fun o ho =>
      ih o ho fun m hm => hothers m (List.mem_flatMap.2 ⟨o, ho, hm⟩)
    obtain ⟨op, hrel⟩ := Operator.exists_rel hoperands
    have hmap : e.operator.map (Expr.translate l.tag l.name) =
        op.map (Expr.translate .ok .ok) := hrel.map_eq
    have hmention : op.mention? = e.operator.mention? := by
      rw [← Operator.mention?_map (Expr.translate l.tag l.name) e.operator, hmap,
        Operator.mention?_map]
    obtain ⟨op', hop'⟩ := exists_translate_ok (l := l) (hmention ▸ hown)
    refine ⟨op'.toExpr, ?_⟩
    rw [ResolvesTo, Expr.translate_eq, Expr.translate_eq, Expr.operator_toExpr, hmap,
      ← Operator.map_translate, hop', Operator.map_translate]

/-- What an expression is resolved to is full just if the expression is. -/
theorem ResolvesTo.full_iff {e : Expr A B} {e' : Expr K N} (h : l.ResolvesTo e e') :
    e'.Full ↔ e.Full := by
  rw [← Expr.full_translate l.tag l.name e, h, Expr.full_translate]

/-- What an expression is resolved to calls what the names of the expression stand for. -/
theorem ResolvesTo.calls {e : Expr A B} {e' : Expr K N} (h : l.ResolvesTo e e') :
    e.calls.map l.name = e'.calls.map .ok := by
  rw [← Expr.calls_translate l.tag, h, Expr.calls_translate]

end Refusal

/-! ## Lowering what resolves -/

variable [DecidableEq K] [DecidableEq N]

/-- Making an operator does not resolve anything. -/
theorem make_comap (l : Lowering A' B' K N ε) (f : A → A') (h : B → B')
    (op : Operator K N NodeId) (b : Builder K N T) : (l.comap f h).make op b = l.make op b := rfl

mutual

/-- Translating an expression before it is lowered is part of the resolution. -/
theorem lower_translate (l : Lowering A' B' K N ε) (f : A → A') (h : B → B') :
    ∀ (e : Expr A B) (b : Builder K N T),
      l.lower (e.translate f h) b = (l.comap f h).lower e b
  | .terminal tag, b => rfl
  | .nonTerminal name, b => rfl
  | .emptyString, b => rfl
  | .sequence items, b => by
    rw [Expr.translate_eq]
    simp only [Expr.operator, Operator.map, Operator.translate, Operator.toExpr, lower,
      make_comap, lowerAll_translate l f h items]
  | .orderedChoice items, b => by
    rw [Expr.translate_eq]
    simp only [Expr.operator, Operator.map, Operator.translate, Operator.toExpr, lower,
      make_comap, lowerAll_translate l f h items]
  | .optional item, b => by
    rw [Expr.translate_eq]
    simp only [Expr.operator, Operator.map, Operator.translate, Operator.toExpr, lower,
      make_comap, lower_translate l f h item]
  | .zeroOrMore item, b => by
    rw [Expr.translate_eq]
    simp only [Expr.operator, Operator.map, Operator.translate, Operator.toExpr, lower,
      make_comap, lower_translate l f h item]
  | .oneOrMore item, b => by
    rw [Expr.translate_eq]
    simp only [Expr.operator, Operator.map, Operator.translate, Operator.toExpr, lower,
      make_comap, lower_translate l f h item]
  | .andPredicate item, b => by
    rw [Expr.translate_eq]
    simp only [Expr.operator, Operator.map, Operator.translate, Operator.toExpr, lower,
      make_comap, lower_translate l f h item]
  | .notPredicate item, b => by
    rw [Expr.translate_eq]
    simp only [Expr.operator, Operator.map, Operator.translate, Operator.toExpr, lower,
      make_comap, lower_translate l f h item]

/-- The same for several expressions. -/
theorem lowerAll_translate (l : Lowering A' B' K N ε) (f : A → A') (h : B → B') :
    ∀ (items : List (Expr A B)) (b : Builder K N T),
      l.lowerAll (items.map (Expr.translate f h)) b = (l.comap f h).lowerAll items b
  | [], b => rfl
  | item :: rest, b => by
    simp only [List.map_cons, lowerAll, lower_translate l f h item, lowerAll_translate l f h rest]

end

/-- Two lowerings succeed with the same result and leave the same builder. -/
def Agree (x : Except ε α × Builder K N T) (y : Except ε' α × Builder K N T) : Prop :=
  ∃ result b, x = (.ok result, b) ∧ y = (.ok result, b)

omit [DecidableEq K] [DecidableEq N] in
/-- What fails leaves a builder. -/
theorem exists_eq_error {x : Except ε α × Builder K N T} {err : ε} (h : x.1 = .error err) :
    ∃ b, x = (.error err, b) := ⟨x.2, Prod.ext h rfl⟩

section Verbatim

variable {l : Lowering K N K N ε}

/-- An operator with enough operands is made, whatever it was resolved from. -/
theorem agree_make (l : Lowering A B K N ε) {op : Operator K N NodeId} (h : op.hasEnoughOperands)
    (b : Builder K N T) : Agree (l.make op b) (verbatim.make op b) := by
  obtain ⟨id, b', hadd⟩ : ∃ id b', b.add op = (.ok id, b') := by
    rw [Builder.add, Builder.addWith, if_pos h]
    exact ⟨_, _, rfl⟩
  refine ⟨id, b', ?_, ?_⟩ <;> rw [make, hadd]

/-- Operands that are lowered alike one by one are lowered alike. -/
theorem agree_lowerAll {items : List (Expr K N)}
    (h : ∀ item ∈ items, ∀ b : Builder K N T, Agree (l.lower item b) (verbatim.lower item b))
    (b : Builder K N T) : Agree (l.lowerAll items b) (verbatim.lowerAll items b) := by
  induction items generalizing b with
  | nil => exact ⟨[], b, rfl, rfl⟩
  | cons item rest ih =>
    obtain ⟨hitem, hrest⟩ := List.forall_mem_cons.1 h
    obtain ⟨id, b', hlower, hverbatim⟩ := hitem b
    obtain ⟨ids, b'', hlowers, hverbatims⟩ := ih hrest b'
    refine ⟨id :: ids, b'', ?_, ?_⟩
    · rw [lowerAll, hlower]
      dsimp only
      rw [hlowers]
    · rw [lowerAll, hverbatim]
      dsimp only
      rw [hverbatims]

/-- **Lowering an expression whose tags and names stand for themselves makes its operators.** -/
theorem agree_lower {e : Expr K N} (hfull : e.Full)
    (hres : e.Over (fun tag => l.tag tag = .ok tag) fun name => l.name name = .ok name)
    (b : Builder K N T) : Agree (l.lower e b) (verbatim.lower e b) := by
  induction e using Expr.operandInduction generalizing b with
  | step e ih =>
    obtain ⟨henough, hfulls⟩ := Expr.full_iff.1 hfull
    obtain ⟨hop, hovers⟩ := Expr.over_iff.1 hres
    have hoperands : ∀ o ∈ e.operator.operands, ∀ b : Builder K N T,
        Agree (l.lower o b) (verbatim.lower o b) := fun o ho => ih o ho (hfulls o ho) (hovers o ho)
    cases e with
    | terminal tag =>
      have htag : l.tag tag = .ok tag := hop
      simp only [lower, htag]
      exact agree_make l rfl b
    | nonTerminal name =>
      have hname : l.name name = .ok name := hop
      simp only [lower, hname]
      exact agree_make l rfl b
    | emptyString => exact agree_make l rfl b
    | sequence items | orderedChoice items =>
      obtain ⟨ids, b', hlower, hverbatim⟩ := agree_lowerAll hoperands b
      have hlength : ids.length = items.length :=
        (lowerAll_holds items hverbatim).2.forall₂.length_eq
      simp only [Expr.operator, Operator.operands] at hlower hverbatim
      simp only [lower, hlower, hverbatim]
      refine agree_make l ?_ b'
      simp only [Operator.hasEnoughOperands, hlength]
      exact henough
    | optional item | zeroOrMore item | oneOrMore item | andPredicate item | notPredicate item =>
      obtain ⟨id, b', hlower, hverbatim⟩ := hoperands item List.mem_cons_self b
      simp only [lower, hlower, hverbatim]
      exact agree_make l rfl b'

end Verbatim

section Resolved

variable {l : Lowering A B K N ε} {err : ε}

/-- **Lowering an expression makes the operators of what it is resolved to.** -/
theorem agree_of_resolvesTo {e : Expr A B} {e' : Expr K N} (h : l.ResolvesTo e e') (hfull : e.Full)
    (b : Builder K N T) : Agree (l.lower e b) (verbatim.lower e' b) := by
  -- Both resolutions are done beforehand.
  let resolved : Lowering (Except ε K) (Except ε N) K N ε := ⟨id, id, l.refused⟩
  have hlower : l.lower e b = (resolved.comap .ok .ok).lower e' b := by
    rw [← lower_translate resolved, ← h, lower_translate]
    rfl
  rw [hlower]
  exact agree_lower (h.full_iff.2 hfull) (Expr.over_of_forall (fun _ => rfl) (fun _ => rfl) e') b

/-! ## Lowering what does not resolve -/

/-- Several expressions are lowered until a tag or name is refused. -/
theorem lowerAll_of_refused {items : List (Expr A B)} (hfull : ∀ item ∈ items, item.Full)
    (hitems : ∀ item ∈ items, ∀ b : Builder K N T,
      item.mentions.findSome? l.refusal? = some err → (l.lower item b).1 = .error err)
    (h : (items.flatMap Expr.mentions).findSome? l.refusal? = some err) (b : Builder K N T) :
    (l.lowerAll items b).1 = .error err := by
  induction items generalizing b with
  | nil => cases h
  | cons item rest ih =>
    obtain ⟨hitem, hrest⟩ := List.forall_mem_cons.1 hitems
    obtain ⟨hfull, hfulls⟩ := List.forall_mem_cons.1 hfull
    rw [List.flatMap_cons, List.findSome?_append] at h
    cases hown : item.mentions.findSome? l.refusal? with
    | some e =>
      rw [hown] at h
      cases h
      obtain ⟨b', hlower⟩ := exists_eq_error (hitem b hown)
      rw [lowerAll, hlower]
    | none =>
      obtain ⟨item', hitem'⟩ := exists_resolvesTo (List.findSome?_eq_none_iff.1 hown)
      obtain ⟨id, b', hlower, -⟩ := agree_of_resolvesTo hitem' hfull b
      rw [hown] at h
      obtain ⟨b'', hlowers⟩ := exists_eq_error (ih hfulls hrest h b')
      simp only [lowerAll, hlower, hlowers]

/-- **Lowering reports the first tag or name that is refused.** -/
theorem lower_of_refused {e : Expr A B} (hfull : e.Full)
    (h : e.mentions.findSome? l.refusal? = some err) (b : Builder K N T) :
    (l.lower e b).1 = .error err := by
  induction e using Expr.operandInduction generalizing b with
  | step e ih =>
    obtain ⟨-, hfulls⟩ := Expr.full_iff.1 hfull
    have hoperands : ∀ o ∈ e.operator.operands, ∀ b : Builder K N T,
        o.mentions.findSome? l.refusal? = some err → (l.lower o b).1 = .error err :=
      fun o ho b hrefused => ih o ho (hfulls o ho) hrefused b
    rw [Expr.mentions_eq, List.findSome?_append] at h
    cases e with
    | terminal tag =>
      have htag : l.refusal? (.inl tag) = some err := by simpa [Expr.operator, Operator.mention?,
        Operator.operands] using h
      simp only [lower, refusal?_inl_eq_some.1 htag]
    | nonTerminal name =>
      have hname : l.refusal? (.inr name) = some err := by simpa [Expr.operator, Operator.mention?,
        Operator.operands] using h
      simp only [lower, refusal?_inr_eq_some.1 hname]
    | emptyString => cases h
    | sequence items | orderedChoice items =>
      obtain ⟨b', hlowers⟩ := exists_eq_error (lowerAll_of_refused hfulls hoperands h b)
      simp only [Expr.operator, Operator.operands] at hlowers
      simp only [lower, hlowers]
    | optional item | zeroOrMore item | oneOrMore item | andPredicate item | notPredicate item =>
      have hmentions : item.mentions.findSome? l.refusal? = some err := by
        simpa [Expr.operator, Operator.mention?, Operator.operands] using h
      obtain ⟨b', hlower⟩ := exists_eq_error (hoperands item List.mem_cons_self b hmentions)
      simp only [lower, hlower]

/-! ## Rules -/

/-- The head of a rule, and then the tags and names of its body. -/
def ruleMentions (rule : B × Expr A B) : List (A ⊕ B) := .inr rule.1 :: rule.2.mentions

omit [DecidableEq K] [DecidableEq N] in
/-- Rules are resolved to other ones if nothing in them is refused. -/
theorem exists_rules {rules : List (B × Expr A B)}
    (h : ∀ m ∈ rules.flatMap ruleMentions, l.refusal? m = none) :
    ∃ resolved : List (N × Expr K N), List.Forall₂ (fun rule rule' =>
      l.name rule.1 = .ok rule'.1 ∧ l.ResolvesTo rule.2 rule'.2) rules resolved := by
  induction rules with
  | nil => exact ⟨[], .nil⟩
  | cons rule rest ih =>
    rw [List.flatMap_cons] at h
    obtain ⟨hrule, hrest⟩ := List.forall_mem_append.1 h
    obtain ⟨hhead, hbody⟩ := List.forall_mem_cons.1 hrule
    obtain ⟨head, hhead⟩ := refusal?_inr_eq_none.1 hhead
    obtain ⟨body, hbody⟩ := exists_resolvesTo hbody
    obtain ⟨others, hothers⟩ := ih hrest
    exact ⟨(head, body) :: others, .cons ⟨hhead, hbody⟩ hothers⟩

/-- **Lowering rules makes the rules that they are resolved to.** -/
theorem agree_lowerRules {rules : List (B × Expr A B)} {resolved : List (N × Expr K N)}
    (h : List.Forall₂ (fun rule rule' =>
      l.name rule.1 = .ok rule'.1 ∧ l.ResolvesTo rule.2 rule'.2) rules resolved)
    (hfull : ∀ rule ∈ rules, rule.2.Full) (b : Builder K N T) :
    Agree (l.lowerRules rules b) (verbatim.lowerRules resolved b) := by
  induction h generalizing b with
  | nil => exact ⟨[], b, rfl, rfl⟩
  | @cons rule rule' rest others hrule _ ih =>
    obtain ⟨hhead, hbody⟩ := hrule
    obtain ⟨hfull, hfulls⟩ := List.forall_mem_cons.1 hfull
    obtain ⟨id, b', hlower, hverbatim⟩ := agree_of_resolvesTo hbody hfull b
    obtain ⟨made, b'', hlowers, hverbatims⟩ := ih hfulls b'
    refine ⟨⟨rule'.1, id⟩ :: made, b'', ?_, ?_⟩
    · simp only [lowerRules, hhead, hlower, hlowers]
    · rw [lowerRules]
      simp only [verbatim] at hverbatim hverbatims ⊢
      simp only [hverbatim, hverbatims]

/-- **Lowering rules reports the first tag or name that is refused.** -/
theorem lowerRules_of_refused {rules : List (B × Expr A B)} (hfull : ∀ rule ∈ rules, rule.2.Full)
    (h : (rules.flatMap ruleMentions).findSome? l.refusal? = some err) (b : Builder K N T) :
    (l.lowerRules rules b).1 = .error err := by
  induction rules generalizing b with
  | nil => cases h
  | cons rule rest ih =>
    obtain ⟨hfull, hfulls⟩ := List.forall_mem_cons.1 hfull
    rw [List.flatMap_cons, ruleMentions, List.cons_append, List.findSome?_cons] at h
    rw [lowerRules]
    split at h
    · next e hhead =>
      cases h
      simp only [refusal?_inr_eq_some.1 hhead]
    next hhead =>
    obtain ⟨head, hhead⟩ := refusal?_inr_eq_none.1 hhead
    simp only [hhead]
    rw [List.findSome?_append] at h
    cases hbody : rule.2.mentions.findSome? l.refusal? with
    | some e =>
      rw [hbody] at h
      cases h
      obtain ⟨b', hlower⟩ := exists_eq_error (lower_of_refused hfull hbody b)
      rw [hlower]
    | none =>
      obtain ⟨body, hresolves⟩ := exists_resolvesTo (List.findSome?_eq_none_iff.1 hbody)
      obtain ⟨id, b', hlower, -⟩ := agree_of_resolvesTo hresolves hfull b
      rw [hbody] at h
      obtain ⟨b'', hlowers⟩ := exists_eq_error (ih hfulls h b')
      simp only [hlower, hlowers]

end Resolved

end Lowering

end Packrat
