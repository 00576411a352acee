import Mathlib.Data.List.Forall2
import Packrat.Peg.Expr

/-!
# Expressions as operators

An expression is an operator with expressions for operands (`Expr.operator`). What holds of an
expression if it holds of its operands, holds of all (`Expr.operandInduction`), and what is computed
from an operator and the values of its operands is a fold (`Expr.fold`): replacing names
(`Expr.rename`), grammar text (`Expr.text`), and splicing. `Operator.Rel` relates two operators
whose names and operands are related one by one.

`Expr.spliced` writes the operands of a sequence within a sequence in its place. The text of an
expression does not tell the difference (`Expr.text_spliced`), if every sequence in it has operands
(`Expr.Full`).
-/

namespace Packrat

variable {K N N' N₁ N₂ ι ι₁ ι₂ κ β : Type}

/-! ## Lists of operands -/

/-- A member on one side has one on the other. -/
theorem exists_of_forall₂_mem {R : ι₁ → ι₂ → Prop} {xs : List ι₁} {ys : List ι₂} {y : ι₂}
    (h : List.Forall₂ R xs ys) (hy : y ∈ ys) : ∃ x ∈ xs, R x y := by
  induction h with
  | nil => cases hy
  | cons hx _ ih =>
    rcases List.mem_cons.1 hy with rfl | hy
    · exact ⟨_, List.mem_cons_self, hx⟩
    · obtain ⟨x, hx, hR⟩ := ih hy
      exact ⟨x, List.mem_cons_of_mem _ hx, hR⟩

/-- Members that are related to members that are related are related. -/
theorem forall₂_comp {R : ι₁ → ι₂ → Prop} {S : ι₂ → ι → Prop} {U : ι₁ → ι → Prop} {xs : List ι₁}
    {ys : List ι₂} {zs : List ι} (hU : ∀ x y z, R x y → S y z → U x z) (h : List.Forall₂ R xs ys)
    (h' : List.Forall₂ S ys zs) : List.Forall₂ U xs zs := by
  induction h generalizing zs with
  | nil =>
    cases h'
    exact .nil
  | cons hx _ ih =>
    cases h' with
    | cons hy hrest => exact .cons (hU _ _ _ hx hy) (ih hrest)

/-- Where one side has a member between others, the other side has one between as many. -/
theorem exists_append_of_forall₂ {R : ι₁ → ι₂ → Prop} {xs : List ι₁} {before after : List ι₂}
    {y : ι₂} (h : List.Forall₂ R xs (before ++ y :: after)) :
    ∃ before' x after', xs = before' ++ x :: after' ∧ List.Forall₂ R before' before ∧ R x y := by
  induction before generalizing xs with
  | nil =>
    obtain ⟨x, after', hx, -, rfl⟩ := List.forall₂_cons_right_iff.1 h
    exact ⟨[], x, after', rfl, .nil, hx⟩
  | cons z before ih =>
    obtain ⟨w, rest, hw, hrest, rfl⟩ := List.forall₂_cons_right_iff.1 h
    obtain ⟨before', x, after', rfl, hbefore, hx⟩ := ih hrest
    exact ⟨w :: before', x, after', rfl, .cons hw hbefore, hx⟩

/-- Two lists have the same values if their members have, one by one. -/
theorem map_eq_map_iff_forall₂ {xs : List ι₁} {ys : List ι₂} {h₁ : ι₁ → ι} {h₂ : ι₂ → ι} :
    xs.map h₁ = ys.map h₂ ↔ List.Forall₂ (fun x y => h₁ x = h₂ y) xs ys := by
  rw [← List.forall₂_eq_eq_eq, List.forall₂_map_left_iff, List.forall₂_map_right_iff]

/-! ## One operator -/

namespace Operator

/-- The operator with its name replaced. -/
def rename (f : N → N') : Operator K N ι → Operator K N' ι
  | .terminal tag => .terminal tag
  | .nonTerminal name => .nonTerminal (f name)
  | .emptyString => .emptyString
  | .sequence xs => .sequence xs
  | .orderedChoice xs => .orderedChoice xs
  | .optional x => .optional x
  | .zeroOrMore x => .zeroOrMore x
  | .oneOrMore x => .oneOrMore x
  | .andPredicate x => .andPredicate x
  | .notPredicate x => .notPredicate x

/-- The tag of the operator satisfies `P`, its name satisfies `Q`. -/
def Over (P : K → Prop) (Q : N → Prop) : Operator K N ι → Prop
  | .terminal tag => P tag
  | .nonTerminal name => Q name
  | _ => True

@[simp] theorem over_map {P : K → Prop} {Q : N → Prop} (f : ι → κ) (op : Operator K N ι) :
    (op.map f).Over P Q ↔ op.Over P Q := by
  cases op <;> rfl

/-- Replacing operands keeps their number. -/
@[simp] theorem hasEnoughOperands_map (f : ι → κ) (op : Operator K N ι) :
    (op.map f).hasEnoughOperands = op.hasEnoughOperands := by
  cases op <;> simp [map, hasEnoughOperands]

@[simp] theorem map_self (op : Operator K N ι) : (op.map fun x => x) = op := by
  cases op <;> simp [map]

theorem map_map (f : ι → κ) (h : κ → β) (op : Operator K N ι) :
    (op.map f).map h = op.map fun x => h (f x) := by
  cases op <;> simp [map]

theorem map_rename (f : N → N') (h : ι → κ) (op : Operator K N ι) :
    (op.rename f).map h = (op.map h).rename f := by
  cases op <;> rfl

theorem map_congr {op : Operator K N ι} {f h : ι → κ} (hop : ∀ x ∈ op.operands, f x = h x) :
    op.map f = op.map h := by
  cases op <;> simp_all [map, operands]

/-- Operators of the same kind, with the same tag, names related by `Q` and operands related by `R`
one by one. -/
inductive Rel (Q : N₁ → N₂ → Prop) (R : ι₁ → ι₂ → Prop) :
    Operator K N₁ ι₁ → Operator K N₂ ι₂ → Prop
  | terminal (tag : K) : Rel Q R (.terminal tag) (.terminal tag)
  | nonTerminal {x : N₁} {y : N₂} : Q x y → Rel Q R (.nonTerminal x) (.nonTerminal y)
  | emptyString : Rel Q R .emptyString .emptyString
  | sequence {xs : List ι₁} {ys : List ι₂} : List.Forall₂ R xs ys →
      Rel Q R (.sequence xs) (.sequence ys)
  | orderedChoice {xs : List ι₁} {ys : List ι₂} : List.Forall₂ R xs ys →
      Rel Q R (.orderedChoice xs) (.orderedChoice ys)
  | optional {x : ι₁} {y : ι₂} : R x y → Rel Q R (.optional x) (.optional y)
  | zeroOrMore {x : ι₁} {y : ι₂} : R x y → Rel Q R (.zeroOrMore x) (.zeroOrMore y)
  | oneOrMore {x : ι₁} {y : ι₂} : R x y → Rel Q R (.oneOrMore x) (.oneOrMore y)
  | andPredicate {x : ι₁} {y : ι₂} : R x y → Rel Q R (.andPredicate x) (.andPredicate y)
  | notPredicate {x : ι₁} {y : ι₂} : R x y → Rel Q R (.notPredicate x) (.notPredicate y)

variable {Q Q' : N₁ → N₂ → Prop} {R R' : ι₁ → ι₂ → Prop} {op₁ : Operator K N₁ ι₁}
  {op₂ : Operator K N₂ ι₂}

/-- Operands of related operators are related one by one. -/
theorem Rel.operands (h : Rel Q R op₁ op₂) : List.Forall₂ R op₁.operands op₂.operands := by
  cases h with
  | terminal | nonTerminal | emptyString => exact .nil
  | sequence h | orderedChoice h => exact h
  | optional h | zeroOrMore h | oneOrMore h | andPredicate h | notPredicate h =>
    exact .cons h .nil

/-- Related operators have enough operands alike. -/
theorem Rel.hasEnoughOperands (h : Rel Q R op₁ op₂) :
    op₁.hasEnoughOperands = op₂.hasEnoughOperands := by
  cases h with
  | sequence h | orderedChoice h => simp only [Operator.hasEnoughOperands, h.length_eq]
  | _ => rfl

/-- Operators with the same names have the same tag and name. -/
theorem Rel.over {P : K → Prop} {Q : N → Prop} {op : Operator K N ι₁} {op' : Operator K N ι₂}
    (h : Rel Eq R op op') : op'.Over P Q ↔ op.Over P Q := by
  cases h with
  | nonTerminal h =>
    cases h
    rfl
  | _ => rfl

/-- An operand on one side has one on the other. -/
theorem Rel.exists_of_mem {y : ι₂} (h : Rel Q R op₁ op₂) (hy : y ∈ op₂.operands) :
    ∃ x ∈ op₁.operands, R x y :=
  exists_of_forall₂_mem h.operands hy

/-- There is a related operator if there are related operands. -/
theorem exists_rel {op : Operator K N ι₁} (h : ∀ x ∈ op.operands, ∃ y, R x y) :
    ∃ op' : Operator K N ι₂, Rel Eq R op op' := by
  have hall : ∀ {xs : List ι₁}, (∀ x ∈ xs, ∃ y, R x y) → ∃ ys, List.Forall₂ R xs ys := by
    intro xs hxs
    induction xs with
    | nil => exact ⟨[], .nil⟩
    | cons x rest ih =>
      obtain ⟨⟨y, hy⟩, hrest⟩ := List.forall_mem_cons.1 hxs
      obtain ⟨ys, hys⟩ := ih hrest
      exact ⟨y :: ys, .cons hy hys⟩
  cases op with
  | terminal tag => exact ⟨_, .terminal tag⟩
  | nonTerminal name => exact ⟨_, .nonTerminal rfl⟩
  | emptyString => exact ⟨_, .emptyString⟩
  | sequence xs => exact (hall h).imp' .sequence fun _ => .sequence
  | orderedChoice xs => exact (hall h).imp' .orderedChoice fun _ => .orderedChoice
  | optional x => exact (h x (.head _)).imp' .optional fun _ => .optional
  | zeroOrMore x => exact (h x (.head _)).imp' .zeroOrMore fun _ => .zeroOrMore
  | oneOrMore x => exact (h x (.head _)).imp' .oneOrMore fun _ => .oneOrMore
  | andPredicate x => exact (h x (.head _)).imp' .andPredicate fun _ => .andPredicate
  | notPredicate x => exact (h x (.head _)).imp' .notPredicate fun _ => .notPredicate

/-- An operator is related to itself if its operands are. -/
theorem rel_self {R : ι → ι → Prop} {op : Operator K N ι} (h : ∀ x ∈ op.operands, R x x) :
    Rel Eq R op op := by
  cases op with
  | terminal tag => exact .terminal tag
  | nonTerminal name => exact .nonTerminal rfl
  | emptyString => exact .emptyString
  | sequence xs => exact .sequence (List.forall₂_same.2 h)
  | orderedChoice xs => exact .orderedChoice (List.forall₂_same.2 h)
  | optional x => exact .optional (h x (.head _))
  | zeroOrMore x => exact .zeroOrMore (h x (.head _))
  | oneOrMore x => exact .oneOrMore (h x (.head _))
  | andPredicate x => exact .andPredicate (h x (.head _))
  | notPredicate x => exact .notPredicate (h x (.head _))

/-- Names and operands that are related otherwise as well. -/
theorem Rel.imp (h : Rel Q R op₁ op₂) (hQ : ∀ x y, Q x y → Q' x y)
    (hR : ∀ x ∈ op₁.operands, ∀ y ∈ op₂.operands, R x y → R' x y) : Rel Q' R' op₁ op₂ := by
  have hall : ∀ {xs : List ι₁} {ys : List ι₂}, List.Forall₂ R xs ys →
      (∀ x ∈ xs, ∀ y ∈ ys, R x y → R' x y) → List.Forall₂ R' xs ys := by
    intro xs ys hxs
    induction hxs with
    | nil => exact fun _ => .nil
    | cons hx _ ih =>
      intro hR
      refine .cons (hR _ List.mem_cons_self _ List.mem_cons_self hx) (ih fun x hx y hy => ?_)
      exact hR x (List.mem_cons_of_mem _ hx) y (List.mem_cons_of_mem _ hy)
  cases h with
  | terminal tag => exact .terminal tag
  | nonTerminal h => exact .nonTerminal (hQ _ _ h)
  | emptyString => exact .emptyString
  | sequence h => exact .sequence (hall h hR)
  | orderedChoice h => exact .orderedChoice (hall h hR)
  | optional h => exact .optional (hR _ (.head _) _ (.head _) h)
  | zeroOrMore h => exact .zeroOrMore (hR _ (.head _) _ (.head _) h)
  | oneOrMore h => exact .oneOrMore (hR _ (.head _) _ (.head _) h)
  | andPredicate h => exact .andPredicate (hR _ (.head _) _ (.head _) h)
  | notPredicate h => exact .notPredicate (hR _ (.head _) _ (.head _) h)

/-- Related operators the other way round. -/
theorem Rel.flip (h : Rel Q R op₁ op₂) : Rel (fun y x => Q x y) (fun y x => R x y) op₂ op₁ := by
  cases h with
  | terminal tag => exact .terminal tag
  | nonTerminal h => exact .nonTerminal h
  | emptyString => exact .emptyString
  | sequence h => exact .sequence (List.Forall₂.flip h)
  | orderedChoice h => exact .orderedChoice (List.Forall₂.flip h)
  | optional h => exact .optional h
  | zeroOrMore h => exact .zeroOrMore h
  | oneOrMore h => exact .oneOrMore h
  | andPredicate h => exact .andPredicate h
  | notPredicate h => exact .notPredicate h

/-- Related operators with their operands replaced by related ones. -/
theorem Rel.map {R' : κ → β → Prop} (h₁ : ι₁ → κ) (h₂ : ι₂ → β)
    (h : Rel Q (fun x y => R' (h₁ x) (h₂ y)) op₁ op₂) : Rel Q R' (op₁.map h₁) (op₂.map h₂) := by
  have hall : ∀ {xs : List ι₁} {ys : List ι₂}, List.Forall₂ (fun x y => R' (h₁ x) (h₂ y)) xs ys →
      List.Forall₂ R' (xs.map h₁) (ys.map h₂) := by
    intro xs ys hxs
    rwa [List.forall₂_map_left_iff, List.forall₂_map_right_iff]
  cases h with
  | terminal tag => exact .terminal tag
  | nonTerminal h => exact .nonTerminal h
  | emptyString => exact .emptyString
  | sequence h => exact .sequence (hall h)
  | orderedChoice h => exact .orderedChoice (hall h)
  | optional h => exact .optional h
  | zeroOrMore h => exact .zeroOrMore h
  | oneOrMore h => exact .oneOrMore h
  | andPredicate h => exact .andPredicate h
  | notPredicate h => exact .notPredicate h

/-- An operator related to a renamed one is related to it before. -/
theorem Rel.of_rename {f : N → N₁} {op : Operator K N ι₁} (h : Rel Q R (op.rename f) op₂) :
    Rel (fun x y => Q (f x) y) R op op₂ := by
  cases op <;> cases h <;> constructor <;> assumption

/-- An operator related to one before it is renamed is related to it afterwards. -/
theorem Rel.rename {f : N → N₂} {op : Operator K N ι₂}
    (h : Rel (fun x y => Q x (f y)) R op₁ op) : Rel Q R op₁ (op.rename f) := by
  cases h <;> constructor <;> assumption

/-- The same on the left. -/
theorem Rel.rename_left {f : N → N₁} {op : Operator K N ι₁}
    (h : Rel (fun x y => Q (f x) y) R op op₂) : Rel Q R (op.rename f) op₂ := by
  cases h <;> constructor <;> assumption

/-- Operators with the same names are equal once their operands are replaced by equal ones. -/
theorem Rel.map_eq {op : Operator K N ι₁} {op' : Operator K N ι₂} {h₁ : ι₁ → ι} {h₂ : ι₂ → ι}
    (h : Rel Eq (fun x y => h₁ x = h₂ y) op op') : op.map h₁ = op'.map h₂ := by
  cases h with
  | terminal | emptyString => rfl
  | nonTerminal h =>
    cases h
    rfl
  | sequence h => exact congrArg Operator.sequence (map_eq_map_iff_forall₂.2 h)
  | orderedChoice h => exact congrArg Operator.orderedChoice (map_eq_map_iff_forall₂.2 h)
  | optional h => exact congrArg Operator.optional h
  | zeroOrMore h => exact congrArg Operator.zeroOrMore h
  | oneOrMore h => exact congrArg Operator.oneOrMore h
  | andPredicate h => exact congrArg Operator.andPredicate h
  | notPredicate h => exact congrArg Operator.notPredicate h

/-- Operators are related if they are equal once their names and operands are replaced. -/
theorem rel_of_map_eq {f₁ : N₁ → N} {f₂ : N₂ → N} {h₁ : ι₁ → ι} {h₂ : ι₂ → ι}
    (h : (op₁.map h₁).rename f₁ = (op₂.map h₂).rename f₂) :
    Rel (fun x y => f₁ x = f₂ y) (fun x y => h₁ x = h₂ y) op₁ op₂ := by
  cases op₁ <;> cases op₂ <;> simp only [map, rename, reduceCtorEq, terminal.injEq,
    nonTerminal.injEq, sequence.injEq, orderedChoice.injEq, optional.injEq, zeroOrMore.injEq,
    oneOrMore.injEq, andPredicate.injEq, notPredicate.injEq] at h
  case terminal.terminal => exact h ▸ .terminal _
  case nonTerminal.nonTerminal => exact .nonTerminal h
  case emptyString.emptyString => exact .emptyString
  case sequence.sequence => exact .sequence (map_eq_map_iff_forall₂.1 h)
  case orderedChoice.orderedChoice => exact .orderedChoice (map_eq_map_iff_forall₂.1 h)
  case optional.optional => exact .optional h
  case zeroOrMore.zeroOrMore => exact .zeroOrMore h
  case oneOrMore.oneOrMore => exact .oneOrMore h
  case andPredicate.andPredicate => exact .andPredicate h
  case notPredicate.notPredicate => exact .notPredicate h

/-- The members of a list are all there if each of them is. -/
theorem mapM_map_eq_some {f : ι → Option κ} {xs : List ι} {ys : List κ} :
    (xs.map f).mapM id = some ys ↔ List.Forall₂ (fun x y => f x = some y) xs ys := by
  induction xs generalizing ys with
  | nil => simp [eq_comm]
  | cons x rest ih =>
    simp only [List.map_cons, List.mapM_cons, id, Option.bind_eq_bind, Option.bind_eq_some_iff,
      Option.pure_def, Option.some.injEq, List.forall₂_cons_left_iff, ih]
    constructor
    · rintro ⟨y, hy, ys, hys, rfl⟩
      exact ⟨y, ys, hy, hys, rfl⟩
    · rintro ⟨y, ys, hy, hys, rfl⟩
      exact ⟨y, hy, ys, hys, rfl⟩

/-- The operands of an operator are all there if each of them is. -/
theorem allSome?_map_eq_some {op : Operator K N ι} {f : ι → Option κ} {op' : Operator K N κ} :
    (op.map f).allSome? = some op' ↔ Rel Eq (fun x y => f x = some y) op op' := by
  constructor
  · intro h
    cases op <;> simp only [map, allSome?, Option.some.injEq, Option.map_eq_some_iff,
      mapM_map_eq_some] at h
    case terminal => exact h ▸ .terminal _
    case nonTerminal => exact h ▸ .nonTerminal rfl
    case emptyString => exact h ▸ .emptyString
    all_goals obtain ⟨y, hy, rfl⟩ := h
    case sequence => exact .sequence hy
    case orderedChoice => exact .orderedChoice hy
    case optional => exact .optional hy
    case zeroOrMore => exact .zeroOrMore hy
    case oneOrMore => exact .oneOrMore hy
    case andPredicate => exact .andPredicate hy
    case notPredicate => exact .notPredicate hy
  · intro h
    cases h with
    | terminal | emptyString => rfl
    | nonTerminal h =>
      cases h
      rfl
    | sequence h | orderedChoice h => simp [map, allSome?, mapM_map_eq_some.2 h]
    | optional h | zeroOrMore h | oneOrMore h | andPredicate h | notPredicate h =>
      simp [map, allSome?, h]

end Operator

/-! ## Expressions as operators -/

namespace Expr

/-- The expression as an operator with expressions for operands. -/
def operator : Expr K N → Operator K N (Expr K N)
  | .terminal tag => .terminal tag
  | .nonTerminal name => .nonTerminal name
  | .emptyString => .emptyString
  | .sequence items => .sequence items
  | .orderedChoice items => .orderedChoice items
  | .optional item => .optional item
  | .zeroOrMore item => .zeroOrMore item
  | .oneOrMore item => .oneOrMore item
  | .andPredicate item => .andPredicate item
  | .notPredicate item => .notPredicate item

@[simp] theorem toExpr_operator (e : Expr K N) : e.operator.toExpr = e := by
  cases e <;> rfl

@[simp] theorem operator_toExpr (op : Operator K N (Expr K N)) : op.toExpr.operator = op := by
  cases op <;> rfl

mutual

/-- What holds of an expression if it holds of its operands, holds of every expression. -/
theorem operandInduction {P : Expr K N → Prop}
    (step : ∀ e : Expr K N, (∀ o ∈ e.operator.operands, P o) → P e) : ∀ e, P e
  | .terminal _ => step _ (by simp [operator, Operator.operands])
  | .nonTerminal _ => step _ (by simp [operator, Operator.operands])
  | .emptyString => step _ (by simp [operator, Operator.operands])
  | .sequence items => step _ (operandInductionAll step items)
  | .orderedChoice items => step _ (operandInductionAll step items)
  | .optional item => step _ (List.forall_mem_singleton.2 (operandInduction step item))
  | .zeroOrMore item => step _ (List.forall_mem_singleton.2 (operandInduction step item))
  | .oneOrMore item => step _ (List.forall_mem_singleton.2 (operandInduction step item))
  | .andPredicate item => step _ (List.forall_mem_singleton.2 (operandInduction step item))
  | .notPredicate item => step _ (List.forall_mem_singleton.2 (operandInduction step item))

/-- What holds of an expression if it holds of its operands, holds of all of several expressions. -/
theorem operandInductionAll {P : Expr K N → Prop}
    (step : ∀ e : Expr K N, (∀ o ∈ e.operator.operands, P o) → P e) :
    ∀ items : List (Expr K N), ∀ e ∈ items, P e
  | [] => by simp
  | item :: rest =>
    List.forall_mem_cons.2 ⟨operandInduction step item, operandInductionAll step rest⟩

end

mutual

/-- A value computed from the operator of an expression and the values of its operands. -/
def fold (layer : Operator K N β → β) : Expr K N → β
  | .terminal tag => layer (.terminal tag)
  | .nonTerminal name => layer (.nonTerminal name)
  | .emptyString => layer .emptyString
  | .sequence items => layer (.sequence (foldAll layer items))
  | .orderedChoice items => layer (.orderedChoice (foldAll layer items))
  | .optional item => layer (.optional (fold layer item))
  | .zeroOrMore item => layer (.zeroOrMore (fold layer item))
  | .oneOrMore item => layer (.oneOrMore (fold layer item))
  | .andPredicate item => layer (.andPredicate (fold layer item))
  | .notPredicate item => layer (.notPredicate (fold layer item))

/-- The values of several expressions. -/
def foldAll (layer : Operator K N β → β) : List (Expr K N) → List β
  | [] => []
  | item :: rest => fold layer item :: foldAll layer rest

end

theorem foldAll_eq_map (layer : Operator K N β → β) (items : List (Expr K N)) :
    foldAll layer items = items.map (fold layer) := by
  induction items with
  | nil => rfl
  | cons item rest ih => rw [foldAll, ih, List.map_cons]

/-- The value of an expression from the values of its operands. -/
theorem fold_eq (layer : Operator K N β → β) (e : Expr K N) :
    e.fold layer = layer (e.operator.map (fold layer)) := by
  cases e with
  | sequence items | orderedChoice items => rw [fold, foldAll_eq_map]; rfl
  | _ => rfl

/-- The expression with its names replaced. -/
def rename (f : N → N') : Expr K N → Expr K N' := fold fun op => (op.rename f).toExpr

theorem rename_eq (f : N → N') (e : Expr K N) :
    e.rename f = ((e.operator.map (rename f)).rename f).toExpr := fold_eq _ e

/-- The operator of a renamed expression. -/
theorem operator_rename (f : N → N') (e : Expr K N) :
    (e.rename f).operator = (e.operator.map (rename f)).rename f := by
  rw [rename_eq, operator_toExpr]

theorem rename_id (e : Expr K N) : e.rename id = e := by
  induction e using operandInduction with
  | step e ih =>
    have hoperands : e.operator.map (rename id) = e.operator := by
      rw [Operator.map_congr ih, Operator.map_self]
    have hnames : e.operator.rename id = e.operator := by cases e <;> rfl
    rw [rename_eq, hoperands, hnames, toExpr_operator]

/-- Names replaced one time after the other. -/
theorem rename_rename {N'' : Type} (f : N → N') (h : N' → N'') (e : Expr K N) :
    (e.rename f).rename h = e.rename fun name => h (f name) := by
  induction e using operandInduction with
  | step e ih =>
    have hnames : ∀ op : Operator K N (Expr K N''),
        (op.rename f).rename h = op.rename fun name => h (f name) := by
      intro op
      cases op <;> rfl
    rw [rename_eq, operator_rename, Operator.map_rename, Operator.map_map, hnames,
      Operator.map_congr ih, ← rename_eq]

/-! ## Splicing -/

/-- The operands that an expression stands for within a sequence. -/
def inSequence : Expr K N → List (Expr K N)
  | .sequence items => items
  | e => [e]

end Expr

/-- A sequence with the operands of its sequences in their place; other operators as they are. -/
def Operator.splice : Operator K N (Expr K N) → Operator K N (Expr K N)
  | .sequence items => .sequence (items.flatMap Expr.inSequence)
  | op => op

namespace Expr

/-- The expression with the operands of a sequence within a sequence in its place, at every
depth. -/
def spliced : Expr K N → Expr K N := fold fun op => op.splice.toExpr

theorem spliced_eq (e : Expr K N) : e.spliced = (e.operator.map spliced).splice.toExpr :=
  fold_eq _ e

/-- Operators other than sequences splice their operands only. -/
theorem spliced_of_ne_sequence {e : Expr K N} (h : ∀ items, e ≠ .sequence items) :
    e.spliced = (e.operator.map spliced).toExpr := by
  rw [spliced_eq]
  cases e with
  | sequence items => exact absurd rfl (h items)
  | _ => rfl

theorem spliced_sequence (items : List (Expr K N)) :
    (sequence items).spliced = .sequence ((items.map spliced).flatMap inSequence) :=
  spliced_eq _

theorem rename_sequence (f : N → N') (items : List (Expr K N)) :
    (sequence items).rename f = .sequence (items.map (rename f)) :=
  rename_eq f _

theorem inSequence_rename (f : N → N') (e : Expr K N) :
    (e.rename f).inSequence = e.inSequence.map (rename f) := by
  cases e with
  | sequence items => rw [rename_sequence]; rfl
  | _ => rfl

/-- Splicing does not mind the names. -/
theorem spliced_rename (f : N → N') (e : Expr K N) :
    (e.rename f).spliced = e.spliced.rename f := by
  induction e using operandInduction with
  | step e ih =>
    by_cases hseq : ∃ items, e = .sequence items
    · obtain ⟨items, rfl⟩ := hseq
      have hitems : (items.map (rename f)).map spliced = (items.map spliced).map (rename f) := by
        rw [List.map_map, List.map_map]
        exact List.map_congr_left ih
      rw [rename_sequence, spliced_sequence, spliced_sequence, rename_sequence, hitems,
        List.flatMap_map, List.map_flatMap]
      simp only [inSequence_rename]
    · have hrenamed : ∀ items, e.rename f ≠ .sequence items := by
        cases e with
        | sequence items => exact absurd ⟨items, rfl⟩ hseq
        | _ => exact fun items => nofun
      rw [spliced_of_ne_sequence hrenamed, spliced_of_ne_sequence (by simpa using hseq),
        operator_rename, rename_eq f (Operator.toExpr _), operator_toExpr, Operator.map_rename,
        Operator.map_map, Operator.map_map, Operator.map_congr ih]

/-- Every sequence and every choice has at least two operands. -/
def Full : Expr K N → Prop := fold fun op => op.hasEnoughOperands ∧ ∀ full ∈ op.operands, full

theorem full_iff {e : Expr K N} :
    e.Full ↔ e.operator.hasEnoughOperands ∧ ∀ o ∈ e.operator.operands, o.Full := by
  rw [Full, fold_eq, Operator.operands_map, List.forall_mem_map, Operator.hasEnoughOperands_map]

/-- A full expression stands for something within a sequence. -/
theorem Full.inSequence_ne_nil {e : Expr K N} (h : e.Full) : e.inSequence ≠ [] := by
  cases e with
  | sequence items =>
    have hlength : 2 ≤ items.length := of_decide_eq_true (full_iff.1 h).1
    exact List.ne_nil_of_length_pos (Nat.lt_of_lt_of_le Nat.two_pos hlength)
  | _ => exact List.cons_ne_nil _ _

/-- What a full expression stands for within a sequence is full. -/
theorem Full.of_mem_inSequence {e o : Expr K N} (h : e.Full) (ho : o ∈ e.inSequence) :
    o.Full := by
  cases e with
  | sequence items => exact (full_iff.1 h).2 o ho
  | _ => exact List.mem_singleton.1 ho ▸ h

/-- Splicing keeps an expression full. -/
theorem Full.spliced {e : Expr K N} (h : e.Full) : e.spliced.Full := by
  induction e using operandInduction with
  | step e ih =>
    obtain ⟨henough, hops⟩ := full_iff.1 h
    by_cases hseq : ∃ items, e = .sequence items
    · obtain ⟨items, rfl⟩ := hseq
      have hitems : ∀ o ∈ items, o.spliced.Full := fun o ho => ih o ho (hops o ho)
      have hlength : 2 ≤ items.length := of_decide_eq_true henough
      have hlonger : items.length ≤ ((items.map Expr.spliced).flatMap inSequence).length := by
        clear ih h henough hops hlength
        induction items with
        | nil => exact Nat.zero_le _
        | cons item rest ih =>
          obtain ⟨hitem, hrest⟩ := List.forall_mem_cons.1 hitems
          have hpos := List.length_pos_of_ne_nil hitem.inSequence_ne_nil
          have hle := ih hrest
          rw [List.map_cons, List.flatMap_cons, List.length_append, List.length_cons]
          omega
      rw [spliced_sequence, full_iff]
      refine ⟨decide_eq_true (Nat.le_trans hlength hlonger), fun o ho => ?_⟩
      obtain ⟨l, hl, ho⟩ := List.mem_flatMap.1 ho
      obtain ⟨item, hitem, rfl⟩ := List.mem_map.1 hl
      exact (hitems item hitem).of_mem_inSequence ho
    · rw [spliced_of_ne_sequence (by simpa using hseq), full_iff, operator_toExpr,
        Operator.operands_map, List.forall_mem_map, Operator.hasEnoughOperands_map]
      exact ⟨henough, fun o ho => ih o ho (hops o ho)⟩

/-- Every tag satisfies `P`, and every name satisfies `Q`. -/
def Over (P : K → Prop) (Q : N → Prop) : Expr K N → Prop :=
  fold fun op => op.Over P Q ∧ ∀ holds ∈ op.operands, holds

section Over

variable {P : K → Prop} {Q : N → Prop} {e o : Expr K N}

theorem over_iff : e.Over P Q ↔ e.operator.Over P Q ∧ ∀ o ∈ e.operator.operands, o.Over P Q := by
  rw [Over, fold_eq, Operator.operands_map, List.forall_mem_map, Operator.over_map]

/-- Tags and names that all satisfy something. -/
theorem over_of_forall (hP : ∀ tag, P tag) (hQ : ∀ name, Q name) (e : Expr K N) : e.Over P Q := by
  induction e using operandInduction with
  | step e ih =>
    refine over_iff.2 ⟨?_, ih⟩
    cases e with
    | terminal tag => exact hP tag
    | nonTerminal name => exact hQ name
    | _ => trivial

/-- Tags and names that satisfy something else as well. -/
theorem Over.imp {P' : K → Prop} {Q' : N → Prop} (h : e.Over P Q) (hP : ∀ tag, P tag → P' tag)
    (hQ : ∀ name, Q name → Q' name) : e.Over P' Q' := by
  induction e using operandInduction with
  | step e ih =>
    obtain ⟨hop, hops⟩ := over_iff.1 h
    refine over_iff.2 ⟨?_, fun o ho => ih o ho (hops o ho)⟩
    cases e with
    | terminal tag => exact hP tag hop
    | nonTerminal name => exact hQ name hop
    | _ => trivial

/-- What an expression stands for within a sequence has no other tags and names. -/
theorem Over.of_mem_inSequence (h : e.Over P Q) (ho : o ∈ e.inSequence) : o.Over P Q := by
  cases e with
  | sequence items => exact (over_iff.1 h).2 o ho
  | _ => exact List.mem_singleton.1 ho ▸ h

/-- Splicing keeps tags and names. -/
theorem Over.spliced (h : e.Over P Q) : e.spliced.Over P Q := by
  induction e using operandInduction with
  | step e ih =>
    obtain ⟨hop, hops⟩ := over_iff.1 h
    by_cases hseq : ∃ items, e = .sequence items
    · obtain ⟨items, rfl⟩ := hseq
      rw [spliced_sequence, over_iff]
      refine ⟨trivial, fun o ho => ?_⟩
      obtain ⟨l, hl, ho⟩ := List.mem_flatMap.1 ho
      obtain ⟨item, hitem, rfl⟩ := List.mem_map.1 hl
      exact (ih item hitem (hops item hitem)).of_mem_inSequence ho
    · rw [spliced_of_ne_sequence (by simpa using hseq), over_iff, operator_toExpr,
        Operator.operands_map, List.forall_mem_map, Operator.over_map]
      exact ⟨hop, fun o ho => ih o ho (hops o ho)⟩

end Over

section Text

variable [ToString K] [ToString N]

/-- The expression as grammar text. -/
def text : Expr K N → String := fold Operator.text

theorem text_eq (e : Expr K N) : e.text = (e.operator.map text).text := fold_eq _ e

/-- A full expression within a sequence is written as what it stands for there. -/
theorem text_inSequence (e : Expr K N) : " ".intercalate (e.inSequence.map text) = e.text := by
  cases e with
  | sequence items => rw [text_eq]; rfl
  | _ => exact String.intercalate_singleton

/-- Parts that are joined and joined again. -/
theorem intercalate_flatMap (sep : String) (f : β → List String) {l : List β}
    (h : ∀ x ∈ l, f x ≠ []) :
    sep.intercalate (l.flatMap f) = sep.intercalate (l.map fun x => sep.intercalate (f x)) := by
  induction l with
  | nil => rfl
  | cons x rest ih =>
    obtain ⟨hx, hrest⟩ := List.forall_mem_cons.1 h
    by_cases hnil : rest = []
    · simp [hnil]
    · have hne : rest.flatMap f ≠ [] := by
        obtain ⟨y, hy⟩ := List.exists_mem_of_ne_nil _ hnil
        exact fun hempty => hrest y hy (List.flatMap_eq_nil_iff.1 hempty y hy)
      rw [List.flatMap_cons, String.intercalate_append_of_ne_nil hx hne, ih hrest, List.map_cons,
        String.intercalate_cons_of_ne_nil (by simpa using hnil)]

/-- **Splicing does not change the text.** -/
theorem text_spliced {e : Expr K N} (h : e.Full) : e.spliced.text = e.text := by
  induction e using operandInduction with
  | step e ih =>
    obtain ⟨-, hops⟩ := full_iff.1 h
    by_cases hseq : ∃ items, e = .sequence items
    · obtain ⟨items, rfl⟩ := hseq
      have hne : ∀ l ∈ items.map spliced, (l.inSequence.map text) ≠ [] := by
        intro l hl
        obtain ⟨item, hitem, rfl⟩ := List.mem_map.1 hl
        simpa using (hops item hitem).spliced.inSequence_ne_nil
      have hsame : items.map (text ∘ spliced) = items.map text :=
        List.map_congr_left fun item hitem => ih item hitem (hops item hitem)
      rw [spliced_sequence, text_eq, text_eq]
      change " ".intercalate (((items.map spliced).flatMap inSequence).map text) =
        " ".intercalate (items.map text)
      rw [List.map_flatMap, intercalate_flatMap " " _ hne, ← hsame]
      simp only [text_inSequence, List.map_map]
    · rw [spliced_of_ne_sequence (by simpa using hseq), text_eq, text_eq e, operator_toExpr,
        Operator.map_map, Operator.map_congr fun o ho => ih o ho (hops o ho)]

end Text

end Expr

end Packrat
