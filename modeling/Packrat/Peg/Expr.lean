import Packrat.Peg.Grammar

/-!
# Expressions

A parsing expression as a tree. An arena shares operators and addresses them by id;
`Arena.unfold?` reads the tree at an id, and `Lowering.lower` makes the operators of a tree
in a builder, resolving its tags and names on the way.
-/

namespace Packrat

/-- A parsing expression over tags `K` and rule names `N`. -/
inductive Expr (K N : Type) where
  | terminal (tag : K)
  | nonTerminal (name : N)
  | emptyString
  | sequence (items : List (Expr K N))
  | orderedChoice (items : List (Expr K N))
  | optional (item : Expr K N)
  | zeroOrMore (item : Expr K N)
  | oneOrMore (item : Expr K N)
  | andPredicate (item : Expr K N)
  | notPredicate (item : Expr K N)

variable {K N T : Type}

/-- The expression of an operator with expressions for operands. -/
def Operator.toExpr : Operator K N (Expr K N) → Expr K N
  | .terminal tag => .terminal tag
  | .nonTerminal name => .nonTerminal name
  | .emptyString => .emptyString
  | .sequence xs => .sequence xs
  | .orderedChoice xs => .orderedChoice xs
  | .optional x => .optional x
  | .zeroOrMore x => .zeroOrMore x
  | .oneOrMore x => .oneOrMore x
  | .andPredicate x => .andPredicate x
  | .notPredicate x => .notPredicate x

/-- The operator whose operands are all there. -/
def Operator.allSome? {ι : Type} : Operator K N (Option ι) → Option (Operator K N ι)
  | .terminal tag => some (.terminal tag)
  | .nonTerminal name => some (.nonTerminal name)
  | .emptyString => some .emptyString
  | .sequence xs => (xs.mapM id).map .sequence
  | .orderedChoice xs => (xs.mapM id).map .orderedChoice
  | .optional x => x.map .optional
  | .zeroOrMore x => x.map .zeroOrMore
  | .oneOrMore x => x.map .oneOrMore
  | .andPredicate x => x.map .andPredicate
  | .notPredicate x => x.map .notPredicate

/-- The tree of the operator at an id; there is none if it reaches a foreign id. -/
def Arena.unfold? (a : Arena K N T) (id : NodeId) : Option (Expr K N) :=
  a.fold (fun layer => layer.allSome?.map Operator.toExpr) none a.size id

/-! ## Lowering -/

/-- How the tags `A` and names `B` of expressions become tags `K` and rule names `N`, and how an
error of the builder is reported. -/
structure Lowering (A B K N ε : Type) where
  tag : A → Except ε K
  name : B → Except ε N
  refused : GrammarError K N → ε

namespace Lowering

variable {A B ε : Type} [DecidableEq K] [DecidableEq N]

/-- Makes an operator, and reports a refusal. -/
def make (l : Lowering A B K N ε) (operator : Operator K N NodeId) (b : Builder K N T) :
    Except ε NodeId × Builder K N T :=
  match b.add operator with
  | (.error e, b) => (.error (l.refused e), b)
  | (.ok id, b) => (.ok id, b)

mutual

/-- Makes the operators of an expression, operands first. A tag or name is resolved before its
operator is made; at the first that fails, the operators made so far stay. -/
def lower (l : Lowering A B K N ε) : Expr A B → Builder K N T → Except ε NodeId × Builder K N T
  | .terminal tag, b =>
    match l.tag tag with
    | .error e => (.error e, b)
    | .ok tag => l.make (.terminal tag) b
  | .nonTerminal name, b =>
    match l.name name with
    | .error e => (.error e, b)
    | .ok name => l.make (.nonTerminal name) b
  | .emptyString, b => l.make .emptyString b
  | .sequence items, b =>
    match l.lowerAll items b with
    | (.error e, b) => (.error e, b)
    | (.ok ids, b) => l.make (.sequence ids) b
  | .orderedChoice items, b =>
    match l.lowerAll items b with
    | (.error e, b) => (.error e, b)
    | (.ok ids, b) => l.make (.orderedChoice ids) b
  | .optional item, b =>
    match l.lower item b with
    | (.error e, b) => (.error e, b)
    | (.ok id, b) => l.make (.optional id) b
  | .zeroOrMore item, b =>
    match l.lower item b with
    | (.error e, b) => (.error e, b)
    | (.ok id, b) => l.make (.zeroOrMore id) b
  | .oneOrMore item, b =>
    match l.lower item b with
    | (.error e, b) => (.error e, b)
    | (.ok id, b) => l.make (.oneOrMore id) b
  | .andPredicate item, b =>
    match l.lower item b with
    | (.error e, b) => (.error e, b)
    | (.ok id, b) => l.make (.andPredicate id) b
  | .notPredicate item, b =>
    match l.lower item b with
    | (.error e, b) => (.error e, b)
    | (.ok id, b) => l.make (.notPredicate id) b

/-- Makes the operators of several expressions, in order. -/
def lowerAll (l : Lowering A B K N ε) :
    List (Expr A B) → Builder K N T → Except ε (List NodeId) × Builder K N T
  | [], b => (.ok [], b)
  | item :: rest, b =>
    match l.lower item b with
    | (.error e, b) => (.error e, b)
    | (.ok id, b) =>
      match l.lowerAll rest b with
      | (.error e, b) => (.error e, b)
      | (.ok ids, b) => (.ok (id :: ids), b)

end

/-- Makes the rules with the given heads and bodies, in order; each head is resolved before its
body. -/
def lowerRules (l : Lowering A B K N ε) : List (B × Expr A B) → Builder K N T →
    Except ε (List (Rule N)) × Builder K N T
  | [], b => (.ok [], b)
  | (head, body) :: rest, b =>
    match l.name head with
    | .error e => (.error e, b)
    | .ok name =>
      match l.lower body b with
      | (.error e, b) => (.error e, b)
      | (.ok id, b) =>
        match l.lowerRules rest b with
        | (.error e, b) => (.error e, b)
        | (.ok rules, b) => (.ok (⟨name, id⟩ :: rules), b)

end Lowering

end Packrat
