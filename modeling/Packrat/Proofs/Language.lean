import Mathlib.Computability.ContextFreeGrammar
import Mathlib.Order.CompletePartialOrder
import Packrat.Proofs.Construction

/-!
# The language of a grammar

Read as a context-free grammar, a grammar has a nonterminal for each operator
(`Grammar.contextFree`). A choice has a production for each of its operands, a sequence has one with
its operands in a row, and a repetition one that comes back to itself. Predicates produce nothing at
all, as if they always succeeded.

`Grammar.languageOf` are the words of an operator. They are what the operator does to the words of
its operands: choice is union, sequence is concatenation, repetitions are the usual closures
(`Grammar.languageOf_eq`).
-/

namespace Packrat

open scoped Computability

variable {K N T : Type}

/-! ## Words of sentential forms -/

section Forms

variable {ν : Type}

/-- The words of a symbol, given the words of nonterminals. -/
def symbolWords (L : ν → Language K) : Symbol K ν → Language K
  | .terminal tag => {[tag]}
  | .nonterminal x => L x

/-- The words of a sentential form, given the words of nonterminals. -/
def formWords (L : ν → Language K) (form : List (Symbol K ν)) : Language K :=
  (form.map (symbolWords L)).prod

@[simp] theorem formWords_nil (L : ν → Language K) : formWords L [] = 1 := rfl

@[simp] theorem formWords_cons (L : ν → Language K) (x : Symbol K ν) (form : List (Symbol K ν)) :
    formWords L (x :: form) = symbolWords L x * formWords L form := rfl

theorem formWords_append (L : ν → Language K) (u v : List (Symbol K ν)) :
    formWords L (u ++ v) = formWords L u * formWords L v := by
  simp only [formWords, List.map_append, List.prod_append]

theorem formWords_nonterminals (L : ν → Language K) (xs : List ν) :
    formWords L (xs.map .nonterminal) = (xs.map L).prod := by
  rw [formWords, List.map_map]
  rfl

/-- A form of terminals has one word. -/
theorem formWords_terminals (L : ν → Language K) (w : List K) :
    formWords L (w.map .terminal) = {w} := by
  induction w with
  | nil => rfl
  | cons tag w ih =>
    rw [List.map_cons, formWords_cons, ih]
    exact Set.image2_singleton

theorem formWords_mono {L M : ν → Language K} (h : ∀ x, L x ≤ M x) (form : List (Symbol K ν)) :
    formWords L form ≤ formWords M form := by
  induction form with
  | nil => exact le_rfl
  | cons x form ih =>
    refine mul_le_mul' ?_ ih
    cases x with
    | terminal tag => exact le_rfl
    | nonterminal x => exact h x

/-- The words that a context-free grammar derives from a nonterminal. -/
def derivedWords (G : ContextFreeGrammar K) (x : G.NT) : Language K :=
  {w | G.Derives [.nonterminal x] (w.map .terminal)}

variable {G : ContextFreeGrammar K} {L : G.NT → Language K} {u v : List (Symbol K G.NT)}

/-- Languages that are closed under the productions have the words of what is derived. -/
theorem formWords_le_of_derives (hL : ∀ r ∈ G.rules, formWords L r.output ≤ L r.input)
    (h : G.Derives u v) : formWords L v ≤ formWords L u := by
  induction h with
  | refl => exact le_rfl
  | tail _ hproduces ih =>
    obtain ⟨r, hr, hrewrites⟩ := hproduces
    obtain ⟨before, after, rfl, rfl⟩ := hrewrites.exists_parts
    refine le_trans ?_ ih
    simp only [formWords_append]
    refine mul_le_mul' (mul_le_mul' le_rfl ?_) le_rfl
    rw [formWords_cons, formWords_nil, mul_one]
    exact hL r hr

/-- **The derived words are in all languages that are closed under the productions.** -/
theorem derivedWords_le (hL : ∀ r ∈ G.rules, formWords L r.output ≤ L r.input) (x : G.NT) :
    derivedWords G x ≤ L x := by
  intro w hw
  have hle := formWords_le_of_derives hL hw
  rw [formWords_terminals, formWords_cons, formWords_nil, mul_one] at hle
  exact hle rfl

/-- A form derives its words. -/
theorem derives_of_mem_formWords {w : List K} (h : w ∈ formWords (derivedWords G) u) :
    G.Derives u (w.map .terminal) := by
  induction u generalizing w with
  | nil =>
    cases (Language.mem_one w).1 h
    exact .refl _
  | cons x u ih =>
    obtain ⟨first, hfirst, rest, hrest, rfl⟩ := Language.mem_mul.1 h
    rw [List.map_append]
    have hx : G.Derives [x] (first.map .terminal) := by
      cases x with
      | terminal tag =>
        cases hfirst
        exact .refl _
      | nonterminal x => exact hfirst
    have hhead := hx.append_right u
    have htail := (ih hrest).append_left (first.map .terminal)
    exact hhead.trans htail

/-- The derived words are closed under the productions. -/
theorem formWords_le_derivedWords {r : ContextFreeRule K G.NT} (hr : r ∈ G.rules) :
    formWords (derivedWords G) r.output ≤ derivedWords G r.input := by
  intro w hw
  have hfirst : G.Produces [.nonterminal r.input] r.output :=
    ⟨r, hr, ContextFreeRule.Rewrites.input_output⟩
  exact hfirst.trans_derives (derives_of_mem_formWords hw)

end Forms

/-! ## Productions -/

namespace Operator

/-- The productions of the operator at `id`. -/
def productions (body? : N → Option NodeId) (id : NodeId) :
    Operator K N NodeId → List (List (Symbol K NodeId))
  | .terminal tag => [[.terminal tag]]
  | .nonTerminal name => (body? name).toList.map fun body => [.nonterminal body]
  | .emptyString => [[]]
  | .sequence operands => [operands.map .nonterminal]
  | .orderedChoice operands => operands.map fun operand => [.nonterminal operand]
  | .optional operand => [[], [.nonterminal operand]]
  | .zeroOrMore operand => [[], [.nonterminal operand, .nonterminal id]]
  | .oneOrMore operand => [[.nonterminal operand], [.nonterminal operand, .nonterminal id]]
  | .andPredicate _ => [[]]
  | .notPredicate _ => [[]]

/-- The words of an operator, given the words of its operands and of the rule that it calls. -/
def language (L : NodeId → Language K) (called : N → Language K) :
    Operator K N NodeId → Language K
  | .terminal tag => {[tag]}
  | .nonTerminal name => called name
  | .emptyString => 1
  | .sequence operands => (operands.map L).prod
  | .orderedChoice operands => (operands.map L).sum
  | .optional operand => 1 + L operand
  | .zeroOrMore operand => (L operand)∗
  | .oneOrMore operand => L operand * (L operand)∗
  | .andPredicate _ => 1
  | .notPredicate _ => 1

end Operator

/-- A word of one of some languages is a word of their sum. -/
theorem le_sum_of_mem {L : Language K} {Ls : List (Language K)} (h : L ∈ Ls) : L ≤ Ls.sum := by
  induction Ls with
  | nil => cases h
  | cons M Ls ih =>
    rw [List.sum_cons]
    rcases List.mem_cons.1 h with rfl | h
    exacts [le_self_add, (ih h).trans le_add_self]

/-- A language with the words of each of some languages has the words of their sum. -/
theorem sum_le_of_forall {L : Language K} {Ls : List (Language K)} (h : ∀ M ∈ Ls, M ≤ L) :
    Ls.sum ≤ L := by
  induction Ls with
  | nil => exact bot_le
  | cons M Ls ih =>
    rw [List.sum_cons]
    exact add_le (h M List.mem_cons_self) (ih fun M hM => h M (List.mem_cons_of_mem _ hM))

namespace Grammar

variable [DecidableEq K] [DecidableEq N] (g : Grammar K N T)

/-- The grammar as a context-free grammar. -/
abbrev contextFree : ContextFreeGrammar K where
  NT := NodeId
  initial := g.startNode
  rules := (g.arena.ids.flatMap fun id =>
    ((g.arena.get? id).toList.flatMap (Operator.productions g.body? id)).map
      (ContextFreeRule.mk id)).toFinset

/-- The words of the operator at an id. -/
def languageOf : NodeId → Language K := derivedWords g.contextFree

/-- The words of a rule; none if there is no such rule. -/
def languageOfRule (name : N) : Language K := (g.body? name).elim 0 g.languageOf

variable {g} {id : NodeId} {operator : Operator K N NodeId}

theorem mem_rules {r : ContextFreeRule K NodeId} : r ∈ g.contextFree.rules ↔
    ∃ operator, g.arena.get? r.input = some operator ∧
      r.output ∈ operator.productions g.body? r.input := by
  simp only [contextFree, List.mem_toFinset, List.mem_flatMap, List.mem_map]
  constructor
  · rintro ⟨id, -, output, ⟨operator, hget, houtput⟩, rfl⟩
    exact ⟨operator, Option.mem_toList.1 hget, houtput⟩
  · rintro ⟨operator, hget, houtput⟩
    exact ⟨r.input, Arena.mem_ids_iff.2 (hget ▸ rfl), r.output,
      ⟨operator, Option.mem_toList.2 hget, houtput⟩, rfl⟩

/-- The words of an operator have those of its productions. -/
theorem formWords_le_languageOf (hget : g.arena.get? id = some operator)
    {form : List (Symbol K NodeId)} (hform : form ∈ operator.productions g.body? id) :
    formWords g.languageOf form ≤ g.languageOf id := by
  have hrule : ContextFreeRule.mk id form ∈ g.contextFree.rules :=
    mem_rules.2 ⟨operator, hget, hform⟩
  exact formWords_le_derivedWords hrule

/-- What an operator makes of the words of its operands are words of the operator. -/
theorem language_le_languageOf (hget : g.arena.get? id = some operator) :
    operator.language g.languageOf g.languageOfRule ≤ g.languageOf id := by
  have hform : ∀ form ∈ operator.productions g.body? id,
      formWords g.languageOf form ≤ g.languageOf id :=
    fun _ hform => formWords_le_languageOf hget hform
  have hone : ∀ o, [.nonterminal o] ∈ operator.productions g.body? id →
      g.languageOf o ≤ g.languageOf id := by
    intro o ho
    have hle := hform _ ho
    rwa [formWords_cons, formWords_nil, mul_one] at hle
  -- A turn more, in front of the turns that the operator itself makes.
  have hturn : ∀ o, [.nonterminal o, .nonterminal id] ∈ operator.productions g.body? id →
      g.languageOf o * g.languageOf id ≤ g.languageOf id := by
    intro o ho
    have hle := hform _ ho
    rwa [formWords_cons, formWords_cons, formWords_nil, mul_one] at hle
  cases operator with
  | terminal tag =>
    have hle := hform [.terminal tag] (.head _)
    rwa [formWords_cons, formWords_nil, mul_one] at hle
  | nonTerminal name =>
    rw [Operator.language, languageOfRule]
    cases hbody : g.body? name with
    | none => exact bot_le
    | some body => exact hone body (by simp [Operator.productions, hbody])
  | emptyString => exact hform [] (.head _)
  | sequence operands =>
    have hle := hform _ (.head _)
    rwa [formWords_nonterminals] at hle
  | orderedChoice operands =>
    refine sum_le_of_forall fun M hM => ?_
    obtain ⟨o, ho, rfl⟩ := List.mem_map.1 hM
    exact hone o (List.mem_map_of_mem ho)
  | optional operand =>
    exact add_le (hform [] (.head _)) (hone operand (.tail _ (.head _)))
  | zeroOrMore operand =>
    exact kstar_le_of_mul_le_right (hform [] (.head _)) (hturn operand (.tail _ (.head _)))
  | oneOrMore operand =>
    have hle := kstar_mul_le (hone operand (.head _)) (hturn operand (.tail _ (.head _)))
    rwa [Language.mul_self_kstar_comm] at hle
  | andPredicate operand => exact hform [] (.head _)
  | notPredicate operand => exact hform [] (.head _)

variable (g) in
/-- What the operator at an id makes of the words of its operands; nothing if there is none. -/
def layerWords (id : NodeId) : Language K :=
  (g.arena.get? id).elim 0 (Operator.language g.languageOf g.languageOfRule)

theorem layerWords_of_get? (hget : g.arena.get? id = some operator) :
    g.layerWords id = operator.language g.languageOf g.languageOfRule := by
  rw [layerWords, hget, Option.elim_some]

theorem layerWords_le (id : NodeId) : g.layerWords id ≤ g.languageOf id := by
  cases hget : g.arena.get? id with
  | none =>
    rw [layerWords, hget]
    exact bot_le
  | some operator =>
    rw [layerWords_of_get? hget]
    exact language_le_languageOf hget

/-- What operators make of the words of their operands is closed under the productions. -/
theorem formWords_layerWords_le (hget : g.arena.get? id = some operator)
    {form : List (Symbol K NodeId)} (hform : form ∈ operator.productions g.body? id) :
    formWords g.layerWords form ≤ operator.language g.languageOf g.languageOfRule := by
  have hone : ∀ o, formWords g.layerWords [.nonterminal o] ≤ g.languageOf o := by
    intro o
    rw [formWords_cons, formWords_nil, mul_one]
    exact layerWords_le o
  have hturn : ∀ o, formWords g.layerWords [.nonterminal o, .nonterminal id] ≤
      g.languageOf o * operator.language g.languageOf g.languageOfRule := by
    intro o
    rw [formWords_cons, ← layerWords_of_get? hget]
    refine mul_le_mul' (layerWords_le o) (le_of_eq ?_)
    rw [formWords_cons, formWords_nil, mul_one]
    rfl
  cases operator with
  | terminal tag =>
    cases List.mem_singleton.1 hform
    rw [formWords_cons, formWords_nil, mul_one]
    exact le_rfl
  | nonTerminal name =>
    obtain ⟨body, hbody, rfl⟩ := List.mem_map.1 hform
    rw [Operator.language, languageOfRule, Option.mem_toList.1 hbody]
    exact hone body
  | emptyString =>
    cases List.mem_singleton.1 hform
    exact le_rfl
  | sequence operands =>
    cases List.mem_singleton.1 hform
    rw [Operator.language, ← formWords_nonterminals]
    exact formWords_mono layerWords_le _
  | orderedChoice operands =>
    obtain ⟨o, ho, rfl⟩ := List.mem_map.1 hform
    exact (hone o).trans (le_sum_of_mem (List.mem_map_of_mem ho))
  | optional operand =>
    rcases List.mem_pair.1 hform with rfl | rfl
    exacts [le_self_add, (hone operand).trans le_add_self]
  | zeroOrMore operand =>
    rcases List.mem_pair.1 hform with rfl | rfl
    · exact one_le_kstar
    · exact (hturn operand).trans mul_kstar_le_kstar
  | oneOrMore operand =>
    rcases List.mem_pair.1 hform with rfl | rfl
    · exact (hone operand).trans (le_mul_of_one_le_right' one_le_kstar)
    · exact (hturn operand).trans (mul_le_mul' le_rfl mul_kstar_le_kstar)
  | andPredicate operand =>
    cases List.mem_singleton.1 hform
    exact le_rfl
  | notPredicate operand =>
    cases List.mem_singleton.1 hform
    exact le_rfl

/-- **The words of an operator are what it makes of the words of its operands.** -/
theorem languageOf_eq (hget : g.arena.get? id = some operator) :
    g.languageOf id = operator.language g.languageOf g.languageOfRule := by
  refine le_antisymm ?_ (language_le_languageOf hget)
  rw [← layerWords_of_get? hget]
  refine derivedWords_le (G := g.contextFree) (fun r hr => ?_) id
  obtain ⟨operator, hget, hform⟩ := mem_rules.1 hr
  have hle := formWords_layerWords_le hget hform
  rwa [← layerWords_of_get? hget] at hle

end Grammar

end Packrat
