import Packrat.Proofs.Evaluation.Trials
import Packrat.Proofs.Language

/-!
# What a parse accepts

A parse is not complete for the language of its grammar: choices are ordered, repetitions take all
they can, and calls may be refused. But it is sound (`Grammar.parseWith_accepts`). The tags of the
tokens that an operator matches are always among the words of the operator, those of a whole parse
among the words of the grammar as a context-free grammar. Left recursion, the memo table and refused
calls do no harm: an outcome that was found while calls were refused is still one that the rule can
have.
-/

namespace Packrat

open scoped Computability

variable {K N T : Type}

/-! ## Words of the input -/

/-- The tags of the tokens from a position up to another. -/
def tagsBetween (input : Array (Token K)) (p q : Nat) : List K :=
  (input.extract p q).toList.map (·.tag)

section Words

variable {input : Array (Token K)} {L M : Language K} {p q r : Nat}

@[simp] theorem tagsBetween_self (p : Nat) : tagsBetween input p p = [] := by
  simp [tagsBetween]

theorem tagsBetween_succ {token : Token K} (h : input[p]? = some token) :
    tagsBetween input p (p + 1) = [token.tag] := by
  obtain ⟨hp, rfl⟩ := Array.getElem?_eq_some_iff.1 h
  rw [tagsBetween, Array.extract_succ_right (Nat.lt_succ_self p) hp, Array.toList_push,
    List.map_append]
  simp

theorem tagsBetween_append (hpq : p ≤ q) (hqr : q ≤ r) :
    tagsBetween input p q ++ tagsBetween input q r = tagsBetween input p r := by
  rw [tagsBetween, tagsBetween, ← List.map_append, ← Array.toList_append,
    Array.extract_append_extract, Nat.min_eq_left hpq, Nat.max_eq_right hqr, tagsBetween]

theorem tagsBetween_all : tagsBetween input 0 input.size = input.toList.map (·.tag) := by
  simp [tagsBetween]

/-- The tags from a position up to another, not earlier one are a word of the language. -/
def WordBetween (L : Language K) (input : Array (Token K)) (p q : Nat) : Prop :=
  p ≤ q ∧ tagsBetween input p q ∈ L

namespace WordBetween

theorem mono (h : WordBetween L input p q) (hle : L ≤ M) : WordBetween M input p q :=
  ⟨h.1, hle h.2⟩

theorem one (input : Array (Token K)) (p : Nat) : WordBetween 1 input p p :=
  ⟨Nat.le_refl p, by rw [tagsBetween_self]; exact Language.nil_mem_one⟩

theorem mul (hL : WordBetween L input p q) (hM : WordBetween M input q r) :
    WordBetween (L * M) input p r := by
  refine ⟨Nat.le_trans hL.1 hM.1, ?_⟩
  rw [← tagsBetween_append hL.1 hM.1]
  exact Language.append_mem_mul hL.2 hM.2

/-- One turn after the other, at least one. -/
theorem turns {E : Nat → Nat → Prop} (hE : ∀ ⦃p q⦄, E p q → WordBetween L input p q)
    (h : Relation.TransGen E p q) : WordBetween (L * L∗) input p q := by
  induction h using Relation.TransGen.head_induction_on with
  | single h =>
    have hlast := (hE h).mul (one input q)
    exact hlast.mono (mul_le_mul' le_rfl one_le_kstar)
  | head h _ ih => exact ((hE h).mul ih).mono (mul_le_mul' le_rfl mul_kstar_le_kstar)

/-- One operand after the other. -/
theorem inTurn {E : Extent} {words : NodeId → Language K} {operands : List NodeId}
    (hE : ∀ o ∈ operands, ∀ ⦃p q⦄, E o p q → WordBetween (words o) input p q)
    (h : E.InTurn operands p q) : WordBetween (operands.map words).prod input p q := by
  induction operands generalizing p with
  | nil =>
    cases h
    exact one input _
  | cons operand rest ih =>
    obtain ⟨mid, hfirst, hrest⟩ := h
    rw [List.map_cons, List.prod_cons]
    exact (hE operand List.mem_cons_self hfirst).mul
      (ih (fun o ho => hE o (List.mem_cons_of_mem _ ho)) hrest)

end WordBetween

end Words

namespace Grammar

variable [DecidableEq K] [DecidableEq N] {g : Grammar K N T} {input : Array (Token K)}

/-- The matches of words of the operators. -/
def worded (g : Grammar K N T) (input : Array (Token K)) : Extent :=
  fun id p q => WordBetween (g.languageOf id) input p q

/-- **Operators make words of words.** -/
theorem closed_worded (g : Grammar K N T) (input : Array (Token K)) :
    (g.worded input).Closed g input where
  terminal id tag p token hget htoken htag := by
    refine ⟨Nat.le_succ p, ?_⟩
    rw [languageOf_eq hget, tagsBetween_succ htoken, htag]
    exact rfl
  nonTerminal id name body p q hget hbody h := by
    have hwords : g.languageOf id = g.languageOf body := by
      rw [languageOf_eq hget, Operator.language, languageOfRule, hbody, Option.elim_some]
    rw [worded, hwords]
    exact h
  skip id operator p hget hskips := by
    refine (WordBetween.one input p).mono ?_
    rw [languageOf_eq hget]
    cases operator with
    | emptyString => exact le_rfl
    | optional operand => exact le_self_add
    | zeroOrMore operand => exact one_le_kstar
    | andPredicate operand => exact le_rfl
    | notPredicate operand => exact le_rfl
    | _ => cases hskips
  sequence id operands p q hget h := by
    refine (WordBetween.inTurn (fun _ _ _ _ h => h) h).mono ?_
    rw [languageOf_eq hget]
    exact le_rfl
  orderedChoice id operands o p q hget ho h := by
    refine WordBetween.mono h ?_
    rw [languageOf_eq hget]
    exact le_sum_of_mem (List.mem_map_of_mem ho)
  optional id operand p q hget h := by
    refine WordBetween.mono h ?_
    rw [languageOf_eq hget]
    exact le_add_self
  zeroOrMore id operand p q hget h := by
    refine (WordBetween.turns (fun _ _ h => h) h).mono ?_
    rw [languageOf_eq hget]
    exact mul_kstar_le_kstar
  oneOrMore id operand p q hget h := by
    refine (WordBetween.turns (fun _ _ h => h) h).mono ?_
    rw [languageOf_eq hget]
    exact le_rfl

/-- Every match in the memo table is a word of its rule. -/
def MemoAccepts (g : Grammar K N T) (input : Array (Token K)) (run : Run N T) : Prop :=
  ∀ ⦃name p mode next span value⦄,
    run.context.memo.find? name p mode = some (.matched next span value) →
      WordBetween (g.languageOfRule name) input p next

/-- Sound books have words of the rules. -/
theorem memoAccepts_of_sound {n : Nat} {active : Nat → List NodeId} {run : Run N T}
    (hsound : g.Sound (g.worded input) n active run.context) (hruled : g.Ruled run.context) :
    g.MemoAccepts input run := by
  intro name p mode next span value hfind
  obtain ⟨body, hbody⟩ := Option.isSome_iff_exists.1 (hruled hfind)
  rw [languageOfRule, hbody]
  exact hsound.covered hfind hbody

variable [ToString K] [ToString N] [Inhabited T] {b : Builder K N T} {start : N}
  {rules : List (Rule N)}

/-- **A parse accepts only words of the grammar.** If it matches, the tags of the input are a word
of the grammar as a context-free grammar. On the way, whatever operator is tried, the tags of the
tokens that it matches are a word of the operator; and all the time the tags of each match in the
memo table are a word of its rule. -/
theorem parseWith_accepts (hb : b.Made) (hg : b.build start rules = .ok g)
    (input : Array (Token K)) (context : Context N T) (labels : Labels) :
    ((g.parseWith input context labels).1.isMatch →
      input.toList.map (·.tag) ∈ g.contextFree.language) ∧
    (∀ ⦃depth active x⦄, g.Tried input context labels depth active x →
      g.MemoAccepts input x.run ∧ EndsWith (g.MemoAccepts input)
        (Outcome.Upto (WordBetween (g.languageOf x.node) input x.position))
        (x.result (g.eval input depth))) ∧
    g.MemoAccepts input (g.parseWith input context labels).2 := by
  have hE := g.closed_worded input
  have hJ := g.invariant_ruled input fun _ _ => true
  have hstart : g.Ruled ({ context := context.reset, labels } : Run N T).context :=
    g.ruled_reset context
  refine ⟨fun hmatch => ?_, fun depth active x hx => ⟨?_, ?_⟩, ?_⟩
  · obtain ⟨raw, run, -, hparse, ⟨-, hupto⟩, -⟩ := parseWith_endsWell hb hg hE hJ hstart
    rw [hparse] at hmatch
    cases raw with
    | failed p => cases hmatch
    | matched next span value =>
      by_cases hall : next = input.size
      · subst hall
        rw [← tagsBetween_all]
        exact hupto.2
      · rw [Outcome.complete, if_neg hall] at hmatch
        cases hmatch
  · obtain ⟨⟨-, -, hsound, hruled⟩, -⟩ := hx.placed hb hg hE hJ hstart
    exact memoAccepts_of_sound hsound hruled
  · obtain ⟨o, run, ho, hfits, hsound, hruled⟩ := hx.endsWell hb hg hE hJ hstart
    exact ⟨o, run, ho, hfits.2, memoAccepts_of_sound hsound hruled⟩
  · obtain ⟨raw, run, -, hparse, -, hsound, hruled⟩ := parseWith_endsWell hb hg hE hJ hstart
    rw [hparse]
    exact memoAccepts_of_sound hsound hruled

/-- A rule that calls itself at once: its own first call is refused, but one token is matched. -/
theorem parseWith_accepts_leftRecursive :
    ∃ (g : Grammar Char Char Unit) (input : Array (Token Char)),
      ofExprs {} 'S' leftRecursive = .ok g ∧ input.toList.map (·.tag) = ['a'] ∧
        (g.parseWith input {} ∅).1.isMatch ∧ (g.parseWith input {} ∅).2.context.stats.cuts = 1 ∧
        ['a'] ∈ g.contextFree.language ∧ g.MemoAccepts input (g.parseWith input {} ∅).2 := by
  have hg := eq_ok_of_isSome_toOption isSome_leftRecursive
  obtain ⟨b, rules, hb, hbuild, -⟩ := ofExprs_made hg
  obtain ⟨haccepts, -, hmemo⟩ := parseWith_accepts hb hbuild #[⟨'a', ⟨0, 1⟩, "a"⟩] {} ∅
  have hmatch : (((ofExprs (T := Unit) {} 'S' leftRecursive).toOption.get
      isSome_leftRecursive).parseWith #[⟨'a', ⟨0, 1⟩, "a"⟩] {} ∅).1.isMatch := by decide +kernel
  exact ⟨_, _, hg, rfl, hmatch, by decide +kernel, haccepts hmatch, hmemo⟩

end Grammar

end Packrat
