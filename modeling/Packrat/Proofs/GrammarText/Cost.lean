import Packrat.Proofs.Evaluation.Linear
import Packrat.Proofs.GrammarText.Matching

/-!
# What it costs to read grammar text

An operator within a choice is tried as a sequence and then as a unary operator, and an atom up to
four times within a unary operator, one nested in the other. Yet the parts have ranks that fall
along every call before a token is passed (`Part.rank`), and the only predicate looks at a single
token. So no call is ever refused, and every part is evaluated once at most at each position
(`IsGrammar.parseWith_linear`). This depends on the trees of the rules only, and not on which
operators are shared or what the actions do (`IsGrammar`).
-/

namespace Packrat.GrammarText

variable {T : Type}

/-- The rank of a part: a part calls only parts of a smaller rank before it passes a token. -/
def Part.rank : Part → Nat
  | .operator => 6
  | .choice => 5
  | .sequence => 4
  | .unary => 3
  | .optional => 2
  | .zeroOrMore => 2
  | .oneOrMore => 2
  | .atom => 1
  | .start => 1
  | _ => 0

/-- A grammar with the rules of grammar text, with any actions and with its operators shared in any
way. -/
structure IsGrammar (g : Grammar Symbol Part T) : Prop where
  built : ∃ (b : Builder Symbol Part T) (rules : List (Rule Part)),
    b.Made ∧ b.build .start rules = .ok g
  trees : ∀ part, g.tree? part = some part.body

/-- The grammar of grammar text has its rules. -/
theorem isGrammar_grammar : IsGrammar grammar where
  built := by
    obtain ⟨b, rules, hext, hbuild⟩ := exists_build
    exact ⟨b, rules, hext.made (.new 0 registry), hbuild⟩
  trees := tree?_grammar

/-- The rules make a grammar as they are written, every operator one of its own. -/
theorem isSome_ofExprs : (Grammar.ofExprs (T := Unit) {} .start
    (Part.all.map fun part => (part, part.body))).toOption.isSome := by
  decide

/-- The grammar of grammar text without shared operators and without actions. -/
def unsharedGrammar : Grammar Symbol Part Unit := Option.get _ isSome_ofExprs

theorem isGrammar_unsharedGrammar : IsGrammar unsharedGrammar := by
  have hgrammar := eq_ok_of_isSome_toOption isSome_ofExprs
  obtain ⟨b, rules, hb, hbuild, hregistry, -⟩ := Grammar.ofExprs_made hgrammar
  obtain ⟨hext, -⟩ := Grammar.extends_build hbuild
  rw [hregistry] at hext
  refine ⟨⟨b, rules, hb, hbuild⟩, fun part => ?_⟩
  have hlookup : (Part.all.map fun part => (part, part.body)).lookup part = some part.body := by
    cases part <;> rfl
  obtain ⟨body, hbody, hholds⟩ :=
    Grammar.body?_of_lookup (Grammar.ofExprs_holds hgrammar).2 hlookup
  rw [Grammar.tree?, unsharedGrammar, hbody]
  exact hholds.unfolds (hext.made hb)

namespace IsGrammar

variable {g : Grammar Symbol Part T}

/-- No part matches without passing a token, and the ranks fall. -/
theorem ranked (h : IsGrammar g) : g.Ranked (fun _ => false) Part.rank where
  known part e htree := by
    cases (h.trees part).symm.trans htree
    cases part <;> decide
  falls part e htree := by
    cases (h.trees part).symm.trans htree
    cases part <;> decide

/-- The only predicate looks at a single token. -/
theorem onlyConsumes (h : IsGrammar g) ⦃part : Part⦄ ⦃e : Expr Symbol Part⦄
    (htree : g.tree? part = some e) : e.onlyConsumes .consuming := by
  cases (h.trees part).symm.trans htree
  cases part <;> decide

/-- There is one rule for each part. -/
theorem length_rules_le (h : IsGrammar g) : g.rules.length ≤ 16 := by
  obtain ⟨b, rules, hb, hbuild⟩ := h.built
  obtain ⟨hnone, rfl, -⟩ := Builder.build_eq_ok hbuild
  obtain ⟨hnodup, -⟩ := Arena.ruleError?_eq_none_iff.1 hnone
  have hsub : g.rules.map (·.head) ⊆ Part.all := by
    intro part _
    cases part <;> decide
  have hlength := (hnodup.subperm hsub).length_le
  rwa [List.length_map] at hlength

/-- **Grammar text is read in linear time.** Whatever `n` lexemes a parse is given, it ends, it
refuses no call, and it evaluates the body of a rule `16 * (n + 1)` times at most: every call is
answered from the memo table or evaluates a body, and there are as many entries as evaluations. -/
theorem parseWith_linear [Inhabited T] (h : IsGrammar g) (tokens : Array (Token Symbol))
    (context : Context Part T) (labels : Labels) :
    ∃ raw run, g.evalStart tokens { context := context.reset, labels } = some (raw, run) ∧
      g.parseWith tokens context labels = (raw.complete tokens.size, run) ∧
      run.context.stats.cuts = 0 ∧
      run.context.stats.ruleCalls = run.context.stats.memoHits + run.context.memo.size ∧
      run.context.memo.size ≤ 16 * (tokens.size + 1) := by
  obtain ⟨b, rules, hb, hbuild⟩ := h.built
  obtain ⟨raw, run, hraw, hparse, hcuts, hcalls, hsize⟩ :=
    h.ranked.parseWith_cost hb hbuild h.onlyConsumes tokens context labels
  exact ⟨raw, run, hraw, hparse, hcuts, hcalls,
    hsize.trans (Nat.mul_le_mul_right _ h.length_rules_le)⟩

end IsGrammar

/-- So it is with both grammars, the one with a single operator for each part that is called, and
the one with an operator for each call. -/
theorem parseWith_linear_shared :
    IsGrammar grammar ∧ IsGrammar unsharedGrammar ∧ ∀ tokens : Array (Token Symbol),
      (grammar.parseWith tokens {} ∅).2.context.stats.cuts = 0 ∧
      (grammar.parseWith tokens {} ∅).2.context.memo.size ≤ 16 * (tokens.size + 1) ∧
      (unsharedGrammar.parseWith tokens {} ∅).2.context.stats.cuts = 0 ∧
      (unsharedGrammar.parseWith tokens {} ∅).2.context.memo.size ≤ 16 * (tokens.size + 1) := by
  refine ⟨isGrammar_grammar, isGrammar_unsharedGrammar, fun tokens => ?_⟩
  obtain ⟨raw, run, -, hparse, hcuts, -, hsize⟩ :=
    isGrammar_grammar.parseWith_linear tokens {} ∅
  obtain ⟨raw', run', -, hparse', hcuts', -, hsize'⟩ :=
    isGrammar_unsharedGrammar.parseWith_linear tokens {} ∅
  rw [hparse, hparse']
  exact ⟨hcuts, hsize, hcuts', hsize'⟩

end Packrat.GrammarText
