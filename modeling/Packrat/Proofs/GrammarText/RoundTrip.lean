import Packrat.GrammarText.Compiler
import Packrat.Proofs.GrammarText.Printing
import Packrat.Proofs.Resolution

/-!
# Compiling the text of a grammar

The text of a grammar is that of the trees of its rules (`Grammar.text_eq`), which is read as these
trees, spliced. A compiler that resolves the identifiers makes the operators that lowering the trees
makes (`Lowering.agree_lowerTexts`), and what was lowered unfolds to the trees again
(`Builder.Holds.unfolds`, `Grammar.exists_build`). So the text of a grammar compiles to
a grammar with the same rules but for splicing, and with the same text (`Compiler.compile_text`).
-/

namespace Packrat

variable {K N T : Type}

/-! ## Lowering what was read -/

theorem Operator.map_raw [ToString K] [ToString N] {ι κ : Type} (f : ι → κ)
    (op : Operator K N ι) : op.raw.map f = (op.map f).raw := by
  cases op <;> rfl

namespace Lowering

variable [ToString K] [ToString N] {ε : Type} {l : Lowering String String K N ε}

/-- Tags and names resolve from their texts. -/
def Resolves (l : Lowering String String K N ε) (e : Expr K N) : Prop :=
  e.Over (fun tag => l.tag (toString tag) = .ok tag) fun name => l.name (toString name) = .ok name

/-- The texts of tags and names are resolved to these again. -/
theorem Resolves.resolvesTo {e : Expr K N} (h : l.Resolves e) : l.ResolvesTo e.raw e := by
  induction e using Expr.operandInduction with
  | step e ih =>
    obtain ⟨hop, hovers⟩ := Expr.over_iff.1 h
    have hoperands : ∀ o ∈ e.operator.operands, o.raw.translate l.tag l.name =
        o.translate .ok .ok := fun o ho => ih o ho (hovers o ho)
    have hown : ∀ {op : Operator K N (Expr (Except ε K) (Except ε N))},
        op.Over (fun tag => l.tag (toString tag) = .ok tag)
          (fun name => l.name (toString name) = .ok name) →
        op.raw.translate l.tag l.name = op.translate .ok .ok := by
      intro op hop
      cases op with
      | terminal tag => exact congrArg Operator.terminal hop
      | nonTerminal name => exact congrArg Operator.nonTerminal hop
      | _ => rfl
    rw [ResolvesTo, Expr.raw_eq, Expr.translate_eq, Expr.translate_eq _ _ e, Expr.operator_toExpr,
      Operator.map_raw, Operator.map_map, Operator.map_congr hoperands,
      hown ((Operator.over_map _ _).2 hop)]

variable [DecidableEq K] [DecidableEq N]

/-- Rules whose tags and names resolve from their texts are made from these. -/
theorem agree_lowerTexts {rules : List (N × Expr K N)}
    (h : ∀ rule ∈ rules, l.name (toString rule.1) = .ok rule.1 ∧ rule.2.Full ∧ l.Resolves rule.2)
    (b : Builder K N T) :
    Agree (l.lowerRules (rules.map fun rule => (toString rule.1, rule.2.raw)) b)
      (verbatim.lowerRules rules b) := by
  refine agree_lowerRules ?_ (List.forall_mem_map.2 fun rule hrule => ?_) b
  · rw [List.forall₂_map_left_iff]
    exact List.forall₂_same.2 fun rule hrule => ⟨(h rule hrule).1, (h rule hrule).2.2.resolvesTo⟩
  · obtain ⟨-, hfull, hres⟩ := h rule hrule
    exact hres.resolvesTo.full_iff.1 hfull

end Lowering

/-! ## The trees of a grammar -/

namespace Grammar

/-- **Expressions that a builder holds make a grammar**, if heads are distinct, the start symbol is
one of them and no other rules are called; the bodies of its rules unfold to the expressions. -/
theorem exists_build [DecidableEq K] [DecidableEq N] {b : Builder K N T} {start : N}
    {rules : List (Rule N)} {given : List (N × Expr K N)} (hb : b.Made)
    (hall : List.Forall₂ (fun x rule => rule.head = x.1 ∧ b.Holds x.2 rule.body) given rules)
    (hnodup : (given.map (·.1)).Nodup) (hstart : start ∈ given.map (·.1))
    (hcalls : ∀ x ∈ given, x.2.Over (fun _ => True) (· ∈ given.map (·.1))) :
    ∃ g, b.build start rules = .ok g ∧ g.start = start ∧
      List.Forall₂ (fun x rule => rule.head = x.1 ∧ g.arena.unfold? rule.body = some x.2)
        given g.rules := by
  have hheads : rules.map (·.head) = given.map (·.1) :=
    (map_eq_map_iff_forall₂.2 (hall.imp fun _ _ h => h.1.symm)).symm
  have hnone : b.arena.ruleError? start rules = none := by
    refine Arena.ruleError?_eq_none_iff.2 ⟨hheads ▸ hnodup, hheads ▸ hstart, ?_⟩
    intro rule hrule id hid
    obtain ⟨x, hx, -, hbody⟩ := exists_of_forall₂_mem hall hrule
    obtain ⟨op, hop, hover⟩ := Arena.exists_over_of_reaches (hbody.unfolds hb) (hcalls x hx) hid
    refine ⟨op, hop, fun name hname => ?_⟩
    cases op with
    | nonTerminal called =>
      cases hname
      rw [hheads]
      exact hover
    | _ => cases hname
  obtain ⟨g, hg⟩ : ∃ g, b.build start rules = .ok g := by
    rw [Builder.build, hnone]
    exact ⟨_, rfl⟩
  obtain ⟨-, hrules, hgstart, -⟩ := Builder.build_eq_ok hg
  obtain ⟨hext, -⟩ := extends_build hg
  refine ⟨g, hg, hgstart, hrules ▸ hall.imp ?_⟩
  rintro x rule ⟨hhead, hbody⟩
  exact ⟨hhead, (hext.holds hbody).unfolds (hext.made hb)⟩

/-- A tag of a terminal that takes part in parses. -/
def UsesTag (g : Grammar K N T) (tag : K) : Prop :=
  ∃ id, g.Live id ∧ g.arena.get? id = some (.terminal tag)

/-- The heads of the rules with the trees of their bodies. -/
def trees (g : Grammar K N T) : List (N × Expr K N) :=
  g.rules.map fun rule => (rule.head, ( g.arena.unfold? rule.body).getD .emptyString)

theorem map_fst_trees (g : Grammar K N T) : g.trees.map (·.1) = g.rules.map (·.head) := by
  rw [trees, List.map_map]
  rfl

variable [DecidableEq N] {b : Builder K N T} {start : N} {rules : List (Rule N)}
  {g : Grammar K N T} {rule : Rule N}

/-- A grammar has a rule. -/
theorem trees_ne_nil (hg : b.build start rules = .ok g) : g.trees ≠ [] := by
  obtain ⟨hnone, hrules, -⟩ := Builder.build_eq_ok hg
  obtain ⟨hstart, -⟩ := Arena.ruleError?_eq_none hnone
  intro hnil
  rw [← hrules, ← map_fst_trees, hnil] at hstart
  cases hstart

/-- The body of a rule unfolds to a tree with tags and names of the grammar. -/
theorem exists_tree (hb : b.Made) (hg : b.build start rules = .ok g) (hrule : rule ∈ g.rules) :
    ∃ t, g.arena.unfold? rule.body = some t ∧ t.Full ∧
      t.Over g.UsesTag (· ∈ g.rules.map (·.head)) := by
  have hbody : g.Live rule.body := .inr ⟨rule, hrule, .root⟩
  obtain ⟨t, -, ht, hfull⟩ := hbody.exists_unfold hb hg
  refine ⟨_, ht, hfull, Arena.over_of_unfolding (fun id op hid hop => ?_) hbody ht⟩
  obtain ⟨operator, hoperator, hoperands, hcallee⟩ := hid.closed hg
  rw [hop] at hoperator
  cases hoperator
  refine ⟨?_, hoperands⟩
  cases op with
  | terminal tag => exact ⟨id, hid, hop⟩
  | nonTerminal name =>
    obtain ⟨body, hbody, -⟩ := hcallee name rfl
    obtain ⟨rule, hrule, -⟩ := Option.map_eq_some_iff.1 hbody
    have hhead : rule.head = name := by simpa using List.find?_some hrule
    exact List.mem_map.2 ⟨rule, List.mem_of_find?_eq_some hrule, hhead⟩
  | _ => trivial

/-- The trees of a grammar are full, and have its tags and names. -/
theorem forall_mem_trees (hb : b.Made) (hg : b.build start rules = .ok g) :
    ∀ x ∈ g.trees, x.1 ∈ g.rules.map (·.head) ∧ x.2.Full ∧
      x.2.Over g.UsesTag (· ∈ g.rules.map (·.head)) := by
  refine List.forall_mem_map.2 fun rule hrule => ?_
  obtain ⟨t, ht, hfull, hover⟩ := exists_tree hb hg hrule
  rw [ht]
  exact ⟨List.mem_map_of_mem hrule, hfull, hover⟩

variable [ToString K] [ToString N]

/-- **The text of a grammar is that of its trees.** -/
theorem text_eq (hb : b.Made) (hg : b.build start rules = .ok g) :
    g.text = GrammarText.rulesText g.trees := by
  rw [text, GrammarText.rulesText, trees, List.map_map]
  refine congrArg _ (List.map_congr_left fun rule hrule => ?_)
  obtain ⟨t, ht, -, -⟩ := exists_tree hb hg hrule
  rw [Function.comp_apply, ht, Arena.render_eq_text ht]
  rfl

omit [DecidableEq N] in
/-- Grammars with the same heads and the same texts of bodies have the same text. -/
theorem text_congr {T' : Type} {g' : Grammar K N T'}
    (h : List.Forall₂ (fun rule rule' => rule'.head = rule.head ∧
      g'.arena.render rule'.body = g.arena.render rule.body) g.rules g'.rules) :
    g'.text = g.text := by
  rw [text, text]
  congr 1
  refine (map_eq_map_iff_forall₂.2 (h.imp ?_)).symm
  rintro rule rule' ⟨hhead, hbody⟩
  rw [hhead, hbody]

/-- The tags and names of a grammar print as identifiers. -/
structure Printable (g : Grammar K N T) : Prop where
  tags : ∀ tag, g.UsesTag tag → GrammarText.isIdentifier (toString tag)
  names : ∀ name ∈ g.rules.map (·.head), GrammarText.isIdentifier (toString name)

/-- The trees of a grammar can be printed if its tags and names can. -/
theorem Printable.trees (h : g.Printable) (hb : b.Made) (hg : b.build start rules = .ok g) :
    ∀ x ∈ g.trees, GrammarText.Printable x := by
  intro x hx
  obtain ⟨hhead, hfull, hover⟩ := forall_mem_trees hb hg x hx
  exact ⟨h.names x.1 hhead, hfull, hover.imp h.tags h.names⟩

end Grammar

/-! ## Compiling what was printed -/

namespace Compiler

variable [ToString K] [ToString N] {T' : Type} {c : Compiler K N} {b : Builder K N T}
  {start : N} {rules : List (Rule N)} {g : Grammar K N T}

/-- The compiler resolves the tags and names of a grammar from their texts. -/
structure Covers (c : Compiler K N) (g : Grammar K N T) : Prop where
  tags : ∀ tag, g.UsesTag tag → c.tags.lookup (toString tag) = some tag
  names : ∀ name ∈ g.rules.map (·.head), c.rules.lookup (toString name) = some name

/-- The names of a grammar resolve from their texts. -/
theorem Covers.name (hc : c.Covers g) {name : N} (h : name ∈ g.rules.map (·.head)) :
    c.lowering.name (toString name) = .ok name := by
  simp only [lowering, rule, hc.names name h]

/-- Expressions with the tags and names of a grammar resolve from their texts. -/
theorem Covers.resolves (hc : c.Covers g) {e : Expr K N}
    (h : e.Over g.UsesTag (· ∈ g.rules.map (·.head))) : c.lowering.Resolves e :=
  h.imp (fun tag htag => by simp only [lowering, Compiler.tag, hc.tags tag htag])
    fun _ => hc.name

variable [DecidableEq K] [DecidableEq N]

/-- The operators made from the text of a grammar are those of its trees, spliced. -/
theorem generate_text (hb : b.Made) (hg : b.build start rules = .ok g) (hprint : g.Printable)
    (hc : c.Covers g) (b' : Builder K N T') :
    Lowering.Agree (c.generate g.text b')
      (Lowering.verbatim.lowerRules (g.trees.map (Prod.map id Expr.spliced)) b') := by
  have hread : GrammarText.read g.text = .ok (g.trees.map GrammarText.rawRule) := by
    rw [Grammar.text_eq hb hg]
    exact GrammarText.read_rulesText (Grammar.trees_ne_nil hg) (hprint.trees hb hg)
  have hresolved : ∀ x ∈ g.trees.map (Prod.map id Expr.spliced),
      c.lowering.name (toString x.1) = .ok x.1 ∧ x.2.Full ∧ c.lowering.Resolves x.2 := by
    refine List.forall_mem_map.2 fun x hx => ?_
    obtain ⟨hhead, hfull, hover⟩ := Grammar.forall_mem_trees hb hg x hx
    exact ⟨hc.name hhead, hfull.spliced, hc.resolves hover.spliced⟩
  have hagree := Lowering.agree_lowerTexts hresolved b'
  rw [List.map_map] at hagree
  rw [generate, hread]
  dsimp only
  rw [List.map_map]
  exact hagree

/-- **The text of a grammar compiles**, in any builder and by any compiler that resolves the tags
and names of the grammar from their texts, if these are identifiers. The grammar that it compiles
to has the same heads in the same order, its bodies are those of the grammar with sequences within
sequences spliced, and it has the same text. -/
theorem compile_text {b' : Builder K N T'} (hb : b.Made) (hg : b.build start rules = .ok g)
    (hprint : g.Printable) (hc : c.Covers g) (hb' : b'.Made) :
    ∃ g', c.compile g.text g.start b' = .ok g' ∧ g'.start = g.start ∧
      g'.rules.map (·.head) = g.rules.map (·.head) ∧
      List.Forall₂ (fun rule rule' => ∃ t, g.arena.unfold? rule.body = some t ∧
        g'.arena.unfold? rule'.body = some t.spliced) g.rules g'.rules ∧
      g'.text = g.text := by
  obtain ⟨hnone, hrules, hgstart, -⟩ := Builder.build_eq_ok hg
  obtain ⟨hnodup, hstart, -⟩ := Arena.ruleError?_eq_none_iff.1 hnone
  rw [← hrules] at hnodup hstart
  rw [← hgstart] at hstart
  obtain ⟨rules', b'', hgenerate, hlower⟩ := generate_text hb hg hprint hc b'
  obtain ⟨hext, hall⟩ := Lowering.lowerRules_holds _ hlower
  -- The spliced trees have the heads of the grammar and call no other rules.
  have hheads : (g.trees.map (Prod.map id Expr.spliced)).map (·.1) = g.rules.map (·.head) := by
    rw [List.map_map, ← Grammar.map_fst_trees]
    rfl
  have hcalls : ∀ x ∈ g.trees.map (Prod.map id Expr.spliced),
      x.2.Over (fun _ => True) (· ∈ g.rules.map (·.head)) := by
    refine List.forall_mem_map.2 fun x hx => ?_
    obtain ⟨-, -, hover⟩ := Grammar.forall_mem_trees hb hg x hx
    exact hover.spliced.imp (fun _ _ => trivial) fun _ h => h
  rw [← hheads] at hnodup hstart hcalls
  obtain ⟨g', hg', hstart', hbodies⟩ :=
    Grammar.exists_build (hext.made hb') hall hnodup hstart hcalls
  -- Rule by rule, what the new bodies unfold to.
  rw [List.forall₂_map_left_iff, Grammar.trees, List.forall₂_map_left_iff] at hbodies
  have htrees : List.Forall₂ (fun rule rule' => rule'.head = rule.head ∧
      ∃ t, g.arena.unfold? rule.body = some t ∧ t.Full ∧
        g'.arena.unfold? rule'.body = some t.spliced) g.rules g'.rules := by
    have htree := fun (rule : Rule N) (hrule : rule ∈ g.rules) =>
      Grammar.exists_tree hb hg hrule
    refine ((List.forall₂_and_left _ _).2 ⟨htree, hbodies⟩).imp ?_
    rintro rule rule' ⟨⟨t, ht, hfull, -⟩, hhead, ht'⟩
    rw [ht] at ht'
    exact ⟨hhead, t, ht, hfull, ht'⟩
  refine ⟨g', ?_, hstart', ?_, htrees.imp ?_, ?_⟩
  · rw [compile, hgenerate]
    dsimp only
    rw [hg']
  · exact (map_eq_map_iff_forall₂.2 (htrees.imp fun _ _ h => h.1.symm)).symm
  · rintro rule rule' ⟨-, t, ht, -, ht'⟩
    exact ⟨t, ht, ht'⟩
  · refine Grammar.text_congr (htrees.imp ?_)
    rintro rule rule' ⟨hhead, t, ht, hfull, ht'⟩
    rw [Arena.render_eq_text ht, Arena.render_eq_text ht', Expr.text_spliced hfull]
    exact ⟨hhead, rfl⟩

section Nested

open GrammarText (Symbol Part)

/-- The compiler that resolves the symbols and parts of grammar text from their names. -/
def ofGrammarText : Compiler Symbol Part where
  tags := Symbol.all.map fun s => (toString s, s)
  rules := Part.all.map fun part => (toString part, part)

/-- Rules with a sequence within a sequence. -/
def nestedRules : List (Part × Expr Symbol Part) :=
  [(.start, .sequence [.terminal .plus,
      .sequence [.optional (.nonTerminal .atom), .zeroOrMore (.terminal .star)]]),
   (.atom, .orderedChoice
      [.sequence [.notPredicate (.terminal .star), .terminal .plus], .emptyString])]

theorem isSome_nested :
    (Grammar.ofExprs ({} : Registry Symbol Part Unit) .start nestedRules).toOption.isSome := by
  decide

/-- The grammar of these rules. -/
def nested : Grammar Symbol Part Unit :=
  (Grammar.ofExprs {} .start nestedRules).toOption.get isSome_nested

/-- The grammar compiles from its text, and the inner sequence is spliced. -/
theorem compile_text_nested :
    nested.text = "Start => [Plus] (Atom)? ([Star])*;\nAtom => (!([Star]) [Plus] | []);" ∧
      nested.Printable ∧ ofGrammarText.Covers nested ∧
      ∃ g' : Grammar Symbol Part Unit,
        ofGrammarText.compile nested.text .start (.new 1 {}) = .ok g' ∧
        g'.rules.map (·.head) = [.start, .atom] ∧
        g'.rules.map ( g'.arena.unfold? ·.body) =
          [some (.sequence
            [.terminal .plus, .optional (.nonTerminal .atom), .zeroOrMore (.terminal .star)]),
          some (.orderedChoice
            [.sequence [.notPredicate (.terminal .star), .terminal .plus], .emptyString])] ∧
        g'.text = nested.text := by
  have hnested : Grammar.ofExprs {} .start nestedRules = .ok nested :=
    eq_ok_of_isSome_toOption isSome_nested
  obtain ⟨b, rules, hb, hg, -⟩ := Grammar.ofExprs_made hnested
  have hprint : nested.Printable :=
    ⟨fun tag _ => by cases tag <;> decide, fun part _ => by cases part <;> decide⟩
  have hcovers : ofGrammarText.Covers nested :=
    ⟨fun tag _ => by cases tag <;> decide, fun part _ => by cases part <;> decide⟩
  obtain ⟨g', hcompile, -, hheads, htrees, htext⟩ :=
    compile_text hb hg hprint hcovers (.new 1 ({} : Registry _ _ Unit))
  refine ⟨by decide, hprint, hcovers, g', hcompile, hheads, ?_, htext⟩
  have hbodies : nested.rules.map (fun rule => ( nested.arena.unfold? rule.body).map Expr.spliced) =
      g'.rules.map ( g'.arena.unfold? ·.body) := by
    refine map_eq_map_iff_forall₂.2 (htrees.imp ?_)
    rintro rule rule' ⟨t, ht, ht'⟩
    rw [ht, ht']
    rfl
  rw [← hbodies]
  rfl

end Nested

end Compiler

end Packrat
