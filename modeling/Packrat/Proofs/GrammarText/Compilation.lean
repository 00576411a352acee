import Packrat.GrammarText.Compiler
import Packrat.Proofs.GrammarText.Soundness
import Packrat.Proofs.Resolution

/-!
# Which grammar text compiles

A compiler takes text through four stages: lexemes, rules with identifiers, rules with operators,
and a grammar. `GrammarText.Reads` says when the first two succeed, and `Compiler.Accepts` when all
do, in terms of the text and the identifiers in it. Each stage has a lemma that says what it makes,
or what it reports: `GrammarText.reads_or_fault`, `Compiler.exists_generate` with
`Compiler.generate_of_unknown`, and `Compiler.Lowered` with the checks of `Builder.build`.

`Compiler.Fault` is what is wrong with a text first. Operators have enough operands whatever the
text is (`GrammarText.Writing.Text.full`), and belong to the builder, so neither is ever reported.
-/

namespace Packrat

namespace GrammarText

/-! ## What is written has enough operands -/

/-- Several unaries stand for a full expression if they are full. -/
theorem full_sequenceOf {es : List RawExpr} (hne : es ≠ []) (h : ∀ e ∈ es, e.Full) :
    (sequenceOf es).Full := by
  match es, hne with
  | [e], _ => exact h e List.mem_cons_self
  | e :: e' :: rest, _ =>
    refine Expr.full_iff.2 ⟨?_, h⟩
    simp [sequenceOf, Expr.operator, Operator.hasEnoughOperands]

/-- Several alternatives stand for a full expression if they are full. -/
theorem full_choiceOf {es : List RawExpr} (hne : es ≠ []) (h : ∀ e ∈ es, e.Full) :
    (choiceOf es).Full := by
  match es, hne with
  | [e], _ => exact h e List.mem_cons_self
  | e :: e' :: rest, _ =>
    refine Expr.full_iff.2 ⟨?_, h⟩
    simp [choiceOf, Expr.operator, Operator.hasEnoughOperands]

/-- An operator with one operand is full if the operand is. -/
theorem full_of_operand {e o : RawExpr} (henough : e.operator.hasEnoughOperands)
    (hoperands : e.operator.operands = [o]) (h : o.Full) : e.Full :=
  Expr.full_iff.2 ⟨henough, hoperands ▸ List.forall_mem_singleton.2 h⟩

namespace Writing

mutual

/-- An atom stands for a full expression. -/
theorem Atom.full : ∀ {ts : List (Token Symbol)} {e : RawExpr}, Atom ts e → e.Full
  | _, _, .terminal _ _ _ => Expr.full_iff.2 ⟨rfl, nofun⟩
  | _, _, .empty _ _ => Expr.full_iff.2 ⟨rfl, nofun⟩
  | _, _, .nonTerminal _ => Expr.full_iff.2 ⟨rfl, nofun⟩
  | _, _, .brackets _ h _ => full_choiceOf h.full.1 h.full.2
  | _, _, .andAhead _ _ h _ => full_of_operand rfl rfl (full_choiceOf h.full.1 h.full.2)
  | _, _, .notAhead _ _ h _ => full_of_operand rfl rfl (full_choiceOf h.full.1 h.full.2)

/-- A unary stands for a full expression. -/
theorem Unary.full : ∀ {ts : List (Token Symbol)} {e : RawExpr}, Unary ts e → e.Full
  | _, _, .atom h => h.full
  | _, _, .optional h _ => full_of_operand rfl rfl h.full
  | _, _, .zeroOrMore h _ => full_of_operand rfl rfl h.full
  | _, _, .oneOrMore h _ => full_of_operand rfl rfl h.full

/-- Unaries stand for one or more full expressions. -/
theorem Unaries.full : ∀ {ts : List (Token Symbol)} {es : List RawExpr}, Unaries ts es →
    es ≠ [] ∧ ∀ e ∈ es, e.Full
  | _, _, .one h => ⟨List.cons_ne_nil _ _, List.forall_mem_singleton.2 h.full⟩
  | _, _, .more h hs => ⟨List.cons_ne_nil _ _, List.forall_mem_cons.2 ⟨h.full, hs.full.2⟩⟩

/-- Alternatives stand for one or more full expressions. -/
theorem Alternatives.full : ∀ {ts : List (Token Symbol)} {es : List RawExpr}, Alternatives ts es →
    es ≠ [] ∧ ∀ e ∈ es, e.Full
  | _, _, .one h =>
    ⟨List.cons_ne_nil _ _, List.forall_mem_singleton.2 (full_sequenceOf h.full.1 h.full.2)⟩
  | _, _, .more h _ hs =>
    ⟨List.cons_ne_nil _ _,
      List.forall_mem_cons.2 ⟨full_sequenceOf h.full.1 h.full.2, hs.full.2⟩⟩

end

/-- The body of a rule is full. -/
theorem Rule.full {ts : List (Token Symbol)} {r : RawRule} (h : Rule ts r) : r.body.Full := by
  cases h with
  | unended _ _ h | ended _ _ h _ => exact full_choiceOf h.full.1 h.full.2

/-- **The bodies of the rules of a text are full.** -/
theorem Text.full {ts : List (Token Symbol)} {rs : List RawRule} (h : Text ts rs) :
    ∀ r ∈ rs, r.body.Full := by
  induction h with
  | one h => exact List.forall_mem_singleton.2 h.full
  | more h _ ih => exact List.forall_mem_cons.2 ⟨h.full, ih⟩

end Writing

/-! ## Reading -/

/-- The tokens of a text that are not white space. -/
def inked (text : String) : Array (Token Symbol) := (tokenizer.tokenize text).without .blank

/-- A text is read as rules: something in it is not white space, it is made of lexemes, and those
that are not white space are a writing of the rules. -/
structure Reads (text : String) (rules : List RawRule) : Prop where
  visible : ∃ x ∈ text.toList, ¬Text.isBlank x
  gapless : (tokenizer.tokenize text).gaps = []
  writing : Writing.Text (inked text).toList rules

/-- What is wrong first with a text that is not read as rules. -/
inductive TextFault (text : String) : TextError → Prop
  | emptyGrammar : (∀ x ∈ text.toList, Text.isBlank x) → TextFault text .emptyGrammar
  /-- The first run of characters that belong to no lexeme. -/
  | unrecognized {gap : Span} {others : List Span} : (∃ x ∈ text.toList, ¬Text.isBlank x) →
      (tokenizer.tokenize text).gaps = gap :: others →
      TextFault text (.unrecognized gap.start (Token.cut text () gap).text)
  /-- The tokens are a writing of no rules; before the position they are one, if there are any. -/
  | malformed {position : Nat} : (∃ x ∈ text.toList, ¬Text.isBlank x) →
      (tokenizer.tokenize text).gaps = [] →
      (¬∃ rules, Writing.Text (inked text).toList rules) → position ≤ (inked text).size →
      ((inked text).toList.take position = [] ∨
        ∃ rules, Writing.Text ((inked text).toList.take position) rules) →
      TextFault text (.malformed position ((inked text)[position]?.map (·.text)))

variable {text : String} {rules rules' : List RawRule}

/-- A text with something in it that is not white space and without gaps is read from its tokens. -/
theorem read_of_gapless (hvisible : ∃ x ∈ text.toList, ¬Text.isBlank x)
    (hgapless : (tokenizer.tokenize text).gaps = []) : read text = readTokens (inked text) := by
  obtain ⟨x, hx, hblank⟩ := hvisible
  have hall : Text.allBlank text = false := List.all_eq_false.2 ⟨x, hx, hblank⟩
  simp only [read, hall, hgapless, inked, Bool.false_eq_true, if_false]

/-- The rules that a text is read as are what reading returns. -/
theorem Reads.read (h : Reads text rules) : read text = .ok rules := by
  rw [read_of_gapless h.visible h.gapless]
  exact h.writing.readTokens

/-- A text is read in one way. -/
theorem Reads.unique (h : Reads text rules) (h' : Reads text rules') : rules = rules' :=
  Except.ok.inj (h.read.symm.trans h'.read)

/-- **A text is read as rules, or what is wrong with it first is reported.** -/
theorem reads_or_fault (text : String) :
    (∃ rules, Reads text rules) ∨ ∃ e, read text = .error e ∧ TextFault text e := by
  by_cases hvisible : ∃ x ∈ text.toList, ¬Text.isBlank x
  · cases hgaps : (tokenizer.tokenize text).gaps with
    | cons gap others =>
      refine .inr ⟨_, ?_, .unrecognized hvisible hgaps⟩
      obtain ⟨x, hx, hblank⟩ := hvisible
      have hall : Text.allBlank text = false := List.all_eq_false.2 ⟨x, hx, hblank⟩
      simp only [read, hall, hgaps, Bool.false_eq_true, if_false]
    | nil =>
      have hread := read_of_gapless hvisible hgaps
      by_cases hwriting : ∃ rules, Writing.Text (inked text).toList rules
      · obtain ⟨rules, hwriting⟩ := hwriting
        exact .inl ⟨rules, hvisible, hgaps, hwriting⟩
      · obtain ⟨position, hle, herror, hbefore⟩ :=
          (exists_text_or_malformed (inked text)).resolve_left hwriting
        exact .inr ⟨_, hread.trans herror, .malformed hvisible hgaps hwriting hle hbefore⟩
  · have hblank : ∀ x ∈ text.toList, Text.isBlank x := by simpa using hvisible
    refine .inr ⟨.emptyGrammar, ?_, .emptyGrammar hblank⟩
    have hall : Text.allBlank text = true := List.all_eq_true.2 hblank
    simp only [GrammarText.read, hall, if_true]

/-- A text with which something is wrong is not read as rules. -/
theorem TextFault.not_reads {e : TextError} (h : TextFault text e) : ¬Reads text rules := by
  intro hreads
  cases h with
  | emptyGrammar hblank =>
    obtain ⟨x, hx, hnot⟩ := hreads.visible
    exact hnot (hblank x hx)
  | unrecognized _ hgaps => cases hgaps.symm.trans hreads.gapless
  | malformed _ _ hnone => exact hnone ⟨rules, hreads.writing⟩

/-- The identifiers of a rule, in the order in which they are written. -/
def RawRule.mentions (rule : RawRule) : List (String ⊕ String) :=
  Lowering.ruleMentions (rule.head, rule.body)

end GrammarText

/-! ## Compiling -/

namespace Compiler

open GrammarText (Reads RawRule TextFault)

variable {K N T : Type} {c : Compiler K N} {text : String} {start : N} {rules : List RawRule}

/-- The compiler has a tag or rule name for an identifier. -/
def Knows (c : Compiler K N) : String ⊕ String → Prop
  | .inl tag => (c.tags.lookup tag).isSome
  | .inr name => (c.rules.lookup name).isSome

/-- What is reported of an identifier that the compiler does not know. -/
def unknown : String ⊕ String → CompileError K N
  | .inl tag => .unknownTag tag
  | .inr name => .unknownRule name

/-- What the heads of rules stand for. -/
def heads (c : Compiler K N) (rules : List RawRule) : List (Option N) :=
  rules.map fun rule => c.rules.lookup rule.head

/-- A text compiles: it is read as rules whose identifiers are all known, whose heads stand for
different rule names with the start symbol among them, and whose calls stand for heads. -/
structure Accepts (c : Compiler K N) (text : String) (start : N) (rules : List RawRule) :
    Prop where
  reads : Reads text rules
  known : ∀ m ∈ rules.flatMap RawRule.mentions, c.Knows m
  distinct : (c.heads rules).Nodup
  start : some start ∈ c.heads rules
  closed : ∀ rule ∈ rules, ∀ name ∈ rule.body.calls, c.rules.lookup name ∈ c.heads rules

/-- **What is wrong first with a text that does not compile.** -/
inductive Fault (c : Compiler K N) (text : String) (start : N) : CompileError K N → Prop
  | text {e : GrammarText.TextError} : TextFault text e → Fault c text start (.text e)
  /-- The first identifier that is not known, within brackets. -/
  | unknownTag {rules : List RawRule} {before after : List (String ⊕ String)} {tag : String} :
      Reads text rules → rules.flatMap RawRule.mentions = before ++ .inl tag :: after →
      (∀ x ∈ before, c.Knows x) → ¬c.Knows (.inl tag) → Fault c text start (.unknownTag tag)
  /-- The first identifier that is not known, elsewhere. -/
  | unknownRule {rules : List RawRule} {before after : List (String ⊕ String)} {name : String} :
      Reads text rules → rules.flatMap RawRule.mentions = before ++ .inr name :: after →
      (∀ x ∈ before, c.Knows x) → ¬c.Knows (.inr name) → Fault c text start (.unknownRule name)
  /-- The first rule whose head stands for what an earlier one stands for. -/
  | duplicateRule {rules before after : List RawRule} {rule : RawRule} {head : N} :
      Reads text rules → (∀ m ∈ rules.flatMap RawRule.mentions, c.Knows m) →
      rules = before ++ rule :: after → (c.heads before).Nodup →
      c.rules.lookup rule.head = some head → some head ∈ c.heads before →
      Fault c text start (.grammar (.duplicateRule head))
  | missingStartRule {rules : List RawRule} :
      Reads text rules → (∀ m ∈ rules.flatMap RawRule.mentions, c.Knows m) →
      (c.heads rules).Nodup → some start ∉ c.heads rules →
      Fault c text start (.grammar (.missingStartRule start))
  /-- The first rule that calls what is no head, and the first such call in it. -/
  | undefinedRule {rules before after : List RawRule} {rule : RawRule} {calls others : List String}
      {name : String} {head called : N} :
      Reads text rules → (∀ m ∈ rules.flatMap RawRule.mentions, c.Knows m) →
      (c.heads rules).Nodup → some start ∈ c.heads rules → rules = before ++ rule :: after →
      (∀ r ∈ before, ∀ x ∈ r.body.calls, c.rules.lookup x ∈ c.heads rules) →
      rule.body.calls = calls ++ name :: others →
      (∀ x ∈ calls, c.rules.lookup x ∈ c.heads rules) → some called ∉ c.heads rules →
      c.rules.lookup rule.head = some head → c.rules.lookup name = some called →
      Fault c text start (.grammar (.undefinedRule head called))

/-- A text with which something is wrong does not compile. -/
theorem Fault.not_accepts {e : CompileError K N} (h : c.Fault text start e) :
    ¬c.Accepts text start rules := by
  intro haccepts
  cases h with
  | text hfault => exact hfault.not_reads haccepts.reads
  | unknownTag hreads hmentions _ hunknown | unknownRule hreads hmentions _ hunknown =>
    cases hreads.unique haccepts.reads
    exact hunknown (haccepts.known _ (hmentions ▸ List.mem_append_right _ List.mem_cons_self))
  | duplicateRule hreads _ hrules _ hhead hmem =>
    cases hreads.unique haccepts.reads
    have hdistinct := haccepts.distinct
    rw [hrules, heads, List.map_append, List.map_cons, hhead, List.nodup_append] at hdistinct
    exact hdistinct.2.2 _ hmem _ List.mem_cons_self rfl
  | missingStartRule hreads _ _ hstart =>
    cases hreads.unique haccepts.reads
    exact hstart haccepts.start
  | @undefinedRule _ before after rule calls others name _ _ hreads _ _ _ hrules _ hcalls _
      hundefined _ hcalled =>
    cases hreads.unique haccepts.reads
    have hrule : rule ∈ rules := hrules ▸ List.mem_append_right _ List.mem_cons_self
    have hname : name ∈ rule.body.calls := hcalls ▸ List.mem_append_right _ List.mem_cons_self
    exact hundefined (hcalled ▸ haccepts.closed rule hrule name hname)

/-- An identifier is refused if it is not known. -/
theorem refusal?_eq_none {m : String ⊕ String} : c.lowering.refusal? m = none ↔ c.Knows m := by
  cases m with
  | inl tag =>
    simp only [Lowering.refusal?_inl_eq_none, lowering, Compiler.tag, Knows]
    cases c.tags.lookup tag <;> simp
  | inr name =>
    simp only [Lowering.refusal?_inr_eq_none, lowering, Compiler.rule, Knows]
    cases c.rules.lookup name <;> simp

theorem refusal?_of_not_knows {m : String ⊕ String} (h : ¬c.Knows m) :
    c.lowering.refusal? m = some (unknown m) := by
  cases m with
  | inl tag =>
    have hnone : c.tags.lookup tag = none := Option.not_isSome_iff_eq_none.1 h
    simp only [Lowering.refusal?_inl_eq_some, lowering, Compiler.tag, hnone, unknown]
  | inr name =>
    have hnone : c.rules.lookup name = none := Option.not_isSome_iff_eq_none.1 h
    simp only [Lowering.refusal?_inr_eq_some, lowering, Compiler.rule, hnone, unknown]

/-- What a name resolves to is what it stands for. -/
theorem name_eq_ok {name : String} {n : N} :
    c.lowering.name name = .ok n ↔ c.rules.lookup name = some n := by
  simp only [lowering, Compiler.rule]
  cases c.rules.lookup name <;> simp

/-- A rule of an arena is what a rule of a text stands for: its head stands for the head, and
the names that it calls for those that are called from the body. -/
structure Lowered (c : Compiler K N) (a : Arena K N T) (raw : RawRule) (rule : Rule N) : Prop where
  head : c.rules.lookup raw.head = some rule.head
  owned : a.OwnsBeneath rule.body
  calls : raw.body.calls.map (fun name => c.rules.lookup name) = (a.calls rule.body).map some

/-- The heads of the rules that are made are what the heads of the text stand for. -/
theorem heads_eq {a : Arena K N T} {made : List (Rule N)}
    (h : List.Forall₂ (c.Lowered a) rules made) :
    c.heads rules = (made.map (·.head)).map some := by
  rw [List.map_map]
  exact map_eq_map_iff_forall₂.2 (h.imp fun _ _ hrule => hrule.head)

/-- A rule calls heads if the names that are called from its body are. -/
theorem Lowered.calls_iff {a : Arena K N T} {raw : RawRule} {rule : Rule N} {heads : List N}
    (h : c.Lowered a raw rule) :
    (∀ x ∈ raw.body.calls, c.rules.lookup x ∈ heads.map some) ↔
      ∀ name ∈ a.calls rule.body, name ∈ heads := by
  have hcalls : (∀ called ∈ raw.body.calls.map (fun name => c.rules.lookup name),
      called ∈ heads.map some) ↔
      ∀ called ∈ (a.calls rule.body).map some, called ∈ heads.map some := by
    rw [h.calls]
  simpa using hcalls

/-- **What is wrong first with the rules that are made is wrong first with the text.** -/
theorem Fault.of_lowered {a : Arena K N T} {made : List (Rule N)} {e : GrammarError K N}
    (hreads : Reads text rules) (hknown : ∀ m ∈ rules.flatMap RawRule.mentions, c.Knows m)
    (hmade : List.Forall₂ (c.Lowered a) rules made) (h : a.Fault start made e) :
    c.Fault text start (.grammar e) := by
  have hheads := heads_eq hmade
  have hnodup : (made.map (·.head)).Nodup → (c.heads rules).Nodup := fun hnodup =>
    hheads ▸ hnodup.map (Option.some_injective N)
  cases h with
  | duplicateRule hrules hbefore hmem =>
    obtain ⟨before, raw, after, hraw, hprefix, hrule⟩ := exists_append_of_forall₂ (hrules ▸ hmade)
    refine .duplicateRule hreads hknown hraw ?_ hrule.head ?_
    · exact heads_eq hprefix ▸ hbefore.map (Option.some_injective N)
    · exact heads_eq hprefix ▸ List.mem_map_of_mem hmem
  | missingStartRule hdistinct hmissing =>
    refine .missingStartRule hreads hknown (hnodup hdistinct) ?_
    rw [hheads]
    simpa using hmissing
  | foreignOperator _ _ hrules _ hforeign =>
    obtain ⟨_, _, _, -, -, hrule⟩ := exists_append_of_forall₂ (hrules ▸ hmade)
    exact absurd hrule.owned hforeign
  | @undefinedRule before after rule calls others name hdistinct hstart _ hrules hbefore hcalls
      hdefined hundefined =>
    obtain ⟨before, raw, after, hraw, hprefix, hrule⟩ := exists_append_of_forall₂ (hrules ▸ hmade)
    -- The calls of the rule, as the text has them.
    have hsplit := hrule.calls
    rw [hcalls, List.map_append, List.map_cons] at hsplit
    obtain ⟨calls', rest, hcalls', hprefix', hrest⟩ := List.map_eq_append_iff.1 hsplit
    obtain ⟨name', others', rfl, hname, -⟩ := List.map_eq_cons_iff.1 hrest
    refine .undefinedRule hreads hknown (hnodup hdistinct) ?_ hraw ?_ hcalls' ?_ ?_ hrule.head hname
    · exact hheads ▸ List.mem_map_of_mem hstart
    · intro r hr
      obtain ⟨r', hr', hlowered⟩ := exists_of_forall₂_mem hprefix.flip hr
      rw [hheads]
      exact hlowered.calls_iff.2 (hbefore r' hr')
    · intro x hx
      have hmem : c.rules.lookup x ∈ calls.map some := hprefix' ▸ List.mem_map_of_mem hx
      obtain ⟨called, hcalled, hlookup⟩ := List.mem_map.1 hmem
      rw [hheads, ← hlookup]
      exact List.mem_map_of_mem (hdefined called hcalled)
    · rw [hheads]
      simpa using hundefined

variable [DecidableEq K] [DecidableEq N] {b : Builder K N T}

/-- **The rules of a text whose identifiers are known are made.** -/
theorem exists_generate (hreads : Reads text rules)
    (hknown : ∀ m ∈ rules.flatMap RawRule.mentions, c.Knows m) (hb : b.Made) :
    ∃ made b', c.generate text b = (.ok made, b') ∧ b'.Made ∧
      List.Forall₂ (c.Lowered b'.arena) rules made := by
  have hfull : ∀ r ∈ rules.map (fun r => (r.head, r.body)), r.2.Full :=
    List.forall_mem_map.2 hreads.writing.full
  have hnone : ∀ m ∈ (rules.map fun r => (r.head, r.body)).flatMap Lowering.ruleMentions,
      c.lowering.refusal? m = none := by
    rw [List.flatMap_map]
    exact fun m hm => refusal?_eq_none.2 (hknown m hm)
  obtain ⟨resolved, hresolved⟩ := Lowering.exists_rules hnone
  obtain ⟨made, b', hlower, hverbatim⟩ := Lowering.agree_lowerRules hresolved hfull b
  obtain ⟨hext, hholds⟩ := Lowering.lowerRules_holds resolved hverbatim
  refine ⟨made, b', ?_, hext.made hb, ?_⟩
  · simp only [generate, hreads.read, hlower]
  · rw [List.forall₂_map_left_iff] at hresolved
    refine forall₂_comp ?_ hresolved hholds
    rintro raw ⟨_, body⟩ rule ⟨hhead, hbody⟩ ⟨rfl, hheld⟩
    have hunfold := hheld.unfolds (hext.made hb)
    refine ⟨name_eq_ok.1 hhead, Arena.ownsBeneath_of_unfold hunfold, ?_⟩
    have hcalls : raw.body.calls.map c.lowering.name = body.calls.map .ok := hbody.calls
    rw [Arena.calls_of_unfold hunfold]
    refine map_eq_map_iff_forall₂.2 ((map_eq_map_iff_forall₂.1 hcalls).imp fun _ _ h => ?_)
    exact name_eq_ok.1 h

/-- **The first unknown identifier is reported.** -/
theorem generate_of_unknown {before after : List (String ⊕ String)} {m : String ⊕ String}
    (hreads : Reads text rules)
    (hmentions : rules.flatMap RawRule.mentions = before ++ m :: after)
    (hbefore : ∀ x ∈ before, c.Knows x) (hm : ¬c.Knows m) (b : Builder K N T) :
    (c.generate text b).1 = .error (unknown m) := by
  have hfull : ∀ r ∈ rules.map (fun r => (r.head, r.body)), r.2.Full :=
    List.forall_mem_map.2 hreads.writing.full
  have hfirst : ((rules.map fun r => (r.head, r.body)).flatMap Lowering.ruleMentions).findSome?
      c.lowering.refusal? = some (unknown m) := by
    rw [List.flatMap_map]
    refine List.findSome?_eq_some_iff.2 ⟨before, m, after, hmentions, ?_, ?_⟩
    · exact refusal?_of_not_knows hm
    · exact fun x hx => refusal?_eq_none.2 (hbefore x hx)
  simp only [generate, hreads.read]
  exact Lowering.lowerRules_of_refused hfull hfirst b

/-- **A text that is accepted compiles.** -/
theorem Accepts.exists_compile (h : c.Accepts text start rules) (hb : b.Made) :
    ∃ g, c.compile text start b = .ok g := by
  obtain ⟨made, b', hgenerate, hb', hmade⟩ := exists_generate h.reads h.known hb
  have hbuilds : b'.arena.ruleError? start made = none := by
    by_contra hne
    obtain ⟨e, he⟩ := Option.ne_none_iff_exists'.1 hne
    have hfault := (Arena.ruleError?_eq_some_iff hb'.ordered).1 he
    exact (Fault.of_lowered h.reads h.known hmade hfault).not_accepts h
  obtain ⟨g, hg⟩ := Builder.exists_build_iff.2 hbuilds
  exact ⟨g, by simp only [compile, hgenerate, hg]⟩

omit [DecidableEq K] in
/-- Rules that make a grammar are accepted. -/
theorem accepts_of_lowered {a : Arena K N T} {made : List (Rule N)} (ha : a.Ordered)
    (hreads : Reads text rules) (hknown : ∀ m ∈ rules.flatMap RawRule.mentions, c.Knows m)
    (hmade : List.Forall₂ (c.Lowered a) rules made) (h : a.ruleError? start made = none) :
    c.Accepts text start rules := by
  obtain ⟨hnodup, hstart, -, hcalls⟩ := (Arena.ruleError?_eq_none_iff_calls ha).1 h
  have hheads := heads_eq hmade
  refine ⟨hreads, hknown, ?_, ?_, fun raw hraw => ?_⟩
  · exact hheads ▸ hnodup.map (Option.some_injective N)
  · exact hheads ▸ List.mem_map_of_mem hstart
  · obtain ⟨rule, hrule, hlowered⟩ := exists_of_forall₂_mem hmade.flip hraw
    rw [hheads]
    exact hlowered.calls_iff.2 (hcalls rule hrule)

/-- **A text is accepted, or what is wrong with it first is reported.** -/
theorem accepts_or_fault (c : Compiler K N) (text : String) (start : N) (hb : b.Made) :
    (∃ rules, c.Accepts text start rules) ∨
      ∃ e, c.compile text start b = .error e ∧ c.Fault text start e := by
  rcases GrammarText.reads_or_fault text with ⟨rules, hreads⟩ | ⟨e, he, hfault⟩
  swap
  · exact .inr ⟨.text e, by simp only [compile, generate, he], .text hfault⟩
  cases hfirst : (rules.flatMap RawRule.mentions).findSome? c.lowering.refusal? with
  | none =>
    have hknown : ∀ m ∈ rules.flatMap RawRule.mentions, c.Knows m := fun m hm =>
      refusal?_eq_none.1 (List.findSome?_eq_none_iff.1 hfirst m hm)
    obtain ⟨made, b', hgenerate, hb', hmade⟩ := exists_generate hreads hknown hb
    cases herror : b'.arena.ruleError? start made with
    | none => exact .inl ⟨rules, accepts_of_lowered hb'.ordered hreads hknown hmade herror⟩
    | some e =>
      have hfault := (Arena.ruleError?_eq_some_iff hb'.ordered).1 herror
      refine .inr ⟨.grammar e, ?_, .of_lowered hreads hknown hmade hfault⟩
      simp only [compile, hgenerate, Builder.build_eq_error_iff.2 herror]
  | some e =>
    obtain ⟨before, m, after, hmentions, hm, hbefore⟩ := List.findSome?_eq_some_iff.1 hfirst
    have hbefore : ∀ x ∈ before, c.Knows x := fun x hx => refusal?_eq_none.1 (hbefore x hx)
    have hunknown : ¬c.Knows m := fun h => by simp [refusal?_eq_none.2 h] at hm
    obtain ⟨b', hgenerate⟩ := Lowering.exists_eq_error
      (generate_of_unknown hreads hmentions hbefore hunknown b)
    refine .inr ⟨unknown m, by simp only [compile, hgenerate], ?_⟩
    cases m with
    | inl tag => exact .unknownTag hreads hmentions hbefore hunknown
    | inr name => exact .unknownRule hreads hmentions hbefore hunknown

/-- **Compiling succeeds just for the texts that are accepted**: there is something in the text that
is not white space, it is made of lexemes, these are rules as they are written, all identifiers are
known, heads are distinct, the start symbol is one of them, and the names that are called are. For
any other text, what is wrong with it first is reported; it is never an operator of another
builder, nor one with too few operands. -/
theorem compile_validates (hb : b.Made) (c : Compiler K N) (text : String) (start : N) :
    ((∃ g, c.compile text start b = .ok g) ↔ ∃ rules, c.Accepts text start rules) ∧
    (∀ e, c.compile text start b = .error e → c.Fault text start e) ∧
    (∀ head, c.compile text start b ≠ .error (.grammar (.foreignOperator head))) ∧
    ∀ kind count, c.compile text start b ≠ .error (.grammar (.tooFewOperands kind count)) := by
  have hfault : ∀ e, c.compile text start b = .error e → c.Fault text start e := by
    intro e he
    rcases accepts_or_fault c text start hb with ⟨rules, haccepts⟩ | ⟨e', he', hfault⟩
    · obtain ⟨g, hg⟩ := haccepts.exists_compile hb
      cases hg.symm.trans he
    · cases he'.symm.trans he
      exact hfault
  refine ⟨⟨?_, ?_⟩, hfault, fun head he => ?_, fun kind count he => ?_⟩
  · rintro ⟨g, hg⟩
    rcases accepts_or_fault c text start hb with haccepts | ⟨e, he, -⟩
    · exact haccepts
    · cases hg.symm.trans he
  · rintro ⟨rules, haccepts⟩
    exact haccepts.exists_compile hb
  · cases hfault _ he
  · cases hfault _ he

/-- A compiler with two identifiers for one rule name. -/
def doubled : Compiler Char Char := ⟨[("x", 'x')], [("A", 'A'), ("B", 'B'), ("C", 'A')]⟩

/-- A call of `C` is a call of `A`, and rules for `A` and `C` are rules for the same name. -/
theorem compile_validates_doubled :
    (∃ rules, doubled.Accepts "A=>B B=>C" 'A' rules) ∧
    doubled.Fault "A=>[x]C=>B" 'A' (.grammar (.duplicateRule 'A')) := by
  have hmade : (Builder.new 0 {} : Builder Char Char Unit).Made := .new 0 {}
  have haccepted : (doubled.compile "A=>B B=>C" 'A'
      (.new 0 {} : Builder Char Char Unit)).toOption.isSome := by decide +kernel
  have hduplicate : (match doubled.compile "A=>[x]C=>B" 'A'
      (.new 0 {} : Builder Char Char Unit) with
    | .error (.grammar (.duplicateRule head)) => some head
    | _ => none) = some 'A' := by decide +kernel
  constructor
  · exact (compile_validates hmade _ _ _).1.1 ⟨_, eq_ok_of_isSome_toOption haccepted⟩
  · split at hduplicate
    · next h =>
      cases hduplicate
      exact (compile_validates hmade _ _ _).2.1 _ h
    · cases hduplicate

end Compiler

end Packrat
