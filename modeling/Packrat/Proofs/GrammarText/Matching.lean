import Packrat.GrammarText.Grammar
import Packrat.Proofs.Lowering

/-!
# Matching with the grammar of grammar text

The rules of the grammar as trees are the bodies of the parts (`Part.body`): whatever operators the
grammar shares, this is what it unfolds to (`tree?_grammar`).

The rest says how these trees match lists of lexemes, without positions and ids. `Takes` says that
an expression matches a list of lexemes before another one, and which expressions and rules are in
its value; `Fails` that it does not match. Every operator has a lemma for each way it can end that
the parts make use of; all of them are consequences of the plain relation.
-/

namespace Packrat.GrammarText

/-! ## The rules as trees -/

namespace Part

/-- A call of a part. -/
def call (part : Part) : Expr Symbol Part := .nonTerminal part

/-- An alternative of a choice. -/
def alternative : Expr Symbol Part := .orderedChoice [call .sequence, call .unary]

/-- An operator between parentheses, after the given symbols. -/
def inRound (before : List (Expr Symbol Part)) : Expr Symbol Part :=
  .sequence (before ++ [.terminal .openRound, call .operator, .terminal .closeRound])

/-- The body of the rule of a part. -/
def body : Part → Expr Symbol Part
  | .start => .oneOrMore (call .rule)
  | .rule =>
    .sequence [.terminal .identifier, .terminal .arrow, call .operator,
      .optional (.terminal .semicolon)]
  | .operator => .orderedChoice [call .choice, call .sequence, call .unary]
  | .choice =>
    .sequence [alternative, .oneOrMore (.sequence [.terminal .bar, alternative])]
  | .sequence => .sequence [call .unary, .oneOrMore (call .unary)]
  | .unary =>
    .orderedChoice [call .optional, call .zeroOrMore, call .oneOrMore, call .atom]
  | .optional => .sequence [call .atom, .terminal .question]
  | .zeroOrMore => .sequence [call .atom, .terminal .star]
  | .oneOrMore => .sequence [call .atom, .terminal .plus]
  | .atom =>
    .orderedChoice [call .terminal, call .empty, call .nonTerminal, call .brackets,
      call .andAhead, call .notAhead]
  | .terminal =>
    .sequence [.terminal .openSquare, .terminal .identifier, .terminal .closeSquare]
  | .empty => .sequence [.terminal .openSquare, .terminal .closeSquare]
  | .nonTerminal => .sequence [.terminal .identifier, .notPredicate (.terminal .arrow)]
  | .brackets => inRound []
  | .andAhead => inRound [.terminal .ampersand]
  | .notAhead => inRound [.terminal .bang]

end Part

/-- **The grammar has these rules.** -/
theorem tree?_grammar (part : Part) : grammar.tree? part = some part.body := by
  -- All at once, so that the grammar is built once.
  have hall : Part.all.map grammar.tree? = Part.all.map fun part => some part.body := rfl
  exact List.map_inj_left.1 hall part (by cases part <;> decide)

/-! ## The grammar as a builder -/

/-- The grammar is built from its operators, each with the action of the registry. -/
theorem exists_build : ∃ (b : Builder Symbol Part Reading) (rules : List (Rule Part)),
    (Builder.new 0 registry).Extends b ∧ b.build .start rules = .ok grammar := by
  have hbuilt : built = .ok grammar := eq_ok_of_isSome_toOption isSome_built
  unfold built at hbuilt
  split at hbuilt
  · cases hbuilt
  · next b hadd => exact ⟨b, _, Builder.extends_addAll (by decide) hadd, hbuilt⟩

/-- The builder of the grammar, with its start node. -/
def holder : Builder Symbol Part Reading := ⟨grammar.arena, registry⟩

/-- Every operator of the grammar has the action of the registry. -/
theorem uniform_holder : holder.Uniform := by
  obtain ⟨b, rules, hext, hbuild⟩ := exists_build
  have huniform := (Grammar.extends_build hbuild).1.uniform
    (hext.uniform (Builder.uniform_new 0 registry))
  rwa [show b.registry = registry from hext.registry] at huniform

/-- The start node calls the first part. -/
theorem holds_startNode : holder.Holds (Part.call .start) grammar.startNode := by
  obtain ⟨b, rules, hext, hbuild⟩ := exists_build
  have hholds := (Grammar.extends_build hbuild).2
  rwa [show b.registry = registry from hext.registry] at hholds

/-- Every part has a rule with its body. -/
theorem body?_part (part : Part) :
    ∃ id, grammar.body? part = some id ∧ holder.Holds part.body id := by
  obtain ⟨id, hid, hbody⟩ := Option.bind_eq_some_iff.1 (tree?_grammar part)
  exact ⟨id, hid, Builder.holds_of_unfolding uniform_holder hbody⟩

/-- Reading a part depends on the matched tokens and the values in it only. -/
theorem Part.read_congr (part : Part) {m m' : Match Symbol} (h : m.tokens = m'.tokens)
    (values : List Reading) : part.read m values = part.read m' values := by
  cases part <;> simp only [Part.read, firstIdentifier?, Match.firstText, h]

/-- All actions are pure. -/
theorem pure_registry : registry.Pure where
  defaults := nofun
  tags := nofun
  names := by
    intro x hx
    obtain ⟨part, -, rfl⟩ := List.mem_map.1 hx
    refine ⟨fun tokens _ _ values => part.read ⟨tokens.toArray, ⟨0, tokens.length⟩, none⟩ values,
      fun m values text => part.read_congr ?_ values⟩
    simp [Match.tokens, Span.stop]
  passthrough := by
    intro action haction kind
    cases haction
    exact Action.pure_passthrough _ _

/-- All actions of the grammar are pure. -/
theorem pureActions_grammar : grammar.PureActions :=
  Grammar.pureActions_of_uniform pure_registry uniform_holder

section Node

variable {id : NodeId} {operator : Operator Symbol Part NodeId} {input : Array (Token Symbol)}
  {span : Span} {values : List Reading}

/-- The operator of a node. -/
theorem get?_of_node? (h : holder.arena.node? id = some (holder.nodeOf operator)) :
    grammar.arena.get? id = some operator :=
  (Arena.node?_eq_some_iff.1 h).1

/-- The action of a node. -/
theorem action?_of_node? (h : holder.arena.node? id = some (holder.nodeOf operator)) :
    grammar.arena.action? id =
      if operator.kind.isPredicate then none else registry.forOperator operator :=
  (Arena.node?_eq_some_iff.1 h).2

/-- An operator inside a rule passes on what is in the values of its operands. -/
theorem leaves_valueOf (h : holder.arena.node? id = some (holder.nodeOf operator))
    (hcall : operator.callee? = none) (hlook : operator.kind.isPredicate = false) :
    (grammar.valueOf input id span values .consuming).leaves = Reading.leavesAll values := by
  have haction : grammar.arena.action? id = some (Action.passthrough .node operator.kind) := by
    rw [action?_of_node? h, hlook]
    cases operator with
    | nonTerminal name => cases hcall
    | andPredicate operand | notPredicate operand => cases hlook
    | _ => rfl
  unfold Grammar.valueOf
  rw [haction]
  rfl

/-- A call reads its part. -/
theorem valueOf_call {part : Part}
    (h : holder.arena.node? id = some (holder.nodeOf (.nonTerminal part)))
    (input : Array (Token Symbol)) (span : Span) (values : List Reading) :
    grammar.valueOf input id span values .consuming = part.read ⟨input, span, none⟩ values ∧
      (grammar.arena.action? id).isSome := by
  have haction : grammar.arena.action? id = some part.action := by
    rw [action?_of_node? h]
    cases part <;> rfl
  unfold Grammar.valueOf
  rw [haction]
  exact ⟨rfl, rfl⟩

end Node

/-! ## Lists of lexemes -/

/-- The lexemes from a position on. -/
structure At (input : Array (Token Symbol)) (p : Nat) (ts : List (Token Symbol)) : Prop where
  le : p ≤ input.size
  drop : input.toList.drop p = ts

namespace At

variable {input : Array (Token Symbol)} {p : Nat} {ts used rest : List (Token Symbol)}

/-- The lexemes after some lexemes. -/
theorem advance (h : At input p (used ++ rest)) : At input (p + used.length) rest := by
  have hlength := congrArg List.length h.drop
  rw [List.length_drop, List.length_append, Array.length_toList] at hlength
  have hle := h.le
  refine ⟨by omega, ?_⟩
  rw [← List.drop_drop, h.drop, List.drop_left]

/-- The lexeme at the position. -/
theorem getElem? (h : At input p ts) : input[p]? = ts.head? := by
  rw [← h.drop, List.head?_drop, Array.getElem?_toList]

/-- The end of the input is where no lexemes are left. -/
theorem size_eq (h : At input p ts) : input.size = p + ts.length := by
  have hlength := congrArg List.length h.drop
  rw [List.length_drop, Array.length_toList] at hlength
  have hle := h.le
  omega

/-- A match of the next lexemes. -/
theorem tokens (h : At input p (used ++ rest)) (label : Option String) :
    Match.tokens ⟨input, ⟨p, used.length⟩, label⟩ = used := by
  have hinside : p + used.length ≤ input.size := h.advance.le
  rw [Match.tokens, Span.stop, if_pos hinside, Array.toList_extract, List.extract_eq_take_drop]
  dsimp only
  rw [h.drop, Nat.add_sub_cancel_left, List.take_left]

end At

/-- The expression matches `used` before `rest`, with these expressions and rules in its value. -/
def Takes (e : Expr Symbol Part) (used rest : List (Token Symbol)) (leaves : List Reading) : Prop :=
  ∀ ⦃input p⦄, At input p (used ++ rest) → ∀ ⦃id⦄, holder.Holds e id → ∃ value,
    grammar.Parses input id p .consuming (.matched (p + used.length) ⟨p, used.length⟩ value) ∧
      value.leaves = leaves

/-- The expression does not match. -/
def Fails (e : Expr Symbol Part) (ts : List (Token Symbol)) : Prop :=
  ∀ ⦃input p⦄, At input p ts → ∀ ⦃id⦄, holder.Holds e id →
    ∃ q, grammar.Parses input id p .consuming (.failed q)

/-! ## Operators -/

section Operators

variable {e : Expr Symbol Part} {items : List (Expr Symbol Part)} {tag : Symbol} {t : Token Symbol}
  {ts used used' rest : List (Token Symbol)} {leaves leaves' : List Reading}

/-- A terminal takes a lexeme with its tag. -/
theorem takes_terminal (h : t.tag = tag) (rest : List (Token Symbol)) :
    Takes (.terminal tag) [t] rest [] := by
  intro input p hat id hid
  have htoken : input[p]? = some t := hat.getElem?
  exact ⟨_, .terminal (get?_of_node? hid) htoken h, leaves_valueOf hid rfl rfl⟩

/-- A terminal fails at another lexeme, and where there is none. -/
theorem fails_terminal (h : ∀ t ∈ ts.head?, t.tag ≠ tag) : Fails (.terminal tag) ts := by
  intro input p hat id hid
  refine ⟨p, .terminalFails (get?_of_node? hid) fun t ht => h t ?_⟩
  rw [← hat.getElem?, ht]
  rfl

/-- A lexeme is not looked ahead to. -/
theorem takes_notPredicate (h : ∀ t ∈ ts.head?, t.tag ≠ tag) :
    Takes (.notPredicate (.terminal tag)) [] ts [] := by
  intro input p hat id ⟨o, hid, ho⟩
  rw [List.nil_append] at hat
  refine ⟨_, .notPredicate (get?_of_node? hid) (.terminalFails (get?_of_node? ho) fun t ht => ?_),
    rfl⟩
  apply h t
  rw [← hat.getElem?, ht]
  rfl

/-- A lexeme is looked ahead to. -/
theorem fails_notPredicate (h : t.tag = tag) :
    Fails (.notPredicate (.terminal tag)) (t :: ts) := by
  intro input p hat id ⟨o, hid, ho⟩
  have htoken : input[p]? = some t := hat.getElem?
  exact ⟨p, .notPredicateFails (get?_of_node? hid) (.terminal (get?_of_node? ho) htoken h)⟩

/-- The expressions match one after the other. -/
inductive TakesAll : List (Expr Symbol Part) → List (Token Symbol) → List (Token Symbol) →
    List Reading → Prop
  | nil {rest : List (Token Symbol)} : TakesAll [] [] rest []
  | cons {e : Expr Symbol Part} {items : List (Expr Symbol Part)}
      {used used' rest : List (Token Symbol)} {leaves leaves' : List Reading} :
      Takes e used (used' ++ rest) leaves → TakesAll items used' rest leaves' →
      TakesAll (e :: items) (used ++ used') rest (leaves ++ leaves')

/-- The expressions match one after the other, until one fails. -/
inductive FailsAmong : List (Expr Symbol Part) → List (Token Symbol) → Prop
  | here {e : Expr Symbol Part} {items : List (Expr Symbol Part)} {ts : List (Token Symbol)} :
      Fails e ts → FailsAmong (e :: items) ts
  | later {e : Expr Symbol Part} {items : List (Expr Symbol Part)} {used rest : List (Token Symbol)}
      {leaves : List Reading} : Takes e used rest leaves → FailsAmong items rest →
      FailsAmong (e :: items) (used ++ rest)

/-- The operands of a sequence that match. -/
theorem TakesAll.inOrder (h : TakesAll items used rest leaves) :
    ∀ {input p}, At input p (used ++ rest) → ∀ {ids}, holder.HoldsAll items ids → ∃ values,
      grammar.InOrder input ids p .consuming (.ok (p + used.length, values)) ∧
        Reading.leavesAll values = leaves := by
  induction h with
  | nil =>
    intro input p hat ids hids
    cases hids
    exact ⟨[], .nil, rfl⟩
  | @cons e items used used' rest leaves leaves' he _ ih =>
    rintro input p hat _ ⟨id, ids, rfl, hid, hids⟩
    rw [List.append_assoc] at hat
    obtain ⟨value, hvalue, hleaves⟩ := he hat hid
    obtain ⟨values, hvalues, hleaves'⟩ := ih hat.advance hids
    refine ⟨value :: values, ?_, ?_⟩
    · rw [List.length_append, ← Nat.add_assoc]
      exact .cons hvalue hvalues
    · rw [Reading.leavesAll, hleaves, hleaves']

/-- The operands of a sequence of which one fails. -/
theorem FailsAmong.inOrder (h : FailsAmong items ts) :
    ∀ {input p}, At input p ts → ∀ {ids}, holder.HoldsAll items ids → ∃ q,
      grammar.InOrder input ids p .consuming (.error q) := by
  induction h with
  | here he =>
    rintro input p hat _ ⟨id, ids, rfl, hid, hids⟩
    obtain ⟨q, hq⟩ := he hat hid
    exact ⟨q, .fails hq⟩
  | later he _ ih =>
    rintro input p hat _ ⟨id, ids, rfl, hid, hids⟩
    obtain ⟨value, hvalue, -⟩ := he hat hid
    obtain ⟨q, hq⟩ := ih hat.advance hids
    exact ⟨q, .failsLater hvalue hq⟩

/-- A sequence takes what its operands take. -/
theorem TakesAll.sequence (h : TakesAll items used rest leaves) :
    Takes (.sequence items) used rest leaves := by
  intro input p hat id ⟨ids, hid, hids⟩
  obtain ⟨values, hvalues, hleaves⟩ := h.inOrder hat hids
  have hseq := Grammar.Parses.sequence (get?_of_node? hid) hvalues
  rw [Nat.add_sub_cancel_left] at hseq
  exact ⟨_, hseq, by rw [leaves_valueOf hid rfl rfl, hleaves]⟩

/-- A sequence fails if an operand does. -/
theorem FailsAmong.sequence (h : FailsAmong items ts) : Fails (.sequence items) ts := by
  intro input p hat id ⟨ids, hid, hids⟩
  obtain ⟨q, hq⟩ := h.inOrder hat hids
  exact ⟨q, .sequenceFails (get?_of_node? hid) hq⟩

/-- The first of the expressions that matches. -/
inductive TakesFirst : List (Expr Symbol Part) → List (Token Symbol) → List (Token Symbol) →
    List Reading → Prop
  | here {e : Expr Symbol Part} {items : List (Expr Symbol Part)} {used rest : List (Token Symbol)}
      {leaves : List Reading} : Takes e used rest leaves → TakesFirst (e :: items) used rest leaves
  | later {e : Expr Symbol Part} {items : List (Expr Symbol Part)} {used rest : List (Token Symbol)}
      {leaves : List Reading} : Fails e (used ++ rest) → TakesFirst items used rest leaves →
      TakesFirst (e :: items) used rest leaves

/-- The operands of a choice of which one matches. -/
theorem TakesFirst.firstOf (h : TakesFirst items used rest leaves) {input : Array (Token Symbol)}
    {p : Nat} (hat : At input p (used ++ rest)) :
    ∀ {ids}, holder.HoldsAll items ids → ∃ value,
      grammar.FirstOf input ids p .consuming
        (some (p + used.length, ⟨p, used.length⟩, value)) ∧ value.leaves = leaves := by
  induction h with
  | here he =>
    rintro _ ⟨id, ids, rfl, hid, -⟩
    obtain ⟨value, hvalue, hleaves⟩ := he hat hid
    exact ⟨value, .here hvalue, hleaves⟩
  | later he _ ih =>
    rintro _ ⟨id, ids, rfl, hid, hids⟩
    obtain ⟨q, hq⟩ := he hat hid
    obtain ⟨value, hvalue, hleaves⟩ := ih hat hids
    exact ⟨value, .later hq hvalue, hleaves⟩

/-- A choice takes what the first operand that matches takes. -/
theorem TakesFirst.orderedChoice (h : TakesFirst items used rest leaves) :
    Takes (.orderedChoice items) used rest leaves := by
  intro input p hat id ⟨ids, hid, hids⟩
  obtain ⟨value, hvalue, hleaves⟩ := h.firstOf hat hids
  refine ⟨_, .orderedChoice (get?_of_node? hid) hvalue, ?_⟩
  rw [leaves_valueOf hid rfl rfl, Reading.leavesAll, Reading.leavesAll, hleaves, List.append_nil]

/-- A choice fails if all operands do. -/
theorem fails_orderedChoice (h : ∀ e ∈ items, Fails e ts) : Fails (.orderedChoice items) ts := by
  intro input p hat id ⟨ids, hid, hids⟩
  refine ⟨p, .orderedChoiceFails (get?_of_node? hid) ?_⟩
  clear hid
  induction items generalizing ids with
  | nil =>
    cases hids
    exact .nil
  | cons e items ih =>
    obtain ⟨o, others, rfl, ho, hothers⟩ := hids
    obtain ⟨q, hq⟩ := h e List.mem_cons_self hat ho
    exact .later hq (ih (fun e he => h e (List.mem_cons_of_mem _ he)) others hothers)

/-- An optional expression that is there. -/
theorem takes_optional (h : Takes e used rest leaves) : Takes (.optional e) used rest leaves := by
  intro input p hat id ⟨o, hid, ho⟩
  obtain ⟨value, hvalue, hleaves⟩ := h hat ho
  refine ⟨_, .optional (get?_of_node? hid) hvalue, ?_⟩
  rw [leaves_valueOf hid rfl rfl, Reading.leavesAll, Reading.leavesAll, hleaves, List.append_nil]

/-- An optional expression that is not there. -/
theorem takes_optional_absent (h : Fails e ts) : Takes (.optional e) [] ts [] := by
  intro input p hat id ⟨o, hid, ho⟩
  obtain ⟨q, hq⟩ := h hat ho
  exact ⟨_, .optionalAbsent (get?_of_node? hid) hq hat.le, leaves_valueOf hid rfl rfl⟩

/-- The expression matches again and again until nothing is left or it fails. Every turn takes
something. -/
inductive TakesMany (e : Expr Symbol Part) : List (Token Symbol) → List (Token Symbol) →
    List Reading → Prop
  | last {used rest : List (Token Symbol)} {leaves : List Reading} : used ≠ [] →
      Takes e used rest leaves → rest = [] ∨ Fails e rest → TakesMany e used rest leaves
  | more {used used' rest : List (Token Symbol)} {leaves leaves' : List Reading} : used ≠ [] →
      Takes e used (used' ++ rest) leaves → TakesMany e used' rest leaves' →
      TakesMany e (used ++ used') rest (leaves ++ leaves')

/-- Something is taken. -/
theorem TakesMany.ne_nil (h : TakesMany e used rest leaves) : used ≠ [] := by
  cases h with
  | last hne _ _ => exact hne
  | more hne _ _ => simp [hne]

/-- The turns of a repetition. -/
theorem TakesMany.repeats (h : TakesMany e used rest leaves) :
    ∀ {input p}, At input p (used ++ rest) → ∀ {id}, holder.Holds e id → ∃ values,
      grammar.Repeats input id p .consuming (p + used.length) values ∧ values ≠ [] ∧
        Reading.leavesAll values = leaves := by
  induction h with
  | @last used rest leaves hne he hend =>
    intro input p hat id hid
    obtain ⟨value, hvalue, hleaves⟩ := he hat hid
    have hsize := hat.advance.size_eq
    have hpos := List.length_pos_of_ne_nil hne
    refine ⟨[value], ?_, by simp, by simp [Reading.leavesAll, hleaves]⟩
    cases rest with
    | nil => exact .last hvalue (.inr (by rw [hsize]; simp))
    | cons t rest =>
      obtain ⟨q, hq⟩ := hend.resolve_left (by simp) hat.advance hid
      rw [List.length_cons] at hsize
      exact .more hvalue (by omega) (by omega) (.done hq)
  | @more used used' rest leaves leaves' hne he hmany ih =>
    intro input p hat id hid
    rw [List.append_assoc] at hat
    obtain ⟨value, hvalue, hleaves⟩ := he hat hid
    obtain ⟨values, hvalues, -, hleaves'⟩ := ih hat.advance hid
    have hsize := hat.advance.size_eq
    have hpos := List.length_pos_of_ne_nil hne
    have hpos' := List.length_pos_of_ne_nil hmany.ne_nil
    rw [List.length_append] at hsize
    refine ⟨value :: values, ?_, by simp, by rw [Reading.leavesAll, hleaves, hleaves']⟩
    rw [List.length_append, ← Nat.add_assoc]
    exact .more hvalue (by omega) (by omega) hvalues

/-- A repetition takes what its turns take. -/
theorem TakesMany.oneOrMore (h : TakesMany e used rest leaves) :
    Takes (.oneOrMore e) used rest leaves := by
  intro input p hat id ⟨o, hid, ho⟩
  obtain ⟨values, hvalues, hne, hleaves⟩ := h.repeats hat ho
  have hrep := Grammar.Parses.oneOrMore (get?_of_node? hid) hvalues hne
  rw [Nat.add_sub_cancel_left] at hrep
  exact ⟨_, hrep, by rw [leaves_valueOf hid rfl rfl, hleaves]⟩

/-- A repetition fails if its first turn does. -/
theorem fails_oneOrMore (h : Fails e ts) : Fails (.oneOrMore e) ts := by
  intro input p hat id ⟨o, hid, ho⟩
  obtain ⟨q, hq⟩ := h hat ho
  exact ⟨p, .oneOrMoreFails (get?_of_node? hid) (.done hq)⟩

end Operators

/-! ## Calls -/

section Calls

variable {part : Part} {ts used rest : List (Token Symbol)} {leaves : List Reading}

/-- The value of a call is the reading of its part. -/
theorem Takes.parses_call (h : Takes part.body used rest leaves) {input : Array (Token Symbol)}
    {p : Nat} (hat : At input p (used ++ rest)) {id : NodeId} (hid : holder.Holds part.call id) :
    ∃ m value, m.tokens = used ∧ value.leaves = leaves ∧
      grammar.Parses input id p .consuming
        (.matched (p + used.length) ⟨p, used.length⟩ (part.read m [value])) := by
  obtain ⟨body, hbody, hholds⟩ := body?_part part
  obtain ⟨value, hvalue, hleaves⟩ := h hat hholds
  have hcall := Grammar.Parses.nonTerminal (get?_of_node? hid) hbody hvalue
  obtain ⟨hread, haction⟩ := valueOf_call hid input ⟨p, used.length⟩ [value]
  refine ⟨_, value, hat.tokens none, hleaves, ?_⟩
  simpa only [Grammar.applied, haction, and_self, if_true, hread] using hcall

/-- A call takes what the body of its part takes. -/
theorem Takes.call (h : Takes part.body used rest leaves) {read : List Reading}
    (hread : ∀ m value, Match.tokens m = used → Reading.leaves value = leaves →
      (part.read m [value]).leaves = read) : Takes part.call used rest read := by
  intro input p hat id hid
  obtain ⟨m, value, hm, hleaves, hparses⟩ := h.parses_call hat hid
  exact ⟨_, hparses, hread m value hm hleaves⟩

/-- The expressions in a value. -/
theorem exprs_of_leaves {value : Reading} {es : List RawExpr} (h : value.leaves = es.map .expr) :
    Reading.exprs [value] = es := by
  rw [Reading.exprs, Reading.leavesAll, Reading.leavesAll, h, List.append_nil, List.filterMap_map]
  exact List.filterMap_some

/-- A call of a part that stands for the one expression in it, under an operator or not. -/
theorem Takes.wrapping {operator : RawExpr → RawExpr} {e : RawExpr}
    (h : Takes part.body used rest [.expr e])
    (hpart : ∀ m values, part.read m values = Part.wrapping operator values) :
    Takes part.call used rest [.expr (operator e)] := by
  refine h.call fun m value _ hvalue => ?_
  have hexprs : Reading.exprs [value] = [e] := exprs_of_leaves hvalue
  rw [hpart, Part.wrapping, hexprs]
  rfl

/-- A call of a part that stands for the one expression in it. -/
theorem Takes.passing {e : RawExpr} (h : Takes part.body used rest [.expr e])
    (hpart : ∀ m values, part.read m values = Part.wrapping id values) :
    Takes part.call used rest [.expr e] :=
  h.wrapping hpart

/-- A call fails if the body of its part does. -/
theorem Fails.call (h : Fails part.body ts) : Fails part.call ts := by
  intro input p hat id hid
  obtain ⟨body, hbody, hholds⟩ := body?_part part
  obtain ⟨q, hq⟩ := h hat hholds
  exact ⟨q, .nonTerminal (get?_of_node? hid) hbody hq⟩

end Calls

end Packrat.GrammarText
