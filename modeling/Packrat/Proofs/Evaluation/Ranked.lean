import Mathlib.Data.Finset.Order
import Packrat.Proofs.Evaluation.Sharing

/-!
# Grammars without left recursion

The lead of an expression is what it does before it passes a token (`Expr.lead`): whether it may end
without passing one, and which rules it may call until then. A grammar is ranked if the rules in the
lead of a body have a smaller rank than the rule itself (`Grammar.Ranked`).

In a ranked grammar everything has an outcome in the plain relation, at every position
(`Grammar.Ranked.settles`): either a token has been passed, or the rank has become smaller, or the
expression has. So no parse refuses a call (`Grammar.Ranked.cuts_eq_zero`).
-/

namespace Packrat

variable {K N T : Type}

/-! ## Leads -/

/-- What an expression does before it passes a token: whether it may end without passing one, and
the rules that it may call until then. -/
structure Lead (N : Type) where
  skips : Bool
  calls : List N

namespace Lead

/-- The lead of expressions one after the other: one that passes a token is the last that counts. -/
def inTurn : List (Lead N) → Lead N
  | [] => ⟨true, []⟩
  | l :: rest =>
    if l.skips then ⟨(inTurn rest).skips, l.calls ++ (inTurn rest).calls⟩ else l

/-- The lead of expressions of which each may be tried. -/
def either (leads : List (Lead N)) : Lead N := ⟨leads.any (·.skips), leads.flatMap (·.calls)⟩

variable {l : Lead N} {rest leads : List (Lead N)} {name : N}

theorem mem_calls_inTurn_head (h : name ∈ l.calls) : name ∈ (inTurn (l :: rest)).calls := by
  rw [inTurn]
  split
  · exact List.mem_append_left _ h
  · exact h

theorem mem_calls_inTurn_tail (hskips : l.skips) (h : name ∈ (inTurn rest).calls) :
    name ∈ (inTurn (l :: rest)).calls := by
  rw [inTurn, if_pos hskips]
  exact List.mem_append_right _ h

theorem skips_inTurn (hskips : l.skips) (h : (inTurn rest).skips) : (inTurn (l :: rest)).skips := by
  rw [inTurn, if_pos hskips]
  exact h

theorem mem_calls_either (hl : l ∈ leads) (h : name ∈ l.calls) : name ∈ (either leads).calls :=
  List.mem_flatMap.2 ⟨l, hl, h⟩

theorem skips_either (hl : l ∈ leads) (h : l.skips) : (either leads).skips :=
  List.any_eq_true.2 ⟨l, hl, h⟩

end Lead

/-- The lead of an operator, where `skips` says which rules may end without passing a token. -/
def Operator.lead (skips : N → Bool) : Operator K N (Lead N) → Lead N
  | .terminal _ => ⟨false, []⟩
  | .nonTerminal name => ⟨skips name, [name]⟩
  | .emptyString => ⟨true, []⟩
  | .sequence xs => .inTurn xs
  | .orderedChoice xs => .either xs
  | .optional x => ⟨true, x.calls⟩
  | .zeroOrMore x => ⟨true, x.calls⟩
  | .oneOrMore x => x
  | .andPredicate x => ⟨true, x.calls⟩
  | .notPredicate x => ⟨true, x.calls⟩

/-- The lead of an expression. -/
def Expr.lead (skips : N → Bool) : Expr K N → Lead N := fold (Operator.lead skips)

theorem Expr.lead_eq (skips : N → Bool) (e : Expr K N) :
    e.lead skips = (e.operator.map (lead skips)).lead skips := fold_eq _ e

/-- The outcome stays within `n` tokens, and a match passes one unless `skips` holds. -/
def Outcome.Passes (n : Nat) (skips : Bool) (p : Nat) : Outcome T → Prop
  | .matched next _ _ => p ≤ next ∧ next ≤ n ∧ (next = p → skips)
  | .failed _ => True

namespace Grammar

/-- The rules that may end without passing a token are known, and every rule that the body of a rule
may call until then has a smaller rank. -/
structure Ranked [DecidableEq N] (g : Grammar K N T) (skips : N → Bool) (rank : N → Nat) :
    Prop where
  known : ∀ ⦃name e⦄, g.tree? name = some e → (e.lead skips).skips → skips name
  falls : ∀ ⦃name e⦄, g.tree? name = some e → ∀ callee ∈ (e.lead skips).calls,
    rank callee < rank name

/-! ## Everything has an outcome -/

variable [DecidableEq N] [ToString K] [ToString N] [Inhabited T] {g : Grammar K N T}
  {input : Array (Token K)} {skips : N → Bool} {rank : N → Nat} {id : NodeId} {l : Lead N}
  {p q r : Nat}

/-- The operator at an id has an outcome at a position, in either mode, and passes a token there
unless `empty` holds. -/
def Settles (g : Grammar K N T) (input : Array (Token K)) (empty : Bool) (id : NodeId) (p : Nat) :
    Prop :=
  ∀ mode, ∃ o, g.Parses input id p mode o ∧ o.Passes input.size empty p

theorem Settles.imp {empty empty' : Bool} (h : g.Settles input empty id p)
    (hempty : empty → empty') : g.Settles input empty' id p := by
  intro mode
  obtain ⟨o, ho, hpass⟩ := h mode
  refine ⟨o, ho, ?_⟩
  cases o with
  | failed q => trivial
  | matched next span value => exact ⟨hpass.1, hpass.2.1, fun hnext => hempty (hpass.2.2 hnext)⟩

/-- The operator at an id, with a lead, settles from a position on: there only if what it may call
has a rank smaller than `r`. -/
def Ready (g : Grammar K N T) (input : Array (Token K)) (rank : N → Nat) (r p : Nat) (id : NodeId)
    (l : Lead N) : Prop :=
  ∀ q, p ≤ q → q ≤ input.size → (q = p → ∀ callee ∈ l.calls, rank callee < r) →
    g.Settles input l.skips id q

/-- Operands one after the other, from a position behind the first on. -/
theorem exists_inOrder {operands : List NodeId} {leads : List (Lead N)}
    (h : List.Forall₂ (g.Ready input rank r p) operands leads) :
    ∀ q, p ≤ q → q ≤ input.size →
      (q = p → ∀ callee ∈ (Lead.inTurn leads).calls, rank callee < r) →
      ∀ mode, ∃ x, g.InOrder input operands q mode x ∧
        ∀ stop values, x = .ok (stop, values) →
          q ≤ stop ∧ stop ≤ input.size ∧ (stop = q → (Lead.inTurn leads).skips) := by
  induction h with
  | nil =>
    intro q hle hq _ mode
    refine ⟨.ok (q, []), .nil, ?_⟩
    rintro stop values ⟨⟩
    exact ⟨Nat.le_refl q, hq, fun _ => rfl⟩
  | @cons operand l operands leads hfirst _ ih =>
    intro q hle hq hcalls mode
    obtain ⟨o, ho, hpass⟩ :=
      hfirst q hle hq (fun heq c hc => hcalls heq c (Lead.mem_calls_inTurn_head hc)) mode
    cases o with
    | failed stop => exact ⟨.error stop, .fails ho, nofun⟩
    | matched next span value =>
      obtain ⟨hnext, hsize, hempty⟩ := hpass
      -- The rest begins at the same position only if the first operand passes no token.
      have hrest : next = p → ∀ callee ∈ (Lead.inTurn leads).calls, rank callee < r := by
        intro heq c hc
        have hqp : q = p := by omega
        exact hcalls hqp c (Lead.mem_calls_inTurn_tail (hempty (by omega)) hc)
      obtain ⟨x, hx, hbounds⟩ := ih next (by omega) hsize hrest mode
      cases x with
      | error stop => exact ⟨.error stop, .failsLater ho hx, nofun⟩
      | ok rest =>
        obtain ⟨stop, values⟩ := rest
        obtain ⟨hstop, hsize', hempty'⟩ := hbounds stop values rfl
        refine ⟨.ok (stop, value :: values), .cons ho hx, ?_⟩
        rintro _ _ ⟨⟩
        exact ⟨by omega, hsize',
          fun heq => Lead.skips_inTurn (hempty (by omega)) (hempty' (by omega))⟩

/-- The first operand that matches at a position. -/
theorem exists_firstOf {operands : List NodeId} {leads : List (Lead N)} (hp : p ≤ input.size)
    (h : List.Forall₂ (g.Ready input rank r p) operands leads)
    (hcalls : ∀ callee ∈ (Lead.either leads).calls, rank callee < r) (mode : Mode) :
    ∃ found, g.FirstOf input operands p mode found ∧
      ∀ next span value, found = some (next, span, value) →
        p ≤ next ∧ next ≤ input.size ∧ (next = p → (Lead.either leads).skips) := by
  induction h with
  | nil => exact ⟨none, .nil, nofun⟩
  | @cons operand l operands leads hfirst _ ih =>
    obtain ⟨o, ho, hpass⟩ := hfirst p (Nat.le_refl p) hp
      (fun _ c hc => hcalls c (Lead.mem_calls_either List.mem_cons_self hc)) mode
    cases o with
    | failed stop =>
      obtain ⟨found, hfound, hbounds⟩ :=
        ih fun c hc => hcalls c (List.mem_append_right _ hc)
      refine ⟨found, .later ho hfound, fun next span value heq => ?_⟩
      obtain ⟨hnext, hsize, hempty⟩ := hbounds next span value heq
      exact ⟨hnext, hsize, fun heq => Bool.or_eq_true_iff.2 (.inr (hempty heq))⟩
    | matched next span value =>
      refine ⟨some (next, span, value), .here ho, ?_⟩
      rintro _ _ _ ⟨⟩
      exact ⟨hpass.1, hpass.2.1,
        fun heq => Lead.skips_either List.mem_cons_self (hpass.2.2 heq)⟩

/-- An operand again and again, from a position on. -/
theorem exists_repeats {operand : NodeId} {q : Nat} (h : g.Ready input rank r p operand l)
    (hcalls : ∀ callee ∈ l.calls, rank callee < r) (hle : p ≤ q) (hq : q ≤ input.size)
    (mode : Mode) :
    ∃ stop values, g.Repeats input operand q mode stop values ∧ q ≤ stop ∧ stop ≤ input.size ∧
      (stop = q → values ≠ [] → l.skips) := by
  obtain ⟨o, ho, hpass⟩ := h q hle hq (fun _ => hcalls) mode
  cases o with
  | failed stop => exact ⟨q, [], .done ho, Nat.le_refl q, hq, fun _ hne => absurd rfl hne⟩
  | matched next span value =>
    obtain ⟨hnext, hsize, hempty⟩ := hpass
    by_cases hgo : q < next ∧ next < input.size
    · obtain ⟨stop, values, hrest, hstop, hsize', -⟩ :=
        exists_repeats h hcalls (Nat.le_trans hle hnext) hsize mode
      exact ⟨stop, value :: values, .more ho hgo.1 hgo.2 hrest, by omega, hsize',
        fun heq => by omega⟩
    · exact ⟨next, [value], .last ho (by omega), hnext, hsize, fun heq _ => hempty heq⟩
termination_by input.size - q

/-- An operator settles if its operands are ready and the rule that it calls settles. -/
theorem step_settles {op : Operator K N NodeId} {op' : Operator K N (Lead N)}
    (hget : g.arena.get? id = some op) (hp : p ≤ input.size)
    (hrel : Operator.Rel Eq (g.Ready input rank r p) op op')
    (hcalls : ∀ callee ∈ (op'.lead skips).calls, rank callee < r)
    (hbody : ∀ name, op = .nonTerminal name → rank name < r →
      ∃ body, g.body? name = some body ∧ g.Settles input (skips name) body p) :
    g.Settles input (op'.lead skips).skips id p := by
  intro mode
  cases hrel with
  | terminal tag =>
    by_cases htag : ∃ token, input[p]? = some token ∧ token.tag = tag
    · obtain ⟨token, htoken, htag⟩ := htag
      have hlt : p < input.size := (Array.getElem?_eq_some_iff.1 htoken).1
      exact ⟨_, .terminal hget htoken htag, by omega, hlt, by omega⟩
    · exact ⟨_, .terminalFails hget fun token htoken heq => htag ⟨token, htoken, heq⟩, trivial⟩
  | @nonTerminal name _ heq =>
    cases heq
    obtain ⟨body, hbody, hsettles⟩ := hbody name rfl (hcalls name List.mem_cons_self)
    obtain ⟨o, ho, hpass⟩ := hsettles mode
    refine ⟨_, .nonTerminal hget hbody ho, ?_⟩
    cases o with
    | failed q => trivial
    | matched next span value => exact hpass
  | emptyString => exact ⟨_, .emptyString hget hp, Nat.le_refl p, hp, fun _ => rfl⟩
  | sequence h =>
    obtain ⟨x, hx, hbounds⟩ := exists_inOrder h p (Nat.le_refl p) hp (fun _ => hcalls) mode
    cases x with
    | error q => exact ⟨_, .sequenceFails hget hx, trivial⟩
    | ok rest =>
      obtain ⟨stop, values⟩ := rest
      obtain ⟨hstop, hsize, hempty⟩ := hbounds stop values rfl
      exact ⟨_, .sequence hget hx, by omega, by omega, fun heq => hempty (by omega)⟩
  | orderedChoice h =>
    obtain ⟨found, hfound, hbounds⟩ := exists_firstOf hp h hcalls mode
    cases found with
    | none => exact ⟨_, .orderedChoiceFails hget hfound, trivial⟩
    | some match' =>
      obtain ⟨next, span, value⟩ := match'
      exact ⟨_, .orderedChoice hget hfound, hbounds next span value rfl⟩
  | optional h =>
    obtain ⟨o, ho, hpass⟩ := h p (Nat.le_refl p) hp (fun _ => hcalls) mode
    cases o with
    | failed q => exact ⟨_, .optionalAbsent hget ho hp, Nat.le_refl p, hp, fun _ => rfl⟩
    | matched next span value => exact ⟨_, .optional hget ho, hpass.1, hpass.2.1, fun _ => rfl⟩
  | zeroOrMore h =>
    obtain ⟨stop, values, hx, hstop, hsize, -⟩ := exists_repeats h hcalls (Nat.le_refl p) hp mode
    exact ⟨_, .zeroOrMore hget hx, by omega, by omega, fun _ => rfl⟩
  | oneOrMore h =>
    obtain ⟨stop, values, hx, hstop, hsize, hempty⟩ :=
      exists_repeats h hcalls (Nat.le_refl p) hp mode
    by_cases hne : values = []
    · subst hne
      exact ⟨_, .oneOrMoreFails hget hx, trivial⟩
    · exact ⟨_, .oneOrMore hget hx hne, by omega, by omega, fun heq => hempty (by omega) hne⟩
  | andPredicate h =>
    obtain ⟨o, ho, -⟩ := h p (Nat.le_refl p) hp (fun _ => hcalls) .probing
    cases o with
    | failed q => exact ⟨_, .andPredicateFails hget ho, trivial⟩
    | matched next span value =>
      exact ⟨_, .andPredicate hget ho, Nat.le_refl p, hp, fun _ => rfl⟩
  | notPredicate h =>
    obtain ⟨o, ho, -⟩ := h p (Nat.le_refl p) hp (fun _ => hcalls) .probing
    cases o with
    | failed q => exact ⟨_, .notPredicate hget ho, Nat.le_refl p, hp, fun _ => rfl⟩
    | matched next span value => exact ⟨_, .notPredicateFails hget ho, trivial⟩

section Built

variable {b : Builder K N T} {start : N} {rules : List (Rule N)}

/-- The operator at an id settles at a position, if all that takes part in parses settles behind it,
and everything with a smaller rank settles there. -/
theorem Ranked.settles_at (h : g.Ranked skips rank) (hb : b.Made)
    (hg : b.build start rules = .ok g) (hp : p ≤ input.size)
    (hbehind : ∀ {depth o item q}, g.Live o → g.arena.unfolding depth o = some item → p < q →
      q ≤ input.size → g.Settles input (item.lead skips).skips o q)
    (hsmaller : ∀ r' < r, ∀ {depth o item}, g.Live o → g.arena.unfolding depth o = some item →
      (∀ callee ∈ (item.lead skips).calls, rank callee < r') →
      g.Settles input (item.lead skips).skips o p)
    {depth : Nat} {e : Expr K N} (hid : g.Live id) (he : g.arena.unfolding depth id = some e)
    (hcalls : ∀ callee ∈ (e.lead skips).calls, rank callee < r) :
    g.Settles input (e.lead skips).skips id p := by
  induction depth generalizing id e with
  | zero => cases he
  | succ depth ih =>
    obtain ⟨op, hop, hrel⟩ := Arena.unfolding_succ_eq_some.1 he
    obtain ⟨_, hop', hops, hcallee⟩ := hid.closed hg
    cases hop.symm.trans hop'
    have hready : Operator.Rel Eq (fun o item => g.Ready input rank r p o (item.lead skips)) op
        e.operator := by
      refine hrel.imp (fun _ _ heq => heq) fun o ho item _ hitem q hle hq hcalls => ?_
      rcases Nat.eq_or_lt_of_le hle with rfl | hlt
      · exact ih (hops o ho) hitem (hcalls rfl)
      · exact hbehind (hops o ho) hitem hlt hq
    have hleads := Operator.Rel.map (fun o => o) (Expr.lead skips) hready
    rw [Operator.map_self] at hleads
    rw [Expr.lead_eq] at hcalls ⊢
    refine step_settles hop hp hleads hcalls ?_
    rintro name rfl hname
    obtain ⟨body, hbody, hlive⟩ := hcallee name rfl
    obtain ⟨t, -, -, htree⟩ := exists_tree_of_body? hb hg hbody
    have hunfold : g.arena.unfold? body = some (t.rename Prod.fst) := by
      rwa [tree?, hbody] at htree
    exact ⟨body, hbody, (hsmaller _ hname hlive hunfold (h.falls htree)).imp (h.known htree)⟩

/-- **In a ranked grammar everything that takes part in parses settles.** The induction is on the
tokens that are left, then on the ranks of what may be called before one is passed, then on the
depth of the tree. -/
theorem Ranked.settles (h : g.Ranked skips rank) (hb : b.Made) (hg : b.build start rules = .ok g)
    {depth : Nat} {e : Expr K N} (hid : g.Live id) (he : g.arena.unfolding depth id = some e)
    (hp : p ≤ input.size) : g.Settles input (e.lead skips).skips id p := by
  induction hleft : input.size - p using Nat.strong_induction_on generalizing p depth id e with
  | _ left ihtoken =>
    subst hleft
    have hbehind : ∀ {depth o item q}, g.Live o → g.arena.unfolding depth o = some item →
        p < q → q ≤ input.size → g.Settles input (item.lead skips).skips o q :=
      fun ho hitem hlt hq => ihtoken _ (by omega) ho hitem hq rfl
    have hranks : ∀ r, ∀ {depth id e}, g.Live id → g.arena.unfolding depth id = some e →
        (∀ callee ∈ (e.lead skips).calls, rank callee < r) →
        g.Settles input (e.lead skips).skips id p := by
      intro r
      induction r using Nat.strong_induction_on with
      | _ r ihrank => exact fun hid he => h.settles_at hb hg hp hbehind ihrank hid he
    obtain ⟨r, hr⟩ := ((e.lead skips).calls.map rank).toFinset.exists_le
    refine hranks (r + 1) hid he fun callee hcallee => Nat.lt_succ_of_le (hr _ ?_)
    exact List.mem_toFinset.2 (List.mem_map_of_mem hcallee)

end Built

/-! ## No call is refused -/

omit [ToString K] [ToString N] [Inhabited T] in
/-- The trees of a grammar do not depend on its actions. -/
theorem tree?_silent (g : Grammar K N T) (name : N) : g.silent.tree? name = g.tree? name := by
  have hunfold : g.silent.arena.unfold? = g.arena.unfold? := by
    funext id
    rw [ Arena.unfold?, Arena.unfold?, silent, Arena.size_silent]
    exact Arena.fold_congr g.arena.get?_silent _ _ _ _
  rw [tree?, tree?, hunfold]
  rfl

omit [ToString K] [ToString N] [Inhabited T] in
theorem Ranked.silent (h : g.Ranked skips rank) : g.silent.Ranked skips rank where
  known name _ htree := h.known (tree?_silent g name ▸ htree)
  falls name _ htree := h.falls (tree?_silent g name ▸ htree)

variable {b : Builder K N T} {start : N} {rules : List (Rule N)}

/-- **No parse with a ranked grammar refuses a call**, whatever the tokens are. -/
theorem Ranked.cuts_eq_zero [DecidableEq K] (h : g.Ranked skips rank) (hb : b.Made)
    (hg : b.build start rules = .ok g) (input : Array (Token K)) (context : Context N T)
    (labels : Labels) : (g.parseWith input context labels).2.context.stats.cuts = 0 := by
  rw [(parseWith_silent hb hg input context labels).2.stats]
  have hg' := Builder.build_silent hg
  have hlive : g.silent.Live g.silent.startNode := .inl rfl
  obtain ⟨t, -, hunfold, -⟩ := hlive.exists_unfold hb.silent hg'
  have hsettles : g.silent.Settles input _ g.silent.startNode 0 :=
    h.silent.settles hb.silent hg' hlive hunfold (Nat.zero_le _)
  obtain ⟨o, ho, -⟩ := hsettles .consuming
  exact (parseWith_silent_cuts hb hg input).1.2 ⟨o, ho⟩

end Grammar

end Packrat
