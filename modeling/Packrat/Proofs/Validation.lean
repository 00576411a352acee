import Packrat.Proofs.Unfolding

/-!
# What is wrong with a set of rules

`Builder.build` looks at a set of rules four times: for a repeated head, for the start symbol, for
operators of other arenas, and for calls of rules that are not there. `Arena.Fault` says of a set of
rules what is wrong with it first, in terms of what is reachable and of the names that are called,
and `Arena.ruleError?_eq_some_iff` that this is what is reported.

The names that an operator calls are listed depth first, from left to right (`Arena.calls`,
`Arena.calls_eq`). A walk with a stack passes over what it has visited; it still comes upon the
names in this order (`Arena.calledNames_eq`), because operators are older than those that use them:
what is visited a second time has been left before, with everything beneath it.
-/

namespace Packrat

variable {K N T ι κ β : Type}

/-! ## Lists without repetitions -/

/-- The first member of a list that repeats an earlier one. -/
theorem firstRepeated?_eq_some_iff [DecidableEq β] {x : β} {l : List β} :
    ∀ {seen : List β}, firstRepeated? seen l = some x ↔
      ∃ before after, l = before ++ x :: after ∧ before.Nodup ∧ (∀ y ∈ before, y ∉ seen) ∧
        (x ∈ before ∨ x ∈ seen) := by
  induction l with
  | nil => simp [firstRepeated?]
  | cons y rest ih =>
    intro seen
    rw [firstRepeated?]
    split
    · next hy =>
      constructor
      · intro h
        cases h
        exact ⟨[], rest, rfl, .nil, by simp, .inr hy⟩
      · rintro ⟨_ | ⟨z, before⟩, after, hl, -, hseen, -⟩ <;> cases hl
        · rfl
        · exact absurd hy (hseen y List.mem_cons_self)
    · next hy =>
      rw [ih]
      constructor
      · rintro ⟨before, after, rfl, hnodup, hseen, hx⟩
        have hmem : y ∉ before := fun h => hseen y h List.mem_cons_self
        refine ⟨y :: before, after, rfl, List.nodup_cons.2 ⟨hmem, hnodup⟩, ?_, ?_⟩
        · exact List.forall_mem_cons.2 ⟨hy, fun z hz => (List.not_mem_of_not_mem_cons (hseen z hz))⟩
        · simp only [List.mem_cons] at hx ⊢
          tauto
      · rintro ⟨_ | ⟨z, before⟩, after, hl, hnodup, hseen, hx⟩ <;> cases hl
        · exact absurd (hx.resolve_left List.not_mem_nil) hy
        · obtain ⟨hmem, hnodup⟩ := List.nodup_cons.1 hnodup
          refine ⟨before, after, rfl, hnodup, fun z hz => ?_, ?_⟩
          · rw [List.mem_cons, not_or]
            exact ⟨fun hzy => hmem (hzy ▸ hz), hseen z (List.mem_cons_of_mem _ hz)⟩
          · simp only [List.mem_cons] at hx ⊢
            tauto

namespace Arena

section Distinct

variable [DecidableEq β] {seen seen' l m : List β}

/-- What has been seen matters, not in which order. -/
theorem distinct_congr (h : ∀ x, x ∈ seen ↔ x ∈ seen') : distinct seen l = distinct seen' l := by
  induction l generalizing seen seen' with
  | nil => rfl
  | cons x rest ih =>
    have hcons : ∀ y, y ∈ x :: seen ↔ y ∈ x :: seen' := by simp [h]
    simp only [distinct, h x, ih h, ih hcons]

/-- The members of the first list have been seen when the second begins. -/
theorem distinct_append : distinct seen (l ++ m) = distinct seen l ++ distinct (l ++ seen) m := by
  induction l generalizing seen with
  | nil => rfl
  | cons x rest ih =>
    rw [List.cons_append, distinct, distinct]
    split
    · next hx =>
      have hsame : ∀ y, y ∈ rest ++ seen ↔ y ∈ x :: rest ++ seen := by
        intro y
        simp only [List.cons_append, List.mem_cons, List.mem_append]
        constructor
        · exact .inr
        · rintro (rfl | hy)
          exacts [.inr hx, hy]
      rw [ih, distinct_congr hsame]
    · have hsame : ∀ y, y ∈ rest ++ x :: seen ↔ y ∈ x :: rest ++ seen := by
        intro y
        simp only [List.cons_append, List.mem_cons, List.mem_append]
        tauto
      rw [ih, distinct_congr hsame, ← List.cons_append]

/-- Nothing is left of members that have all been seen. -/
theorem distinct_eq_nil (h : ∀ x ∈ l, x ∈ seen) : distinct seen l = [] := by
  refine List.eq_nil_iff_forall_not_mem.2 fun x hx => ?_
  obtain ⟨hl, hseen⟩ := mem_distinct.1 hx
  exact hseen (h x hl)

/-- Members that are all there already can be left out. -/
theorem distinct_append_append {r : List β} (h : ∀ x ∈ m, x ∈ l) :
    distinct [] (l ++ (m ++ r)) = distinct [] (l ++ r) := by
  have hsame : ∀ x, x ∈ m ++ (l ++ []) ↔ x ∈ l ++ [] := by
    intro x
    simp only [List.append_nil, List.mem_append, or_iff_right_iff_imp]
    exact h x
  have hnone : distinct (l ++ []) m = [] := distinct_eq_nil (by simpa using h)
  rw [distinct_append, distinct_append, hnone, List.nil_append, distinct_congr hsame,
    distinct_append]

/-- Repetitions do not matter for the first member with a property. -/
theorem find?_distinct {p : β → Bool} (h : ∀ x ∈ seen, p x = false) :
    (distinct seen l).find? p = l.find? p := by
  induction l generalizing seen with
  | nil => rfl
  | cons x rest ih =>
    rw [distinct]
    split
    · next hx => rw [ih h, List.find?_cons_of_neg (by simp [h x hx])]
    · cases hx : p x with
      | true => rw [List.find?_cons_of_pos hx, List.find?_cons_of_pos hx]
      | false =>
        rw [List.find?_cons_of_neg (by simp [hx]), List.find?_cons_of_neg (by simp [hx])]
        exact ih (List.forall_mem_cons.2 ⟨hx, h⟩)

end Distinct

end Arena

/-! ## The names that an operator calls -/

/-- The name that an operator calls, and then those that its operands call. -/
def Operator.calls (op : Operator K N (List N)) : List N :=
  op.callee?.toList ++ op.operands.flatten

@[simp] theorem Operator.callee?_map (f : ι → κ) (op : Operator K N ι) :
    (op.map f).callee? = op.callee? := by
  cases op <;> rfl

/-- The names that are called in an expression, from left to right. -/
def Expr.calls : Expr K N → List N := fold Operator.calls

theorem Expr.calls_eq (e : Expr K N) :
    e.calls = e.operator.callee?.toList ++ e.operator.operands.flatMap calls := by
  rw [calls, fold_eq, Operator.calls, Operator.callee?_map, Operator.operands_map,
    List.flatMap_def]

namespace Arena

variable {a : Arena K N T} {root id x : NodeId} {op : Operator K N NodeId}

/-- The names that are called from an operator on, depth first and from left to right, as often as
they are. -/
def calls (a : Arena K N T) (id : NodeId) : List N := a.fold Operator.calls [] a.size id

/-- Everything reachable from an operator belongs to the arena. -/
def OwnsBeneath (a : Arena K N T) (root : NodeId) : Prop := ∀ id, a.Reaches root id → a.owns id

/-- The arena has an operator at each id that it owns. -/
theorem owns_iff : a.owns id ↔ (a.get? id).isSome := by
  rw [isSome_get?_iff, owns, Bool.and_eq_true, beq_iff_eq, decide_eq_true_iff]

theorem Reaches.trans (h : a.Reaches root id) (h' : a.Reaches id x) : a.Reaches root x := by
  induction h' with
  | root => exact h
  | operand _ hget ho ih => exact .operand ih hget ho

/-- Everything beneath an operand is beneath the operator. -/
theorem OwnsBeneath.operand {o : NodeId} (h : a.OwnsBeneath id) (hop : a.get? id = some op)
    (ho : o ∈ op.operands) : a.OwnsBeneath o :=
  fun x hx => h x ((Reaches.root.operand hop ho).trans hx)

/-- An operator with everything beneath it owned unfolds. -/
theorem OwnsBeneath.exists_unfold (h : a.OwnsBeneath root) (ha : a.Ordered) :
    ∃ e, a.unfold? root = some e := by
  refine ha.exists_unfold (P := a.Reaches root) (fun id hid => ?_) .root
  obtain ⟨op, hop⟩ := Option.isSome_iff_exists.1 (owns_iff.1 (h id hid))
  exact ⟨op, hop, fun o ho => hid.operand hop ho⟩

/-- Everything beneath an operator that unfolds is owned. -/
theorem ownsBeneath_of_unfold {e : Expr K N} (h : a.unfold? root = some e) :
    a.OwnsBeneath root := by
  intro id hid
  have hover : e.Over (fun _ => True) fun _ => True :=
    Expr.over_of_forall (fun _ => trivial) (fun _ => trivial) e
  obtain ⟨op, hop, -⟩ := exists_over_of_reaches h hover hid
  exact owns_iff.2 (hop ▸ rfl)

/-- The names called from an operator on are those of its tree. -/
theorem calls_of_unfold {e : Expr K N} (h : a.unfold? id = some e) : a.calls id = e.calls :=
  fold_of_unfolding h _ _ (Nat.le_refl _)

/-- **The names called from an operator on: its own, and then those of its operands from left to
right.** -/
theorem calls_eq (ha : a.Ordered) (h : a.OwnsBeneath id) (hop : a.get? id = some op) :
    a.calls id = op.callee?.toList ++ op.operands.flatMap a.calls := by
  obtain ⟨e, he⟩ := h.exists_unfold ha
  obtain ⟨depth, hdepth⟩ : ∃ depth, a.size = depth + 1 :=
    Nat.exists_eq_succ_of_ne_zero (Nat.ne_zero_of_lt (owned_of_get? hop).2)
  have hunfold : a.unfolding (depth + 1) id = some e := by
    rw [← hdepth]
    exact he
  obtain ⟨op', hop', hrel⟩ := unfolding_succ_eq_some.1 hunfold
  rw [hop] at hop'
  cases hop'
  have hoperands : op.map a.calls = e.operator.map Expr.calls := by
    refine (hrel.imp (fun _ _ h => h) fun o _ item _ ho => ?_).map_eq
    exact calls_of_unfold (unfolding_mono ho (by omega))
  have hmap := congrArg Operator.calls hoperands
  rw [Operator.calls, Operator.callee?_map, Operator.operands_map] at hmap
  rw [calls_of_unfold he, Expr.calls, Expr.fold_eq, List.flatMap_def, hmap]
  rfl

/-- A name that is called from an operator on is called by an operator reachable from it. -/
theorem exists_of_mem_calls {name : N} (h : name ∈ a.calls root) :
    ∃ id, a.Reaches root id ∧ (a.get? id).bind Operator.callee? = some name := by
  have hdepth : ∀ depth root, name ∈ a.fold Operator.calls [] depth root →
      ∃ id, a.Reaches root id ∧ (a.get? id).bind Operator.callee? = some name := by
    intro depth
    induction depth with
    | zero => exact fun root h => absurd h List.not_mem_nil
    | succ depth ih =>
      intro root h
      rw [fold] at h
      cases hop : a.get? root with
      | none => simp [hop] at h
      | some op =>
        simp only [hop, Operator.calls, Operator.callee?_map, Operator.operands_map,
          List.mem_append, Option.mem_toList, List.mem_flatten, List.mem_map] at h
        rcases h with hname | ⟨_, ⟨o, ho, rfl⟩, hname⟩
        · exact ⟨root, .root, by simpa [hop] using hname⟩
        · obtain ⟨id, hid, hname⟩ := ih o hname
          exact ⟨id, (Reaches.root.operand hop ho).trans hid, hname⟩
  exact hdepth a.size root h

/-! ## The walk comes upon names in this order -/

/-- What holds during a walk through an ordered arena: an operand of a visited operator that is not
visited itself is on the stack, and what lies above it there is older than the operator. -/
def Settling (a : Arena K N T) (stack visited : List NodeId) : Prop :=
  ∀ id ∈ visited, ∃ op, a.get? id = some op ∧ ∀ o ∈ op.operands, o ∈ visited ∨
    ∃ above below, stack = above ++ o :: below ∧ ∀ s ∈ above, s.index < id.index

/-- Passing over an id that has been visited. -/
theorem Settling.skip {stack visited : List NodeId} (h : a.Settling (id :: stack) visited)
    (hid : id ∈ visited) : a.Settling stack visited := by
  intro x hx
  obtain ⟨op, hop, hops⟩ := h x hx
  refine ⟨op, hop, fun o ho => ?_⟩
  rcases hops o ho with hmem | ⟨_ | ⟨s, above⟩, below, hstack, habove⟩
  · exact .inl hmem
  · cases hstack
    exact .inl hid
  · cases hstack
    exact .inr ⟨above, below, rfl, (List.forall_mem_cons.1 habove).2⟩

/-- Visiting an id puts its operands, which are older, on the stack. -/
theorem Settling.visit {stack visited : List NodeId} (h : a.Settling (id :: stack) visited)
    (hop : a.get? id = some op) (holder : ∀ o ∈ op.operands, o.index < id.index) :
    a.Settling (op.operands ++ stack) (id :: visited) := by
  intro x hx
  rcases List.mem_cons.1 hx with rfl | hx
  · refine ⟨op, hop, fun o ho => .inr ?_⟩
    obtain ⟨before, after, hops⟩ := List.append_of_mem ho
    refine ⟨before, after ++ stack, by rw [hops]; simp, fun s hs => holder s ?_⟩
    rw [hops]
    exact List.mem_append_left _ hs
  · obtain ⟨op', hop', hops⟩ := h x hx
    refine ⟨op', hop', fun o ho => ?_⟩
    rcases hops o ho with hmem | ⟨_ | ⟨s, above⟩, below, hstack, habove⟩
    · exact .inl (List.mem_cons_of_mem _ hmem)
    · cases hstack
      exact .inl List.mem_cons_self
    · cases hstack
      obtain ⟨hs, habove⟩ := List.forall_mem_cons.1 habove
      refine .inr ⟨op.operands ++ above, below, by simp, ?_⟩
      exact List.forall_mem_append.2 ⟨fun o ho => (holder o ho).trans hs, habove⟩

/-- What is visited already when it comes up again has been left, with everything beneath it. -/
theorem Settling.mem_of_reaches {stack visited : List NodeId} (ha : a.Ordered)
    (h : a.Settling (id :: stack) visited) (hid : id ∈ visited) (howns : a.OwnsBeneath id)
    (hx : a.Reaches id x) : x ∈ visited ∧ x.index ≤ id.index := by
  induction hx with
  | root => exact ⟨hid, Nat.le_refl _⟩
  | @operand x o op hx hop ho ih =>
    obtain ⟨hmem, hle⟩ := ih
    have hget := owns_iff.1 (howns o (hx.operand hop ho))
    have howned := owned_of_get? (Option.eq_some_of_isSome hget)
    have holder : o.index < x.index := ha hop o ho howned.1
    obtain ⟨op', hop', hops⟩ := h x hmem
    rw [hop] at hop'
    cases hop'
    refine ⟨?_, by omega⟩
    rcases hops o ho with hmem | ⟨_ | ⟨s, above⟩, below, hstack, habove⟩
    · exact hmem
    · cases hstack
      exact hid
    · -- The id itself would lie above the operand, and so be older than itself.
      cases hstack
      have hlt := habove id List.mem_cons_self
      omega

/-- The names that operators call themselves. -/
def ownCalls (a : Arena K N T) (ids : List NodeId) : List N :=
  ids.filterMap fun id => (a.get? id).bind Operator.callee?

/-- The rest of a walk comes upon the names that are called from the ids on the stack. -/
theorem visit_calls [DecidableEq N] (ha : a.Ordered) {fuel : Nat} {stack visited ids : List NodeId}
    (h : a.Settling stack visited) (howns : ∀ x ∈ stack, a.OwnsBeneath x)
    (hv : a.visit fuel stack visited = some (.ok ids)) :
    distinct [] (a.ownCalls ids) =
      distinct [] (a.ownCalls visited.reverse ++ stack.flatMap a.calls) := by
  fun_induction a.visit fuel stack visited with
  | case1 => cases hv
  | case2 =>
    cases hv
    simp
  | case3 => cases hv
  | case4 fuel id stack visited op hop hmem ih =>
    have hmem : id ∈ visited := by simpa using hmem
    obtain ⟨hid, hrest⟩ := List.forall_mem_cons.1 howns
    rw [ih (h.skip hmem) hrest hv, List.flatMap_cons, distinct_append_append]
    intro name hname
    obtain ⟨x, hx, hcallee⟩ := exists_of_mem_calls hname
    have hvisited := (h.mem_of_reaches ha hmem hid hx).1
    exact List.mem_filterMap.2 ⟨x, List.mem_reverse.2 hvisited, hcallee⟩
  | case5 fuel id stack visited op hop hmem ih =>
    obtain ⟨hid, hrest⟩ := List.forall_mem_cons.1 howns
    have hbeneath : ∀ o ∈ op.operands, a.OwnsBeneath o := fun o ho => hid.operand hop ho
    have holder : ∀ o ∈ op.operands, o.index < id.index := by
      intro o ho
      have howned := Option.eq_some_of_isSome (owns_iff.1 (hbeneath o ho o .root))
      exact ha hop o ho (owned_of_get? howned).1
    rw [ih (h.visit hop holder) (List.forall_mem_append.2 ⟨hbeneath, hrest⟩) hv,
      List.reverse_cons, List.flatMap_cons, calls_eq ha hid hop, List.flatMap_append]
    cases hcallee : op.callee? <;> simp [ownCalls, hop, hcallee]

/-- A walk returns if and only if everything reachable from its root is owned. -/
theorem exists_subtree_iff : (∃ ids, a.subtree root = .ok ids) ↔ a.OwnsBeneath root := by
  constructor
  · rintro ⟨ids, hids⟩ id hid
    exact owns_iff.2 (subtree_reaches hids hid).2
  · intro h
    obtain ⟨ids, hids, -⟩ := exists_subtree fun id hid => owns_iff.1 (h id hid)
    exact ⟨ids, hids⟩

/-- **The names called from an operator on are found in the order of their first occurrence.** -/
theorem calledNames_eq [DecidableEq N] (ha : a.Ordered) (h : a.OwnsBeneath root) :
    a.calledNames root = .ok (distinct [] (a.calls root)) := by
  obtain ⟨ids, hids⟩ := exists_subtree_iff.2 h
  have hwalk : distinct [] (a.ownCalls ids) = distinct [] (a.calls root) := by
    have hsettling : a.Settling [root] [] := nofun
    rw [visit_calls ha hsettling (by simpa using h) (by rw [visit_eq_subtree, hids])]
    simp [ownCalls]
  rw [calledNames, hids, ← hwalk]
  rfl

/-! ## What is reported -/

/-- **What is wrong first with a set of rules.** Heads are looked at before the start symbol, this
before foreign operators, and these before calls of rules that are not there; within each of these,
rules are looked at in order, and the names that one calls depth first from left to right. -/
inductive Fault (a : Arena K N T) (start : N) (rules : List (Rule N)) : GrammarError K N → Prop
  /-- The head of a rule is that of an earlier one, and no earlier head is. -/
  | duplicateRule {before after : List (Rule N)} {rule : Rule N} : rules = before ++ rule :: after →
      (before.map (·.head)).Nodup → rule.head ∈ before.map (·.head) →
      Fault a start rules (.duplicateRule rule.head)
  | missingStartRule : (rules.map (·.head)).Nodup → start ∉ rules.map (·.head) →
      Fault a start rules (.missingStartRule start)
  /-- A rule reaches an operator of another arena, and no earlier rule does. -/
  | foreignOperator {before after : List (Rule N)} {rule : Rule N} :
      (rules.map (·.head)).Nodup → start ∈ rules.map (·.head) → rules = before ++ rule :: after →
      (∀ r ∈ before, a.OwnsBeneath r.body) → ¬ a.OwnsBeneath rule.body →
      Fault a start rules (.foreignOperator rule.head)
  /-- A rule calls a name that is no head, and calls none before, nor does an earlier rule. -/
  | undefinedRule {before after : List (Rule N)} {rule : Rule N} {calls others : List N} {name : N} :
      (rules.map (·.head)).Nodup → start ∈ rules.map (·.head) →
      (∀ r ∈ rules, a.OwnsBeneath r.body) → rules = before ++ rule :: after →
      (∀ r ∈ before, ∀ called ∈ a.calls r.body, called ∈ rules.map (·.head)) →
      a.calls rule.body = calls ++ name :: others →
      (∀ called ∈ calls, called ∈ rules.map (·.head)) → name ∉ rules.map (·.head) →
      Fault a start rules (.undefinedRule rule.head name)

section Reported

variable [DecidableEq N] {start : N} {rules : List (Rule N)} {rule : Rule N}

/-- The first head that repeats an earlier one belongs to the first rule that does. -/
theorem firstRepeated?_heads {head : N} :
    firstRepeated? [] (rules.map (·.head)) = some head ↔
      ∃ before rule after, rules = before ++ rule :: after ∧ (before.map (·.head)).Nodup ∧
        rule.head ∈ before.map (·.head) ∧ rule.head = head := by
  rw [firstRepeated?_eq_some_iff]
  constructor
  · rintro ⟨heads, others, hrules, hnodup, -, hmem⟩
    obtain ⟨before, rest, rfl, rfl, hrest⟩ := List.map_eq_append_iff.1 hrules
    obtain ⟨rule, after, rfl, rfl, rfl⟩ := List.map_eq_cons_iff.1 hrest
    exact ⟨before, rule, after, rfl, hnodup, by simpa using hmem, rfl⟩
  · rintro ⟨before, rule, after, rfl, hnodup, hmem, rfl⟩
    exact ⟨before.map (·.head), after.map (·.head), by simp, hnodup, by simp, .inl hmem⟩

omit [DecidableEq N] in
/-- A rule reaches a foreign operator if not everything beneath its body is owned. -/
theorem reachesForeign_iff : rule.reachesForeign a ↔ ¬ a.OwnsBeneath rule.body := by
  rw [← exists_subtree_iff, Rule.reachesForeign]
  cases a.subtree rule.body <;> simp

/-- The first name that is called and not defined. -/
theorem undefinedName?_eq (ha : a.Ordered) (h : a.OwnsBeneath rule.body) (defined : List N) :
    rule.undefinedName? a defined = (a.calls rule.body).find? (· ∉ defined) := by
  rw [Rule.undefinedName?, calledNames_eq ha h]
  exact find?_distinct fun _ hname => absurd hname List.not_mem_nil

/-- **A set of rules is refused for what is wrong with it first.** -/
theorem ruleError?_eq_some_iff (ha : a.Ordered) {e : GrammarError K N} :
    a.ruleError? start rules = some e ↔ a.Fault start rules e := by
  constructor
  · intro h
    unfold ruleError? at h
    dsimp only at h
    split at h
    · next hrepeated =>
      cases h
      obtain ⟨before, rule, after, hrules, hnodup, hmem, rfl⟩ := firstRepeated?_heads.1 hrepeated
      exact .duplicateRule hrules hnodup hmem
    next hrepeated =>
    have hnodup : (rules.map (·.head)).Nodup := (firstRepeated?_eq_none.1 hrepeated).1
    split at h
    · next hstart =>
      cases h
      exact .missingStartRule hnodup hstart
    next hstart =>
    have hstart : start ∈ rules.map (·.head) := not_not.1 hstart
    split at h
    · next rule hforeign =>
      cases h
      obtain ⟨hrule, before, after, hrules, hbefore⟩ := List.find?_eq_some_iff_append.1 hforeign
      refine .foreignOperator hnodup hstart hrules (fun r hr => ?_) (reachesForeign_iff.1 hrule)
      by_contra hr'
      have hforeign := hbefore r hr
      rw [reachesForeign_iff.2 hr'] at hforeign
      cases hforeign
    next hforeign =>
    have howns : ∀ r ∈ rules, a.OwnsBeneath r.body := fun r hr => by
      by_contra hr'
      exact List.find?_eq_none.1 hforeign r hr (reachesForeign_iff.2 hr')
    obtain ⟨before, rule, after, hrules, hname, hbefore⟩ := List.findSome?_eq_some_iff.1 h
    have hmem : rule ∈ rules := hrules ▸ List.mem_append_right _ List.mem_cons_self
    rw [undefinedName?_eq ha (howns rule hmem)] at hname
    obtain ⟨name, hfirst, rfl⟩ := Option.map_eq_some_iff.1 hname
    obtain ⟨hundefined, calls, others, hcalls, hdefined⟩ := List.find?_eq_some_iff_append.1 hfirst
    refine .undefinedRule hnodup hstart howns hrules (fun r hr => ?_) hcalls
      (by simpa using hdefined) (by simpa using hundefined)
    have hr' : r ∈ rules := hrules ▸ List.mem_append_left _ hr
    have hnone := hbefore r hr
    rw [Option.map_eq_none_iff, undefinedName?_eq ha (howns r hr'), List.find?_eq_none] at hnone
    simpa using hnone
  · intro h
    have hnone : ∀ {l : List (Rule N)}, (l.map (·.head)).Nodup →
        firstRepeated? [] (l.map (·.head)) = none :=
      fun hnodup => firstRepeated?_eq_none.2 ⟨hnodup, by simp⟩
    unfold ruleError?
    dsimp only
    cases h with
    | duplicateRule hrules hnodup hmem =>
      rw [firstRepeated?_heads.2 ⟨_, _, _, hrules, hnodup, hmem, rfl⟩]
    | missingStartRule hnodup hstart =>
      rw [hnone hnodup]
      exact if_pos hstart
    | @foreignOperator before after rule hnodup hstart hrules hbefore hrule =>
      have hfind : rules.find? (·.reachesForeign a) = some rule := by
        refine List.find?_eq_some_iff_append.2
          ⟨reachesForeign_iff.2 hrule, before, after, hrules, fun r hr => ?_⟩
        have hr' := mt reachesForeign_iff.1 (not_not.2 (hbefore r hr))
        simpa using hr'
      rw [hnone hnodup]
      dsimp only
      rw [if_neg (not_not.2 hstart), hfind]
    | @undefinedRule before after rule calls others name hnodup hstart howns hrules hbefore hcalls
        hdefined hundefined =>
      have hfind : rules.find? (·.reachesForeign a) = none := by
        refine List.find?_eq_none.2 fun r hr hforeign => ?_
        exact reachesForeign_iff.1 hforeign (howns r hr)
      rw [hnone hnodup]
      dsimp only
      rw [if_neg (not_not.2 hstart), hfind]
      have hmem : rule ∈ rules := hrules ▸ List.mem_append_right _ List.mem_cons_self
      refine List.findSome?_eq_some_iff.2 ⟨before, rule, after, hrules, ?_, fun r hr => ?_⟩
      · rw [undefinedName?_eq ha (howns rule hmem), Option.map_eq_some_iff]
        refine ⟨name, List.find?_eq_some_iff_append.2 ⟨by simpa using hundefined, calls, others,
          hcalls, by simpa using hdefined⟩, rfl⟩
      · have hr' : r ∈ rules := hrules ▸ List.mem_append_left _ hr
        rw [Option.map_eq_none_iff, undefinedName?_eq ha (howns r hr'), List.find?_eq_none]
        simpa using hbefore r hr

/-- Nothing is wrong with a set of rules if heads are distinct, the start symbol is one of them, all
beneath the bodies is owned, and all that is called from there is a head. -/
theorem ruleError?_eq_none_iff_calls (ha : a.Ordered) :
    a.ruleError? start rules = none ↔
      (rules.map (·.head)).Nodup ∧ start ∈ rules.map (·.head) ∧
      (∀ rule ∈ rules, a.OwnsBeneath rule.body) ∧
      ∀ rule ∈ rules, ∀ name ∈ a.calls rule.body, name ∈ rules.map (·.head) := by
  constructor
  · intro h
    obtain ⟨hnodup, hstart, hclosed⟩ := ruleError?_eq_none_iff.1 h
    refine ⟨hnodup, hstart, fun rule hrule id hid => ?_, fun rule hrule name hname => ?_⟩
    · obtain ⟨op, hop, -⟩ := hclosed rule hrule id hid
      exact owns_iff.2 (hop ▸ rfl)
    · obtain ⟨id, hid, hcallee⟩ := exists_of_mem_calls hname
      obtain ⟨op, hop, hdefined⟩ := hclosed rule hrule id hid
      exact hdefined name (by simpa [hop] using hcallee)
  · rintro ⟨hnodup, hstart, howns, hcalls⟩
    by_contra hne
    obtain ⟨e, he⟩ := Option.ne_none_iff_exists'.1 hne
    cases (ruleError?_eq_some_iff ha).1 he with
    | @duplicateRule before after rule hrules _ hmem =>
      rw [hrules, List.map_append, List.map_cons, List.nodup_append] at hnodup
      exact hnodup.2.2 _ hmem _ List.mem_cons_self rfl
    | missingStartRule _ hmissing => exact hmissing hstart
    | @foreignOperator before after rule _ _ hrules _ hforeign =>
      exact hforeign (howns rule (hrules ▸ List.mem_append_right _ List.mem_cons_self))
    | @undefinedRule before after rule calls others name _ _ _ hrules _ hcalled _ hundefined =>
      have hrule : rule ∈ rules := hrules ▸ List.mem_append_right _ List.mem_cons_self
      have hname : name ∈ a.calls rule.body :=
        hcalled ▸ List.mem_append_right _ List.mem_cons_self
      exact hundefined (hcalls rule hrule name hname)

end Reported

end Arena

/-! ## What is accepted -/

namespace Builder

variable [DecidableEq N] {b : Builder K N T}

/-- A set of rules is accepted if nothing is wrong with it. -/
theorem exists_build_iff {start : N} {rules : List (Rule N)} :
    (∃ g, b.build start rules = .ok g) ↔ b.arena.ruleError? start rules = none := by
  unfold build
  split
  · next h => simp [h]
  · next h => simp [h]

/-- A set of rules is refused for what is wrong with it. -/
theorem build_eq_error_iff {start : N} {rules : List (Rule N)} {e : GrammarError K N} :
    b.build start rules = .error e ↔ b.arena.ruleError? start rules = some e := by
  unfold build
  split
  · next h => simp [h]
  · next h => simp [h]

/-- **A builder accepts just the closed sets of rules**: heads are distinct, the start symbol is one
of them, everything reachable from the body of a rule is an operator of the builder, and calls a
rule that is there. Any other set of rules is refused for what is wrong with it first. -/
theorem build_validates (hb : b.Made) (start : N) (rules : List (Rule N)) :
    ((∃ g, b.build start rules = .ok g) ↔
      (rules.map (·.head)).Nodup ∧ start ∈ rules.map (·.head) ∧
      (∀ rule ∈ rules, ∀ id, b.arena.Reaches rule.body id → b.arena.owns id) ∧
      (∀ rule ∈ rules, ∀ id name, b.arena.Reaches rule.body id →
        b.arena.get? id = some (.nonTerminal name) → name ∈ rules.map (·.head))) ∧
    ∀ e, b.build start rules = .error e ↔ b.arena.Fault start rules e := by
  refine ⟨?_, fun e => ?_⟩
  · rw [exists_build_iff, Arena.ruleError?_eq_none_iff]
    refine and_congr_right fun _ => and_congr_right fun _ => ?_
    constructor
    · intro h
      refine ⟨fun rule hrule id hid => ?_, fun rule hrule id name hid hget => ?_⟩
      · obtain ⟨op, hop, -⟩ := h rule hrule id hid
        exact Arena.owns_iff.2 (hop ▸ rfl)
      · obtain ⟨op, hop, hcallee⟩ := h rule hrule id hid
        rw [hget] at hop
        cases hop
        exact hcallee name rfl
    · rintro ⟨howns, hdefined⟩ rule hrule id hid
      obtain ⟨op, hop⟩ := Option.isSome_iff_exists.1 (Arena.owns_iff.1 (howns rule hrule id hid))
      refine ⟨op, hop, fun name hname => hdefined rule hrule id name hid ?_⟩
      cases op <;> cases hname
      exact hop
  · rw [build_eq_error_iff, Arena.ruleError?_eq_some_iff hb.ordered]

/-- A builder with the operators of `([B] | [x]) [C] [B]`, where `B` and `C` are called. -/
def callers : Builder Char Char Unit :=
  .of [.terminal 'x', .nonTerminal 'B', .nonTerminal 'C', .orderedChoice [⟨0, 1⟩, ⟨0, 0⟩],
    .sequence [⟨0, 3⟩, ⟨0, 2⟩, ⟨0, 1⟩]]

/-- Without rules for `B` and `C`, the call of `B` comes first; with both, and with a rule whose
body is a stranger, the stranger is reported; and with both alone, the rules are closed. -/
theorem build_validates_callers :
    callers.Made ∧
    callers.arena.Fault 'S' [⟨'A', ⟨0, 0⟩⟩, ⟨'S', ⟨0, 4⟩⟩] (.undefinedRule 'S' 'B') ∧
    callers.arena.Fault 'S' [⟨'S', ⟨0, 4⟩⟩, ⟨'B', ⟨1, 0⟩⟩] (.foreignOperator 'B') ∧
    ∃ g, callers.build 'S' [⟨'S', ⟨0, 4⟩⟩, ⟨'B', ⟨0, 0⟩⟩, ⟨'C', ⟨0, 0⟩⟩] = .ok g := by
  have hmade : callers.Made := made_of (by decide)
  refine ⟨hmade, ?_, ?_, _, rfl⟩
  · exact ((build_validates hmade _ _).2 _).1 rfl
  · exact ((build_validates hmade _ _).2 _).1 rfl

end Builder

end Packrat
