import Packrat.Proofs.Validation

/-!
# The walk through an arena is a preorder

`Arena.subtree` keeps a stack of what is left to visit, and an id is marked when it is taken from
the stack: an operand that several operators share can lie on it more than once. The walk lists what
the recursive search from left to right meets (`Arena.search`): an id that has been met is passed
over, another one is met and then its operands are searched, in turn.

`Arena.visit_eq_report` is the invariant of the walk: what is left to do is to search the ids on the
stack one after the other. What the search meets (`Arena.preorder`) is all that is reachable, each
id once, and the walk reports the first foreign one of them (`Arena.subtree_preorder`). This holds
of every arena, also of one whose operators use each other in a circle.
-/

namespace Packrat

variable {K N T : Type}

namespace Arena

variable {a : Arena K N T} {root id x : NodeId} {depth : Nat} {met : List NodeId}

/-! ## The recursive search -/

/-- The operands of the operator at an id; a foreign id has none. -/
def operandsAt (a : Arena K N T) (id : NodeId) : List NodeId := (a.get? id).elim [] (·.operands)

/-- The recursive search, from left to right, down to the given depth: an id that has been met is
passed over, another one is met, and then its operands are searched. The ids that have been met are
listed in the order of the first meeting. -/
def search (a : Arena K N T) : (depth : Nat) → (met : List NodeId) → (id : NodeId) → List NodeId
  | 0, met, id => if id ∈ met then met else met ++ [id]
  | depth + 1, met, id =>
    if id ∈ met then met else (a.operandsAt id).foldl (a.search depth) (met ++ [id])

/-- What the search from an id meets, to a depth that is enough for the whole arena. -/
def preorder (a : Arena K N T) (root : NodeId) : List NodeId := a.search a.size [] root

/-- The first foreign id of a list, or the list if there is none. -/
def report (a : Arena K N T) (ids : List NodeId) : Except NodeId (List NodeId) :=
  match ids.find? fun id => !a.owns id with
  | some id => .error id
  | none => .ok ids

theorem operandsAt_of_get? {op : Operator K N NodeId} (h : a.get? id = some op) :
    a.operandsAt id = op.operands := by
  simp [operandsAt, h]

theorem operandsAt_of_not_owns (h : ¬ a.owns id) : a.operandsAt id = [] := by
  rw [owns_iff, Option.not_isSome_iff_eq_none] at h
  simp [operandsAt, h]

/-- What is reachable has its operands reachable. -/
theorem Reaches.operandsAt (h : a.Reaches root id) : ∀ o ∈ a.operandsAt id, a.Reaches root o := by
  intro o ho
  cases hop : a.get? id with
  | none => simp [Arena.operandsAt, hop] at ho
  | some op =>
    rw [operandsAt_of_get? hop] at ho
    exact h.operand hop ho

/-- An id that has been met is passed over. -/
theorem search_of_mem (h : id ∈ met) (depth : Nat) : a.search depth met id = met := by
  cases depth <;> simp [search, h]

/-- Searches one after the other relate the list that they start with to the one they return, if
each search does. -/
theorem foldl_search_rel {R : List NodeId → List NodeId → Prop} (hrefl : ∀ l, R l l)
    (htrans : ∀ {l m n}, R l m → R m n → R l n) {ids : List NodeId}
    (h : ∀ id ∈ ids, ∀ l, R l (a.search depth l id)) (met : List NodeId) :
    R met (ids.foldl (a.search depth) met) := by
  induction ids generalizing met with
  | nil => exact hrefl met
  | cons id ids ih =>
    obtain ⟨hid, hids⟩ := List.forall_mem_cons.1 h
    exact htrans (hid met) (ih hids _)

/-- A search relates the list that it starts with to the one it returns, as soon as meeting one more
id is a step of the relation. -/
theorem search_rel {R : List NodeId → List NodeId → Prop} (hrefl : ∀ l, R l l)
    (htrans : ∀ {l m n}, R l m → R m n → R l n)
    (hmeet : ∀ met x, a.Reaches root x → x ∉ met → R met (met ++ [x]))
    (hid : a.Reaches root id) : R met (a.search depth met id) := by
  induction depth generalizing met id with
  | zero =>
    rw [search]
    split
    · exact hrefl met
    · next hmem => exact hmeet met id hid hmem
  | succ depth ih =>
    rw [search]
    split
    · exact hrefl met
    · next hmem =>
      have hops : ∀ o ∈ a.operandsAt id, ∀ l, R l (a.search depth l o) := fun o ho l =>
        ih (hid.operandsAt o ho)
      exact htrans (hmeet met id hid hmem) (foldl_search_rel hrefl htrans hops _)

/-- What has been met before stays at the front. -/
theorem isPrefix_search (a : Arena K N T) (depth : Nat) (met : List NodeId) (id : NodeId) :
    met <+: a.search depth met id :=
  search_rel (R := (· <+: ·)) (fun _ => List.prefix_rfl) List.IsPrefix.trans
    (fun met x _ _ => List.prefix_append met [x]) .root

theorem isPrefix_foldl_search (a : Arena K N T) (depth : Nat) (ids met : List NodeId) :
    met <+: ids.foldl (a.search depth) met :=
  foldl_search_rel (R := (· <+: ·)) (fun _ => List.prefix_rfl) List.IsPrefix.trans
    (fun id _ l => a.isPrefix_search depth l id) met

/-- The id itself is met. -/
theorem mem_search_self (a : Arena K N T) (depth : Nat) (met : List NodeId) (id : NodeId) :
    id ∈ a.search depth met id := by
  by_cases hmem : id ∈ met
  · exact (a.isPrefix_search depth met id).subset hmem
  · cases depth with
    | zero => simp [search, hmem]
    | succ depth =>
      rw [search, if_neg hmem]
      exact (a.isPrefix_foldl_search depth _ _).subset (by simp)

/-- What is searched from, one id after the other, is met. -/
theorem mem_foldl_search {ids : List NodeId} (h : id ∈ ids) (depth : Nat) (met : List NodeId) :
    id ∈ ids.foldl (a.search depth) met := by
  induction ids generalizing met with
  | nil => cases h
  | cons o ids ih =>
    rcases List.mem_cons.1 h with rfl | h
    · exact (a.isPrefix_foldl_search depth ids _).subset (a.mem_search_self depth met id)
    · exact ih h _

/-- Every id is met once. -/
theorem nodup_search (h : met.Nodup) : (a.search depth met id).Nodup := by
  refine search_rel (R := fun l m => l.Nodup → m.Nodup) (fun _ h => h) (fun h h' => h' ∘ h) ?_
    (Reaches.root : a.Reaches id id) h
  intro met x _ hx hmet
  rw [List.nodup_append]
  refine ⟨hmet, List.nodup_singleton x, ?_⟩
  intro y hy z hz
  rw [List.mem_singleton.1 hz]
  rintro rfl
  exact hx hy

/-- What the search meets is reachable. -/
theorem reaches_of_mem_search (h : x ∈ a.search depth met id) : x ∈ met ∨ a.Reaches id x := by
  refine search_rel (R := fun l m => ∀ y ∈ m, y ∈ l ∨ a.Reaches id y) (fun _ y hy => .inl hy) ?_ ?_
    .root x h
  · intro l m n hlm hmn y hy
    rcases hmn y hy with hy | hy
    · exact hlm y hy
    · exact .inr hy
  · intro met y hid _ z hz
    rcases List.mem_append.1 hz with hz | hz
    · exact .inl hz
    · rw [List.mem_singleton.1 hz]
      exact .inr hid

/-! ## How deep the search goes -/

/-- The number of operators that have not been met. -/
def unmet (a : Arena K N T) (met : List NodeId) : Nat := (a.ids.filter (· ∉ met)).length

/-- Nothing is forgotten. -/
theorem unmet_antitone {met' : List NodeId} (h : met <+: met') : a.unmet met' ≤ a.unmet met := by
  refine (List.monotone_filter_right _ ?_).length_le
  intro x hx
  simp only [decide_eq_true_eq] at hx ⊢
  exact fun hmem => hx (h.subset hmem)

/-- Meeting an operator leaves one fewer. -/
theorem unmet_concat (hown : a.owns id) (h : id ∉ met) :
    a.unmet (met ++ [id]) + 1 = a.unmet met := by
  have hids : id ∈ a.ids.filter (· ∉ met) := by
    have howned : id ∈ a.ids := mem_ids_iff.2 (owns_iff.1 hown)
    simp [howned, h]
  have hrest : a.ids.filter (· ∉ met ++ [id]) = (a.ids.filter (· ∉ met)).erase id := by
    rw [(a.nodup_ids.filter _).erase_eq_filter, List.filter_filter]
    refine List.filter_congr fun x _ => ?_
    by_cases hxid : x = id <;> simp [hxid]
  have hpos := List.length_pos_of_mem hids
  rw [unmet, unmet, hrest, List.length_erase_of_mem hids]
  omega

/-- A search that can go as deep as there are operators left to be met does not use more depth. -/
theorem search_succ (h : a.unmet met ≤ depth) :
    a.search (depth + 1) met id = a.search depth met id := by
  induction depth generalizing met id with
  | zero =>
    by_cases hmem : id ∈ met
    · rw [search_of_mem hmem, search_of_mem hmem]
    · have hown : ¬ a.owns id := by
        intro hown
        have := unmet_concat hown hmem
        omega
      simp [search, hmem, operandsAt_of_not_owns hown]
  | succ depth ih =>
    by_cases hmem : id ∈ met
    · rw [search_of_mem hmem, search_of_mem hmem]
    rw [search, if_neg hmem, search, if_neg hmem]
    by_cases hown : a.owns id
    · have hops : ∀ (os l : List NodeId), a.unmet l ≤ depth →
          os.foldl (a.search (depth + 1)) l = os.foldl (a.search depth) l := by
        intro os
        induction os with
        | nil => intro l _; rfl
        | cons o os iho =>
          intro l hl
          rw [List.foldl_cons, List.foldl_cons, ih hl]
          exact iho _ ((unmet_antitone (a.isPrefix_search depth l o)).trans hl)
      refine hops _ _ ?_
      have := unmet_concat hown hmem
      omega
    · rw [operandsAt_of_not_owns hown, List.foldl_nil, List.foldl_nil]

/-- **The recursion of the search**, without a bound on the depth. -/
theorem search_eq (a : Arena K N T) (met : List NodeId) (id : NodeId) :
    a.search a.size met id =
      if id ∈ met then met else (a.operandsAt id).foldl (a.search a.size) (met ++ [id]) := by
  have hle : a.unmet met ≤ a.size := (List.length_filter_le _ _).trans (by simp [ids])
  rw [← search_succ hle, search]

/-- With an operator that has been met, its operands have been met by the end. -/
theorem operandsAt_subset_search (hx : x ∈ a.search a.size met id) :
    x ∈ met ∨ ∀ o ∈ a.operandsAt x, o ∈ a.search a.size met id := by
  induction hn : a.unmet met using Nat.strong_induction_on generalizing met id x with
  | _ n ih =>
    by_cases hmem : id ∈ met
    · rw [search_of_mem hmem] at hx
      exact .inl hx
    by_cases hown : a.owns id
    · -- The operands are searched one after the other, and each search is complete by itself.
      have hops : ∀ (os l : List NodeId), a.unmet l < n → ∀ y ∈ os.foldl (a.search a.size) l,
          y ∈ l ∨ ∀ o ∈ a.operandsAt y, o ∈ os.foldl (a.search a.size) l := by
        intro os
        induction os with
        | nil => intro l _ y hy; exact .inl hy
        | cons o os iho =>
          intro l hl y hy
          have hle : a.unmet (a.search a.size l o) ≤ a.unmet l :=
            unmet_antitone (a.isPrefix_search a.size l o)
          rcases iho (a.search a.size l o) (by omega) y hy with hy | hy
          · rcases ih _ hl hy rfl with hy | hy
            · exact .inl hy
            · exact .inr fun p hp => (a.isPrefix_foldl_search _ os _).subset (hy p hp)
          · exact .inr hy
      rw [search_eq, if_neg hmem] at hx ⊢
      have hlt := unmet_concat hown hmem
      rcases hops _ _ (by omega) x hx with hx | hx
      · rcases List.mem_append.1 hx with hx | hx
        · exact .inl hx
        · rw [List.mem_singleton.1 hx]
          exact .inr fun o ho => mem_foldl_search ho _ _
      · exact .inr hx
    · rw [search_eq, if_neg hmem, operandsAt_of_not_owns hown, List.foldl_nil] at hx ⊢
      rcases List.mem_append.1 hx with hx | hx
      · exact .inl hx
      · rw [List.mem_singleton.1 hx, operandsAt_of_not_owns hown]
        exact .inr (by simp)

/-! ## What the search meets -/

/-- The search meets its root first. -/
theorem head?_preorder (a : Arena K N T) (root : NodeId) : (a.preorder root).head? = some root := by
  obtain ⟨rest, hrest⟩ : [root] <+: a.preorder root := by
    rw [preorder, search_eq, if_neg List.not_mem_nil]
    exact a.isPrefix_foldl_search _ _ _
  rw [← hrest]
  rfl

/-- **The search meets what is reachable.** -/
theorem mem_preorder : id ∈ a.preorder root ↔ a.Reaches root id := by
  constructor
  · intro h
    exact (reaches_of_mem_search h).resolve_left List.not_mem_nil
  · intro h
    induction h with
    | root => exact a.mem_search_self _ _ _
    | @operand id o op _ hop ho ih =>
      have hops := (operandsAt_subset_search ih).resolve_left List.not_mem_nil
      rw [operandsAt_of_get? hop] at hops
      exact hops o ho

theorem nodup_preorder (a : Arena K N T) (root : NodeId) : (a.preorder root).Nodup :=
  nodup_search List.nodup_nil

/-! ## The walk -/

/-- A list of operators of the arena is reported as it is. -/
theorem report_eq_ok_iff {ids ids' : List NodeId} :
    a.report ids = .ok ids' ↔ ids' = ids ∧ ∀ id ∈ ids, a.owns id := by
  rw [report]
  split
  · next id hid =>
    have hid' := List.find?_some hid
    simp only [reduceCtorEq, false_iff, not_and]
    intro _ h
    simp [h id (List.mem_of_find?_eq_some hid)] at hid'
  · next hnone =>
    have hall : ∀ id ∈ ids, a.owns id := by simpa using List.find?_eq_none.1 hnone
    constructor
    · intro h
      cases h
      exact ⟨rfl, hall⟩
    · rintro ⟨rfl, -⟩
      rfl

/-- The error is the first foreign id. -/
theorem report_eq_error_iff {ids : List NodeId} : a.report ids = .error id ↔
    ∃ before after, ids = before ++ id :: after ∧ (∀ x ∈ before, a.owns x) ∧ ¬ a.owns id := by
  rw [report]
  split
  · next x hx =>
    have hx' := hx
    rw [List.find?_eq_some_iff_append] at hx'
    obtain ⟨hown, before, after, hids, hbefore⟩ := hx'
    simp only [Bool.not_not] at hbefore
    constructor
    · intro h
      cases h
      exact ⟨before, after, hids, hbefore, by simpa using hown⟩
    · rintro ⟨before', after', hids', hbefore', hown'⟩
      have hfind : ids.find? (fun id => !a.owns id) = some id := by
        refine List.find?_eq_some_iff_append.2 ⟨by simpa using hown', before', after', hids', ?_⟩
        simpa using hbefore'
      rw [hx] at hfind
      cases hfind
      rfl
  · next hnone =>
    simp only [reduceCtorEq, false_iff]
    rintro ⟨before, after, rfl, -, hown⟩
    have hall := List.find?_eq_none.1 hnone id (by simp)
    exact hown (by simpa using hall)

/-- **What is left of a walk**: to search the ids on the stack, the top first. -/
theorem visit_eq_report {fuel : Nat} {stack visited : List NodeId}
    (hvisited : ∀ id ∈ visited, a.owns id) (hfuel : stack.length + a.pending visited < fuel) :
    a.visit fuel stack visited =
      some (a.report (stack.foldl (a.search a.size) visited.reverse)) := by
  fun_induction a.visit fuel stack visited with
  | case1 => omega
  | case2 fuel visited =>
    have hall : ∀ id ∈ visited.reverse, a.owns id := by simpa using hvisited
    exact congrArg some (report_eq_ok_iff.2 ⟨rfl, hall⟩).symm
  | case3 fuel id stack visited hget =>
    have hown : ¬ a.owns id := by simp [owns_iff, hget]
    have hmem : id ∉ visited.reverse := fun h => hown (hvisited id (List.mem_reverse.1 h))
    -- The search goes on behind the foreign id, but the report stops there.
    obtain ⟨after, hafter⟩ := a.isPrefix_foldl_search a.size stack (visited.reverse ++ [id])
    rw [List.foldl_cons, search_eq, if_neg hmem, operandsAt_of_not_owns hown, List.foldl_nil]
    refine congrArg some (report_eq_error_iff.2 ⟨visited.reverse, after, ?_, ?_, hown⟩).symm
    · rw [← hafter, List.append_assoc]
      rfl
    · simpa using hvisited
  | case4 fuel id stack visited op hop hmem ih =>
    have hmem : id ∈ visited.reverse := by simpa using hmem
    rw [List.length_cons] at hfuel
    rw [ih hvisited (by omega), List.foldl_cons, search_of_mem hmem]
  | case5 fuel id stack visited op hop hmem ih =>
    have hmem : id ∉ visited := by simpa using hmem
    have hids : id ∈ a.ids := mem_ids_iff.2 (hop ▸ rfl)
    have hpending := pending_cons hids hmem
    have harity : a.arity id = op.operands.length := by simp [arity, hop]
    rw [List.length_cons] at hfuel
    have hvisited' : ∀ x ∈ id :: visited, a.owns x :=
      List.forall_mem_cons.2 ⟨owns_iff.2 (hop ▸ rfl), hvisited⟩
    rw [ih hvisited' (by rw [List.length_append]; omega), List.foldl_append, List.foldl_cons,
      search_eq a visited.reverse, if_neg (by simpa using hmem), operandsAt_of_get? hop,
      List.reverse_cons]

/-- The walk comes to an end and reports what the recursive search meets; more fuel does not change
it. -/
theorem visit_root {fuel : Nat} (hfuel : a.edgeCount + 2 ≤ fuel) :
    a.visit fuel [root] [] = some (a.report (a.preorder root)) := by
  have hpending : [root].length + a.pending [] < fuel := by
    rw [pending_nil, List.length_singleton]
    omega
  exact visit_eq_report (by simp) hpending

/-- So what the arena says is reachable is what the search meets. -/
theorem subtree_eq_report (a : Arena K N T) (root : NodeId) :
    a.subtree root = a.report (a.preorder root) :=
  Option.some.inj ((a.visit_eq_subtree root).symm.trans (visit_root (Nat.le_refl _)))

/-! ## The names that are called -/

/-- The names that are called come in the order in which they are called first. -/
theorem pairwise_distinct {β : Type} [DecidableEq β] (l : List β) :
    ∀ seen, (distinct seen l).Pairwise fun x y => l.idxOf x < l.idxOf y := by
  induction l with
  | nil => simp [distinct]
  | cons z rest ih =>
    intro seen
    have hrest : ∀ seen', z ∈ seen' → (distinct seen' rest).Pairwise fun x y =>
        (z :: rest).idxOf x < (z :: rest).idxOf y := by
      intro seen' hz
      refine (ih seen').imp_of_mem ?_
      intro x y hx hy hxy
      have hx : z ≠ x := fun h => (mem_distinct.1 hx).2 (h ▸ hz)
      have hy : z ≠ y := fun h => (mem_distinct.1 hy).2 (h ▸ hz)
      rw [List.idxOf_cons_ne _ hx, List.idxOf_cons_ne _ hy]
      omega
    rw [distinct]
    split
    · next hz => exact hrest seen hz
    · refine List.pairwise_cons.2 ⟨fun y hy => ?_, hrest _ List.mem_cons_self⟩
      have hy : z ≠ y := fun h => (mem_distinct.1 hy).2 (h ▸ List.mem_cons_self)
      rw [List.idxOf_cons_self, List.idxOf_cons_ne _ hy]
      omega

/-- The names called along a walk: each once, in the order in which they are called first. -/
theorem calledNames_eq_ok [DecidableEq N] {names : List N} (h : a.calledNames root = .ok names) :
    (∀ name, name ∈ names ↔ ∃ id, a.Reaches root id ∧ a.get? id = some (.nonTerminal name)) ∧
      names.Nodup ∧ names.Pairwise fun name name' =>
        (a.ownCalls (a.preorder root)).idxOf name < (a.ownCalls (a.preorder root)).idxOf name' := by
  rw [calledNames, subtree_eq_report] at h
  split at h
  · cases h
  · next ids hids =>
    obtain ⟨rfl, -⟩ := report_eq_ok_iff.1 hids
    cases h
    have hordered := pairwise_distinct (a.ownCalls (a.preorder root)) []
    refine ⟨fun name => ?_, hordered.imp ?_, hordered⟩
    · rw [mem_distinct, List.mem_filterMap]
      simp only [mem_preorder, List.not_mem_nil, not_false_eq_true, and_true]
      refine exists_congr fun id => and_congr_right fun _ => ?_
      cases hop : a.get? id with
      | none => simp
      | some op => cases op <;> simp [Operator.callee?]
    · intro name name' hlt heq
      rw [heq] at hlt
      omega

/-- **A walk is a depth-first preorder.** The recursive search from left to right passes over what
it has met; from any root, in any arena, it meets all that is reachable, each id once, and its root
first. The walk with a stack comes to an end within its bound on the steps, and lists the same: it
stops just when a foreign id is reachable, at the first one that the search meets. So the rules
called from an operator are listed once each, in the order in which the search comes upon them. -/
theorem subtree_preorder [DecidableEq N] (a : Arena K N T) (root : NodeId) :
    (∀ met id, a.search a.size met id =
      if id ∈ met then met else (a.operandsAt id).foldl (a.search a.size) (met ++ [id])) ∧
    (a.preorder root).head? = some root ∧ (a.preorder root).Nodup ∧
    (∀ id, id ∈ a.preorder root ↔ a.Reaches root id) ∧
    (∀ fuel, a.edgeCount + 2 ≤ fuel → a.visit fuel [root] [] = some (a.subtree root)) ∧
    (∀ ids, a.subtree root = .ok ids ↔
      ids = a.preorder root ∧ ∀ id, a.Reaches root id → a.owns id) ∧
    (∀ id, a.subtree root = .error id ↔ ∃ before after, a.preorder root = before ++ id :: after ∧
      (∀ x ∈ before, a.owns x) ∧ ¬ a.owns id) ∧
    ((∃ id, a.subtree root = .error id) ↔ ∃ id, a.Reaches root id ∧ ¬ a.owns id) ∧
    (∀ id, a.calledNames root = .error id ↔ a.subtree root = .error id) ∧
    ∀ names, a.calledNames root = .ok names →
      (∀ name, name ∈ names ↔ ∃ id, a.Reaches root id ∧ a.get? id = some (.nonTerminal name)) ∧
      names.Nodup ∧ names.Pairwise fun name name' =>
        (a.ownCalls (a.preorder root)).idxOf name < (a.ownCalls (a.preorder root)).idxOf name' := by
  have hwalk : a.subtree root = a.report (a.preorder root) := a.subtree_eq_report root
  refine ⟨a.search_eq, a.head?_preorder root, a.nodup_preorder root, fun _ => mem_preorder,
    fun fuel hfuel => (visit_root hfuel).trans (congrArg some hwalk.symm), fun ids => ?_,
    fun id => ?_, ?_, fun id => ?_, fun names => calledNames_eq_ok⟩
  · rw [hwalk, report_eq_ok_iff]
    simp only [mem_preorder]
  · rw [hwalk, report_eq_error_iff]
  · have howns : (∃ ids, a.subtree root = .ok ids) ↔ a.OwnsBeneath root := exists_subtree_iff
    cases hsub : a.subtree root with
    | ok ids =>
      have hall : ∀ id, a.Reaches root id → a.owns id := howns.1 ⟨ids, hsub⟩
      simpa using hall
    | error id =>
      have hforeign : ¬ a.OwnsBeneath root := by
        intro h
        obtain ⟨ids, hids⟩ := howns.2 h
        rw [hsub] at hids
        cases hids
      simpa [OwnsBeneath] using hforeign
  · rw [calledNames]
    split
    · next id' hid' => simp [hid']
    · next ids hids => simp [hids]

/-- An operand that is shared is listed where it is met first. -/
example : ((Builder.of [.terminal 'a', .optional ⟨0, 0⟩, .sequence [⟨0, 1⟩, ⟨0, 0⟩]] :
    Builder Char Char Unit).arena.preorder ⟨0, 2⟩) = [⟨0, 2⟩, ⟨0, 1⟩, ⟨0, 0⟩] := by decide

end Arena

end Packrat
