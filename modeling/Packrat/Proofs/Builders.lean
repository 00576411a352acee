import Packrat.Proofs.Attachment
import Packrat.Proofs.Descent
import Packrat.Proofs.Layout

/-!
# Builders side by side

A program can hold many builders, and pass the ids of one to another. `Builders` are the builders of
a program in the order in which they were opened, with the ids that have been returned so far; an
`Event` opens a builder, does an operation with one, or builds a grammar, which uses the builder up.
Every builder stamps its ids with a number of its own, out of `2 ^ 32` (`Builders.stamp`). Nothing
checks the operands of an operator: what is known of them follows from the events alone, as long as
these use no ids but those that were returned before (`Builders.Sensible`).

`Builders.Coherent` is what every such event preserves while there are stamps left: each builder has
a history of its own, its ids are the returned ones that carry its stamp, and its operands are ids
that were returned. A node is never changed (`Builders.step_within`). From this the invariants of
arenas follow (`Builders.arena_invariant`): ownership separates the arenas, operators are younger
than their operands, and whatever goes from operators to operands comes to an end.
-/

namespace Packrat

variable {K N T : Type}

/-! ## The nodes and ids of an arena -/

namespace Arena

variable {a a' : Arena K N T} {id : NodeId}

/-- Each node of `a` is a node of `a'`. -/
def Within (a a' : Arena K N T) : Prop :=
  ∀ ⦃id node⦄, a.node? id = some node → a'.node? id = some node

theorem within_push (a : Arena K N T) (op : Operator K N NodeId) (action : Option (Action K T)) :
    a.Within (a.push op action).2 :=
  fun _ _ hnode => node?_push_of_eq_some hnode op action

/-- The ids of the arena are the returned ones that are stamped with its number, and its operands
are ids that have been returned. -/
structure Issued (number : Nat) (returned : List NodeId) (a : Arena K N T) : Prop where
  id : a.id = number
  ids : a.ids = returned.filter (·.arena = number)
  operands : ∀ ⦃id op⦄, a.get? id = some op → ∀ o ∈ op.operands, o ∈ returned

variable {number : Nat} {returned new : List NodeId} {op : Operator K N NodeId}

/-- What an arena owns are the ids that were returned under its number. -/
theorem Issued.owns_iff (h : a.Issued number returned) :
    a.owns id ↔ id ∈ returned ∧ id.arena = number := by
  rw [Arena.owns_iff, ← mem_ids_iff, h.ids, List.mem_filter, decide_eq_true_iff]

/-- Ids that are returned under another number do not matter. -/
theorem Issued.append (h : a.Issued number returned) (hnew : ∀ id ∈ new, id.arena ≠ number) :
    a.Issued number (returned ++ new) where
  id := h.id
  ids := by
    have hnone : new.filter (·.arena = number) = [] := by simpa [List.filter_eq_nil_iff] using hnew
    rw [List.filter_append, hnone, List.append_nil]
    exact h.ids
  operands id op hop o ho := List.mem_append_left _ (h.operands hop o ho)

/-- A new operator has the next id under the number, and operands that have been returned. -/
theorem Issued.push (h : a.Issued number returned) (hops : ∀ o ∈ op.operands, o ∈ returned)
    (action : Option (Action K T)) :
    (a.push op action).2.Issued number (returned ++ [a.idAt a.size]) where
  id := h.id
  ids := by
    rw [ids_push, h.ids, List.filter_append]
    simp [idAt, h.id]
  operands id op' hop' o ho := by
    rw [get?_push] at hop'
    refine List.mem_append_left _ ?_
    split at hop'
    · cases hop'
      exact hops o ho
    · exact h.operands hop' o ho

end Arena

/-! ## One builder -/

namespace Builder

variable {b b' : Builder K N T} {id : NodeId}

/-- What a builder makes is pushed under the next id. -/
theorem addWith_pushes {op : Operator K N NodeId} {action : Option (Action K T)}
    (h : b.addWith op action = (.ok id, b')) : id = b.nextId ∧
      b' = { b with
        arena := (b.arena.push op (if op.kind.isPredicate then none else action)).2 } := by
  unfold addWith at h
  split at h
  · cases h
    exact ⟨rfl, rfl⟩
  · cases h

/-- **A predicate of a builder has no action.** -/
theorem Made.action_eq_none (h : b.Made) {node : Node K N T} (hnode : b.arena.node? id = some node)
    (hpredicate : node.operator.kind.isPredicate) : node.action = none := by
  induction h generalizing id node with
  | new => simp [Builder.new, Arena.empty, Arena.node?, Arena.get?] at hnode
  | withRegistry _ _ ih => exact ih hnode hpredicate
  | addWith _ _ hadd ih =>
    obtain ⟨-, rfl⟩ := addWith_pushes hadd
    rcases Arena.node?_push_eq_some hnode with hold | rfl
    · exact ih hold hpredicate
    · exact if_pos hpredicate

variable [DecidableEq K] [DecidableEq N]

/-- The ids that an operation is given. -/
def Operation.operands : Operation K N T → List NodeId
  | .make operator _ => operator.operands
  | _ => []

/-- An operation that does not fail changes the registry, or makes an operator. -/
theorem perform_eq_ok {operation : Operation K N T} {id? : Option NodeId}
    (h : b.perform operation = (.ok id?, b')) :
    (id? = none ∧ ∃ registry, b' = { b with registry }) ∨
      ∃ op action id, operation.operands = op.operands ∧ id? = some id ∧
        b.addWith op action = (.ok id, b') := by
  cases operation with
  | setDefault kind action =>
    cases h
    exact .inl ⟨rfl, _, rfl⟩
  | setTag tag action =>
    rw [perform_setTag] at h
    split at h
    · cases h
    · cases h
      exact .inl ⟨rfl, _, rfl⟩
  | setName name action =>
    rw [perform_setName] at h
    split at h
    · cases h
    · cases h
      exact .inl ⟨rfl, _, rfl⟩
  | installPassthrough wrap =>
    cases h
    exact .inl ⟨rfl, _, rfl⟩
  | make op given =>
    rw [perform_make] at h
    split at h
    · next henough =>
      cases h
      refine .inr ⟨op, given.or (b.registry.forOperator op), _, rfl, rfl, ?_⟩
      rw [addWith, if_pos henough]
      rfl
    · cases h

end Builder

/-! ## Many builders -/

/-- What became of a builder: it is still there, or there is the grammar that was built from it, or
nothing if that failed. -/
inductive Slot (K N T : Type) where
  | builder (b : Builder K N T)
  | grammar (g : Grammar K N T)
  | spent

/-- The arena of a builder or grammar. -/
def Slot.arena? : Slot K N T → Option (Arena K N T)
  | .builder b => some b.arena
  | .grammar g => some g.arena
  | .spent => none

/-- The builders of a program and the grammars built from them, in the order in which the builders
were opened, and all ids that have been returned, in order. -/
structure Builders (K N T : Type) where
  slots : List (Slot K N T) := []
  returned : List NodeId := []

/-- What a program can do with builders. -/
inductive Event (K N T : Type) where
  /-- Opens a builder with a registry. -/
  | opening (registry : Registry K N T)
  /-- Does an operation with the builder that was opened after so many others. -/
  | operation (number : Nat) (operation : Builder.Operation K N T)
  /-- Builds a grammar, which uses the builder up. -/
  | build (number : Nat) (start : N) (rules : List (Rule N))

namespace Builders

/-- The number of the arena of a builder that is opened after `opened` others. Numbers begin with
one, are 32 bits wide, and begin again after the last one. -/
def stamp (opened : Nat) : Nat := (opened + 1) % 2 ^ 32

/-- The first `2 ^ 32` builders have different numbers. -/
theorem stamp_inj {m n : Nat} (hm : m < 2 ^ 32) (hn : n < 2 ^ 32) : stamp m = stamp n ↔ m = n := by
  unfold stamp
  omega

/-- The arena of the builder that was opened after so many others. -/
def arena? (w : Builders K N T) (number : Nat) : Option (Arena K N T) :=
  w.slots[number]?.bind Slot.arena?

theorem lt_of_arena? {w : Builders K N T} {number : Nat} {a : Arena K N T}
    (h : w.arena? number = some a) : number < w.slots.length := by
  obtain ⟨slot, hslot, -⟩ := Option.bind_eq_some_iff.1 h
  exact (List.getElem?_eq_some_iff.1 hslot).1

/-- The arenas after a slot has changed. -/
theorem arena?_set (w : Builders K N T) {changed : Nat} (hlt : changed < w.slots.length)
    (slot : Slot K N T) (returned : List NodeId) (number : Nat) :
    arena? ⟨w.slots.set changed slot, returned⟩ number =
      if number = changed then slot.arena? else w.arena? number := by
  rw [arena?, List.getElem?_set]
  by_cases hnumber : changed = number
  · subst hnumber
    simp [hlt]
  · simp [hnumber, Ne.symm hnumber, arena?]

/-- A builder makes room for an arena that has its nodes, or for none: what is left has lost no
node. -/
theorem within_set {w : Builders K N T} {changed number : Nat} {b : Builder K N T}
    {slot : Slot K N T} {a' : Arena K N T} {returned : List NodeId}
    (hb : w.slots[changed]? = some (.builder b))
    (hslot : ∀ a', slot.arena? = some a' → b.arena.Within a')
    (ha' : arena? ⟨w.slots.set changed slot, returned⟩ number = some a') :
    ∃ a, w.arena? number = some a ∧ a.Within a' := by
  rw [arena?_set w (List.getElem?_eq_some_iff.1 hb).1] at ha'
  split at ha'
  · next hnumber =>
    refine ⟨b.arena, ?_, hslot a' ha'⟩
    rw [arena?, hnumber, hb]
    rfl
  · exact ⟨a', ha', fun _ _ hnode => hnode⟩

end Builders

/-! ## Coherence -/

section Coherence

variable [DecidableEq N]

/-- The builder, or the builder of the grammar, has a history, and its arena has a number and the
ids that were returned under it. -/
def Slot.Coherent (number : Nat) (returned : List NodeId) : Slot K N T → Prop
  | .builder b => b.Made ∧ b.arena.Issued number returned
  | .grammar g => (∃ (b : Builder K N T) (start : N) (rules : List (Rule N)),
      b.Made ∧ b.build start rules = .ok g) ∧ g.arena.Issued number returned
  | .spent => True

/-- Ids that are returned under another number do not matter. -/
theorem Slot.Coherent.append {number : Nat} {returned new : List NodeId}
    {slot : Slot K N T} (h : slot.Coherent number returned)
    (hnew : ∀ id ∈ new, id.arena ≠ number) : slot.Coherent number (returned ++ new) := by
  cases slot with
  | builder b => exact ⟨h.1, h.2.append hnew⟩
  | grammar g => exact ⟨h.1, h.2.append hnew⟩
  | spent => trivial

namespace Builders

/-- Each builder and each grammar has a history of its own, and each arena the ids of its number;
every id that was returned carries the number of a slot. There are no more slots than numbers. -/
structure Coherent (w : Builders K N T) : Prop where
  slots : ∀ ⦃number⦄ ⦃slot : Slot K N T⦄, w.slots[number]? = some slot →
    slot.Coherent (stamp number) w.returned
  returned : ∀ id ∈ w.returned, ∃ number < w.slots.length, id.arena = stamp number
  few : w.slots.length ≤ 2 ^ 32

variable {w : Builders K N T} {number : Nat}

/-- At first there are no builders. -/
theorem coherent_empty : ({} : Builders K N T).Coherent where
  slots number slot hget := by simp at hget
  returned id hid := by simp at hid
  few := Nat.zero_le _

/-- One slot changes, and ids are returned under its number. -/
theorem Coherent.set (h : w.Coherent) (hlt : number < w.slots.length) {new : List NodeId}
    (hnew : ∀ id ∈ new, id.arena = stamp number) {slot : Slot K N T}
    (hslot : slot.Coherent (stamp number) (w.returned ++ new)) :
    Coherent ⟨w.slots.set number slot, w.returned ++ new⟩ where
  slots number' slot' hget := by
    by_cases heq : number = number'
    · subst heq
      rw [List.getElem?_set_self hlt] at hget
      cases hget
      exact hslot
    · rw [List.getElem?_set_ne heq] at hget
      have hlt' := (List.getElem?_eq_some_iff.1 hget).1
      -- Two slots have different numbers, since there are no more slots than numbers.
      have hne : stamp number ≠ stamp number' := fun hstamp =>
        heq ((stamp_inj (hlt.trans_le h.few) (hlt'.trans_le h.few)).1 hstamp)
      exact (h.slots hget).append fun id hid => hnew id hid ▸ hne
  returned id hid := by
    rw [List.length_set]
    rcases List.mem_append.1 hid with hid | hid
    · exact h.returned id hid
    · exact ⟨number, hlt, hnew id hid⟩
  few := by
    rw [List.length_set]
    exact h.few

/-- A slot changes, and no id is returned. -/
theorem Coherent.set_same (h : w.Coherent) (hlt : number < w.slots.length) {slot : Slot K N T}
    (hslot : slot.Coherent (stamp number) w.returned) :
    Coherent { w with slots := w.slots.set number slot } := by
  have hnone : slot.Coherent (stamp number) (w.returned ++ []) := by rwa [List.append_nil]
  have hset : Coherent ⟨w.slots.set number slot, w.returned ++ []⟩ := h.set hlt (by simp) hnone
  rwa [List.append_nil] at hset

/-- No id has been returned for the builder that is opened next, as long as there is a number
left. -/
theorem Coherent.issued_new (h : w.Coherent) (hfew : w.slots.length < 2 ^ 32)
    (registry : Registry K N T) : (Builder.new (stamp w.slots.length) registry).arena.Issued
      (stamp w.slots.length) w.returned where
  id := rfl
  ids := by
    have hnone : w.returned.filter (·.arena = stamp w.slots.length) = [] := by
      refine List.filter_eq_nil_iff.2 fun id hid => ?_
      obtain ⟨number, hlt, hstamp⟩ := h.returned id hid
      rw [decide_eq_true_eq, hstamp, stamp_inj (hlt.trans hfew) hfew]
      exact hlt.ne
    rw [hnone]
    rfl
  operands id op hop := by simp [Builder.new, Arena.empty, Arena.get?] at hop

/-- Every arena is one of a builder with a history, or of a grammar built from one. -/
theorem Coherent.arena (h : w.Coherent) {a : Arena K N T} (ha : w.arena? number = some a) :
    a.Issued (stamp number) w.returned ∧ a.Ordered ∧
      (∀ ⦃id op⦄, a.get? id = some op → op.hasEnoughOperands) ∧
      ∀ ⦃id node⦄, a.node? id = some node → node.operator.kind.isPredicate →
        node.action = none := by
  obtain ⟨slot, hslot, ha⟩ := Option.bind_eq_some_iff.1 ha
  have hcoherent := h.slots hslot
  cases slot with
  | builder b =>
    cases ha
    obtain ⟨hmade, hissued⟩ := hcoherent
    exact ⟨hissued, hmade.ordered, fun _ _ => hmade.hasEnoughOperands,
      fun _ _ => hmade.action_eq_none⟩
  | grammar g =>
    cases ha
    obtain ⟨⟨b, start, rules, hmade, hg⟩, hissued⟩ := hcoherent
    refine ⟨hissued, Grammar.ordered hmade hg, fun _ _ => Grammar.hasEnoughOperands hmade hg, ?_⟩
    intro id node hnode hpredicate
    obtain ⟨-, -, -, -, harena⟩ := Builder.build_eq_ok hg
    rw [harena] at hnode
    rcases Arena.node?_push_eq_some hnode with hold | rfl
    · exact hmade.action_eq_none hold hpredicate
    · cases hpredicate
  | spent => cases ha

end Builders

end Coherence

/-! ## Events -/

variable [DecidableEq K] [DecidableEq N]

/-- The ids that an event uses as operands. -/
def Event.operands : Event K N T → List NodeId
  | .operation _ done => done.operands
  | _ => []

namespace Builders

/-- What an event returns, and the builders after it. Without the builder nothing happens. -/
def step (w : Builders K N T) :
    Event K N T → Except (GrammarError K N) (Option NodeId) × Builders K N T
  | .opening registry =>
    (.ok none, { w with slots := w.slots ++ [.builder (.new (stamp w.slots.length) registry)] })
  | .operation number operation =>
    match w.slots[number]? with
    | some (.builder b) =>
      match b.perform operation with
      | (.error e, b) => (.error e, { w with slots := w.slots.set number (.builder b) })
      | (.ok id?, b) => (.ok id?, ⟨w.slots.set number (.builder b), w.returned ++ id?.toList⟩)
    | _ => (.ok none, w)
  | .build number start rules =>
    match w.slots[number]? with
    | some (.builder b) =>
      match b.build start rules with
      | .error e => (.error e, { w with slots := w.slots.set number .spent })
      | .ok g =>
        (.ok (some g.startNode), ⟨w.slots.set number (.grammar g), w.returned ++ [g.startNode]⟩)
    | _ => (.ok none, w)

/-- The builders after events in order. -/
def run (w : Builders K N T) (events : List (Event K N T)) : Builders K N T :=
  events.foldl (fun w event => (w.step event).2) w

theorem run_append (w : Builders K N T) (events later : List (Event K N T)) :
    w.run (events ++ later) = (w.run events).run later :=
  List.foldl_append

/-- The events use no ids as operands but those that were returned before, by whatever builder. -/
def Sensible : Builders K N T → List (Event K N T) → Prop
  | _, [] => True
  | w, event :: rest => (∀ o ∈ event.operands, o ∈ w.returned) ∧ Sensible (w.step event).2 rest

theorem Sensible.left {w : Builders K N T} {events later : List (Event K N T)}
    (h : w.Sensible (events ++ later)) : w.Sensible events := by
  induction events generalizing w with
  | nil => trivial
  | cons event rest ih => exact ⟨h.1, ih h.2⟩

variable {w : Builders K N T} {event : Event K N T} {number : Nat}

/-- A builder that an operation has failed on stays in its place. -/
theorem set_of_error {operation : Builder.Operation K N T} {b b' : Builder K N T}
    {e : GrammarError K N} (hb : w.slots[number]? = some (.builder b))
    (he : b.perform operation = (.error e, b')) :
    { w with slots := w.slots.set number (.builder b') } = w := by
  obtain rfl : b' = b := by
    have hsame := Builder.perform_error (congrArg Prod.fst he)
    rwa [he] at hsame
  obtain ⟨hlt, hget⟩ := List.getElem?_eq_some_iff.1 hb
  rw [← hget, List.set_getElem_self hlt]

/-- **Every event preserves coherence**, if its operands have been returned before and there is a
number for a builder that it opens. -/
theorem Coherent.step (h : w.Coherent) (hops : ∀ o ∈ event.operands, o ∈ w.returned)
    (hfew : (w.step event).2.slots.length ≤ 2 ^ 32) : (w.step event).2.Coherent := by
  cases event with
  | opening registry =>
    have hroom : w.slots.length < 2 ^ 32 := by
      rw [Builders.step, List.length_append] at hfew
      exact Nat.lt_of_succ_le hfew
    refine ⟨fun number slot hget => ?_, fun id hid => ?_, hfew⟩
    · rcases Nat.lt_trichotomy number w.slots.length with hlt | rfl | hgt
      · rw [Builders.step, List.getElem?_append_left hlt] at hget
        exact h.slots hget
      · rw [Builders.step, List.getElem?_concat_length] at hget
        cases hget
        exact ⟨.new _ _, h.issued_new hroom registry⟩
      · rw [Builders.step, List.getElem?_eq_none (by simp; omega)] at hget
        cases hget
    · rw [Builders.step, List.length_append]
      obtain ⟨number, hlt, hstamp⟩ := h.returned id hid
      exact ⟨number, Nat.lt_add_right _ hlt, hstamp⟩
  | operation number operation =>
    unfold Builders.step
    dsimp only
    split
    · next b hb =>
      obtain ⟨hmade, hissued⟩ := h.slots hb
      have hlt := (List.getElem?_eq_some_iff.1 hb).1
      split
      · next hperform =>
        rw [set_of_error hb hperform]
        exact h
      · next id? b' hperform =>
        rcases Builder.perform_eq_ok hperform with
          ⟨rfl, registry, rfl⟩ | ⟨op, action, id, hoperands, rfl, hadd⟩
        · have hslot : (Slot.builder { b with registry }).Coherent (stamp number) w.returned :=
            ⟨hmade.withRegistry registry, hissued⟩
          simpa using h.set_same hlt hslot
        · have hop : ∀ o ∈ op.operands, o ∈ w.returned := by
            rw [← hoperands]
            exact hops
          have hmade' : b'.Made := by
            refine hmade.addWith (fun o ho hown => ?_) hadd
            have howned := hissued.owns_iff.2 ⟨hop o ho, hown.trans hissued.id⟩
            exact (Arena.isSome_get?_iff.1 (Arena.owns_iff.1 howned)).2
          obtain ⟨rfl, rfl⟩ := Builder.addWith_pushes hadd
          refine h.set hlt (fun id hid => ?_) ⟨hmade', hissued.push hop _⟩
          rw [List.mem_singleton.1 hid]
          exact hissued.id
    · exact h
  | build number start rules =>
    unfold Builders.step
    dsimp only
    split
    · next b hb =>
      obtain ⟨hmade, hissued⟩ := h.slots hb
      have hlt := (List.getElem?_eq_some_iff.1 hb).1
      split
      · exact h.set_same hlt trivial
      · next g hg =>
        obtain ⟨-, -, -, hnode, harena⟩ := Builder.build_eq_ok hg
        refine h.set hlt (fun id hid => ?_) ⟨⟨b, start, rules, hmade, hg⟩, ?_⟩
        · rw [List.mem_singleton.1 hid, hnode]
          exact hissued.id
        · rw [harena, hnode]
          exact hissued.push (by simp [Operator.operands]) _
    · exact h

/-- There are no fewer slots after an event. -/
theorem length_slots_le_step (w : Builders K N T) (event : Event K N T) :
    w.slots.length ≤ (w.step event).2.slots.length := by
  unfold step
  split <;> (repeat' split) <;> simp

/-- Nor after many. -/
theorem length_slots_le_run (w : Builders K N T) (events : List (Event K N T)) :
    w.slots.length ≤ (w.run events).slots.length := by
  induction events generalizing w with
  | nil => exact Nat.le_refl _
  | cons event rest ih => exact (w.length_slots_le_step event).trans (ih _)

/-- **All events in order do.** -/
theorem Coherent.run (h : w.Coherent) {events : List (Event K N T)} (hevents : w.Sensible events)
    (hfew : (w.run events).slots.length ≤ 2 ^ 32) : (w.run events).Coherent := by
  induction events generalizing w with
  | nil => exact h
  | cons event rest ih =>
    obtain ⟨hops, hrest⟩ := hevents
    exact ih (h.step hops ((length_slots_le_run _ rest).trans hfew)) hrest hfew

/-! ## Nodes stay what they are -/

/-- **An event changes no node**: an arena that is there after it, and is not new, has been there
before, with the same nodes and perhaps one less. -/
theorem step_within {a' : Arena K N T} (hlt : number < w.slots.length)
    (ha' : (w.step event).2.arena? number = some a') :
    ∃ a, w.arena? number = some a ∧ a.Within a' := by
  have hsame : w.arena? number = some a' → ∃ a, w.arena? number = some a ∧ a.Within a' :=
    fun ha => ⟨a', ha, fun _ _ hnode => hnode⟩
  cases event with
  | opening registry =>
    rw [step, arena?, List.getElem?_append_left hlt] at ha'
    exact hsame ha'
  | operation changed operation =>
    unfold step at ha'
    dsimp only at ha'
    split at ha'
    · next b hb =>
      split at ha'
      · next hperform => exact hsame (set_of_error hb hperform ▸ ha')
      · next id? b' hperform =>
        refine within_set hb (fun a' hslot => ?_) ha'
        cases hslot
        rcases Builder.perform_eq_ok hperform with ⟨-, _, rfl⟩ | ⟨op, _, _, -, -, hadd⟩
        · exact fun _ _ hnode => hnode
        · obtain ⟨-, rfl⟩ := Builder.addWith_pushes hadd
          exact b.arena.within_push _ _
    · exact hsame ha'
  | build changed start rules =>
    unfold step at ha'
    dsimp only at ha'
    split at ha'
    · next b hb =>
      split at ha'
      · refine within_set hb (fun a' hslot => ?_) ha'
        cases hslot
      · next g hg =>
        refine within_set hb (fun a' hslot => ?_) ha'
        cases hslot
        obtain ⟨-, -, -, -, harena⟩ := Builder.build_eq_ok hg
        rw [harena]
        exact b.arena.within_push _ _
    · exact hsame ha'

/-- **Events in order change no node.** -/
theorem run_within {a' : Arena K N T} (hlt : number < w.slots.length) {events : List (Event K N T)}
    (ha' : (w.run events).arena? number = some a') :
    ∃ a, w.arena? number = some a ∧ a.Within a' := by
  induction events generalizing w with
  | nil => exact ⟨a', ha', fun _ _ hnode => hnode⟩
  | cons event rest ih =>
    obtain ⟨mid, hmid, hwithin'⟩ := ih (hlt.trans_le (w.length_slots_le_step event)) ha'
    obtain ⟨a, ha, hwithin⟩ := step_within hlt hmid
    exact ⟨a, ha, fun _ _ hnode => hwithin' (hwithin hnode)⟩

/-! ## The invariant of arenas -/

/-- An id that an event returns is one of the returned ones. -/
theorem mem_returned_step {id : NodeId} (h : (w.step event).1 = .ok (some id)) :
    id ∈ (w.step event).2.returned := by
  unfold step at h ⊢
  split at h
  · cases h
  · split at h
    · split at h
      · cases h
      · cases h
        simp
    · cases h
  · split at h
    · split at h
      · cases h
      · cases h
        simp
    · cases h

/-- A call that fails returns no id and changes no arena; only the builder of a grammar that cannot
be built is used up. -/
theorem step_error {e : GrammarError K N} (h : (w.step event).1 = .error e) :
    (w.step event).2 = w ∨ ∃ changed start rules, event = .build changed start rules ∧
      changed < w.slots.length ∧
      (w.step event).2 = { w with slots := w.slots.set changed .spent } := by
  unfold step at h ⊢
  split at h
  · cases h
  · split at h
    · next b hb =>
      split at h
      · next hperform => exact .inl (set_of_error hb hperform)
      · cases h
    · cases h
  · next changed start rules =>
    split at h
    · next b hb =>
      split at h
      · exact .inr ⟨changed, start, rules, rfl, (List.getElem?_eq_some_iff.1 hb).1, rfl⟩
      · cases h
    · cases h

/-- An id that an event has returned denotes a node from then on. -/
theorem exists_node_of_returned {before later : List (Event K N T)} {id : NodeId}
    {a : Arena K N T} (hevents : Sensible {} (before ++ event :: later))
    (hfew : (run {} (before ++ event :: later)).slots.length ≤ 2 ^ 32)
    (hreturned : ((run {} before).step event).1 = .ok (some id)) (hid : id.arena = stamp number)
    (ha : (run {} (before ++ event :: later)).arena? number = some a) :
    ∃ a₀ node, ((run {} before).step event).2.arena? number = some a₀ ∧
      a₀.node? id = some node ∧ a.node? id = some node := by
  have hthen : ((run {} before).step event).2 = run {} (before ++ [event]) := by
    rw [run_append]
    rfl
  rw [List.append_cons] at hevents hfew ha
  have hnumber : number < 2 ^ 32 := (lt_of_arena? ha).trans_le hfew
  rw [run_append] at hfew
  have hcoherent : ((run {} before).step event).2.Coherent := by
    rw [hthen]
    exact coherent_empty.run hevents.left ((length_slots_le_run _ later).trans hfew)
  have hmem := mem_returned_step hreturned
  rw [run_append, ← hthen] at ha
  -- The arena is that of the builder whose number the id carries.
  obtain ⟨opened, hlt, hopened⟩ := hcoherent.returned id hmem
  obtain rfl : number = opened :=
    (stamp_inj hnumber (hlt.trans_le hcoherent.few)).1 (hid.symm.trans hopened)
  obtain ⟨a₀, ha₀, hwithin⟩ := run_within hlt ha
  have hown := (hcoherent.arena ha₀).1.owns_iff.2 ⟨hmem, hid⟩
  obtain ⟨op, hop⟩ := Option.isSome_iff_exists.1 (Arena.owns_iff.1 hown)
  have hnode := Arena.node?_of_get? hop
  exact ⟨a₀, _, ha₀, hnode, hwithin hnode⟩

variable [ToString K] [ToString N] [Inhabited T]

/-- **What holds of every arena**, whatever a program has done with its builders, as long as it uses
no ids as operands that have not been returned to it, and opens no more builders than there are
numbers for them:

* there are as many operators as actions, one of each for every id returned under the number of the
  arena, at the place that the id tells, and these ids are just the ones that it owns; no other
  arena owns any of them;
* an id denotes the operator and the action that it denoted when it was returned;
* operands have been returned before, and those that the arena owns are older than their operator,
  so that going from operators to operands comes to an end: there is one way to compute values from
  the operators bottom up, trees and texts among them, and an operator has an outcome, at any
  sufficient depth the same, as soon as calls of rules have;
* a sequence or a choice has two operands or more, and a predicate has no action;
* a call that fails leaves all builders as they are, and to fail to build a grammar leaves the other
  arenas as they are. -/
theorem arena_invariant {past : List (Event K N T)} (hpast : Sensible {} past)
    (hfew : (run {} past).slots.length ≤ 2 ^ 32) {a : Arena K N T}
    (ha : (run {} past).arena? number = some a) :
    (a.operators.size = a.actions.size ∧
      a.ids = (run {} past).returned.filter (·.arena = stamp number) ∧
      a.operators.size = a.ids.length ∧
      (∀ id, a.get? id = if id.arena = stamp number then a.operators[id.index]? else none) ∧
      (∀ id, a.action? id =
        if id.arena = stamp number then (a.actions[id.index]?).join else none) ∧
      (∀ id, a.owns id ↔ id ∈ (run {} past).returned ∧ id.arena = stamp number) ∧
      ∀ other a', (run {} past).arena? other = some a' → other ≠ number →
        ∀ id, a.owns id → ¬ a'.owns id) ∧
    (∀ before event later id, past = before ++ event :: later →
      ((run {} before).step event).1 = .ok (some id) → id.arena = stamp number →
      ∃ a₀ node, ((run {} before).step event).2.arena? number = some a₀ ∧
        a₀.node? id = some node ∧ a.node? id = some node) ∧
    ((∀ id op, a.get? id = some op → ∀ o ∈ op.operands,
        o ∈ (run {} past).returned ∧ (a.owns o → o.index < id.index)) ∧
      WellFounded a.IsOperand ∧
      (∀ (β : Type) (layer : Operator K N β → β) (foreign : β) (f : NodeId → β),
        (∀ id, f id = a.layered layer foreign f id) ↔ f = a.fold layer foreign a.size) ∧
      (∀ id, a.render id = a.layered Operator.text "<foreign>" a.render id) ∧
      (∀ id, a.unfold? id =
        a.layered (fun layer => layer.allSome?.map Operator.toExpr) none a.unfold? id) ∧
      ∀ g : Grammar K N T, g.arena = a → ∀ (input : Array (Token K))
        (callRule : Grammar.CallRule N T),
        (∀ id name p mode run, (callRule id name p mode run).isSome) → ∀ id p mode run,
          ∃ x, ∀ depth, a.size < depth →
            g.evalCalling input (fun _ => callRule) depth id p mode run = some x) ∧
    ((∀ id xs, a.get? id = some (.sequence xs) ∨ a.get? id = some (.orderedChoice xs) →
        2 ≤ xs.length) ∧
      ∀ id op, a.get? id = some op → op.kind.isPredicate → a.action? id = none) ∧
    ∀ event e, ((run {} past).step event).1 = .error e →
      ((run {} past).step event).2.returned = (run {} past).returned ∧
      (∀ a', ((run {} past).step event).2.arena? number = some a' → a' = a) ∧
      ((∀ changed start rules, event ≠ .build changed start rules) →
        ((run {} past).step event).2 = run {} past) := by
  have hcoherent := coherent_empty.run hpast hfew
  obtain ⟨hissued, hordered, henough, hpredicates⟩ := hcoherent.arena ha
  have hids : a.operators.size = a.ids.length := by simp [Arena.ids, Arena.size]
  refine ⟨⟨a.aligned.symm, hissued.ids, hids, fun id => by rw [← hissued.id, Arena.get?],
    fun id => by rw [← hissued.id, Arena.action?], fun id => hissued.owns_iff, ?_⟩, ?_, ?_, ?_, ?_⟩
  · intro other a' ha' hne id hown hown'
    have hnumber : stamp other = stamp number :=
      ((hcoherent.arena ha').1.owns_iff.1 hown').2.symm.trans (hissued.owns_iff.1 hown).2
    exact hne ((stamp_inj ((lt_of_arena? ha').trans_le hfew)
      ((lt_of_arena? ha).trans_le hfew)).1 hnumber)
  · rintro before event later id rfl hreturned hid
    exact exists_node_of_returned hpast hfew hreturned hid ha
  · refine ⟨fun id op hop o ho => ⟨hissued.operands hop o ho, fun hown => ?_⟩, hordered.wellFounded,
      fun β layer foreign f => hordered.eq_fold_iff f (Nat.le_refl _),
      (hordered.eq_fold_iff _ (Nat.le_refl _)).2 rfl,
      (hordered.eq_fold_iff _ (Nat.le_refl _)).2 rfl, ?_⟩
    · exact hordered.index_lt ⟨op, hop, ho, hown⟩
    · rintro g rfl input callRule hcall id p mode run
      exact Grammar.evalCalling_total hordered hcall id p mode run
  · refine ⟨fun id xs hget => ?_, fun id op hop hpredicate => ?_⟩
    · rcases hget with hget | hget
      · simpa [Operator.hasEnoughOperands] using henough hget
      · simpa [Operator.hasEnoughOperands] using henough hget
    · exact hpredicates (Arena.node?_of_get? hop) hpredicate
  · intro event e he
    have hsame : ∀ a', (run {} past).arena? number = some a' → a' = a := by
      intro a' ha'
      rw [ha] at ha'
      exact (Option.some.inj ha').symm
    rcases step_error he with hstep | ⟨changed, start, rules, rfl, hlt, hstep⟩
    · rw [hstep]
      exact ⟨rfl, hsame, fun _ => rfl⟩
    · rw [hstep]
      refine ⟨rfl, fun a' ha' => ?_, fun hbuild => absurd rfl (hbuild changed start rules)⟩
      rw [arena?_set _ hlt] at ha'
      split at ha'
      · cases ha'
      · exact hsame a' ha'

/-- Two builders, of which the second uses an operator of the first; a sequence of one operand,
which is refused; and a grammar that is built from the first builder. -/
def twoBuilders : List (Event Char Char Unit) :=
  [.opening {}, .opening {}, .operation 0 (.make (.terminal 'a') none),
    .operation 1 (.make (.optional ⟨1, 0⟩) none), .operation 0 (.make (.sequence [⟨2, 0⟩]) none),
    .operation 0 (.make (.sequence [⟨1, 0⟩, ⟨1, 0⟩]) none), .build 0 'S' [⟨'S', ⟨1, 1⟩⟩]]

/-- The grammar has the two operators of its builder and its start node, and does not own the
operator of the other builder. -/
theorem arena_invariant_twoBuilders :
    Sensible {} twoBuilders ∧ (run {} twoBuilders).slots.length ≤ 2 ^ 32 ∧
      ∃ a, (run {} twoBuilders).arena? 0 = some a ∧
        a.ids = [⟨1, 0⟩, ⟨1, 1⟩, ⟨1, 2⟩] ∧ a.operators.size = a.actions.size ∧
        ¬ a.owns ⟨2, 0⟩ ∧ WellFounded a.IsOperand := by
  have hsensible : Sensible {} twoBuilders :=
    ⟨by decide, by decide, by decide, by decide, by decide, by decide, by decide, trivial⟩
  have hfew : (run {} twoBuilders).slots.length ≤ 2 ^ 32 := by decide
  obtain ⟨a, ha⟩ : ∃ a, (run {} twoBuilders).arena? 0 = some a := ⟨_, rfl⟩
  obtain ⟨⟨htables, hids, -, -, -, howns, -⟩, -, ⟨-, hwell, -⟩, -⟩ :=
    arena_invariant hsensible hfew ha
  refine ⟨hsensible, hfew, a, ha, hids.trans rfl, htables, fun hown => ?_, hwell⟩
  have hnumber := ((howns _).1 hown).2
  cases hnumber

end Builders

end Packrat
