import Packrat.Proofs.Construction

/-!
# Which action an operator gets

The registry of a builder can change between one operator and the next. `Builder.Operation` is
whatever can be done to a builder on the way, and `Builder.ofHistory` the builder that has been
through a list of them. Every operation hands the builder on, also one that fails: but then its
registry and its arena are what they were (`Builder.perform_error`).

What a registry knows is read off the history (`Registry.Reflects`): the first action that was set
for a tag or a name, since later ones are refused, and the last default of a kind and the last
passthrough, since later ones replace it. So the action of an operator is determined by what came
before the operator (`Builder.attached`), and it stays what it is
(`Builder.action_follows_history`).
-/

namespace Packrat

variable {K N T : Type}

namespace Builder

/-! ## Histories -/

/-- What can be done to a builder: to set an action for a kind, a tag or a name, to install the
passthrough, and to make an operator, with an action that is given for it or without one. -/
inductive Operation (K N T : Type) where
  | setDefault (kind : Kind) (action : Action K T)
  | setTag (tag : K) (action : Action K T)
  | setName (name : N) (action : Action K T)
  | installPassthrough (wrap : MatchNode T → T)
  | make (operator : Operator K N NodeId) (given : Option (Action K T))

namespace Operation

/-- The default that an operation sets for a kind. -/
def default? (kind : Kind) : Operation K N T → Option (Action K T)
  | .setDefault k action => if k = kind then some action else none
  | _ => none

/-- The action that an operation sets for a tag. -/
def tagAction? [DecidableEq K] (tag : K) : Operation K N T → Option (Action K T)
  | .setTag t action => if t = tag then some action else none
  | _ => none

/-- The action that an operation sets for a name. -/
def nameAction? [DecidableEq N] (name : N) : Operation K N T → Option (Action K T)
  | .setName n action => if n = name then some action else none
  | _ => none

/-- The passthrough that an operation installs. -/
def passthrough? : Operation K N T → Option (Kind → Action K T)
  | .installPassthrough wrap => some (Action.passthrough wrap)
  | _ => none

end Operation

/-- The default of a kind that was set last. -/
def lastDefault (past : List (Operation K N T)) (kind : Kind) : Option (Action K T) :=
  past.reverse.findSome? (·.default? kind)

/-- The passthrough that was installed last. -/
def lastPassthrough (past : List (Operation K N T)) : Option (Kind → Action K T) :=
  past.reverse.findSome? (·.passthrough?)

variable [DecidableEq K] [DecidableEq N]

/-- The action that was set first for a tag. -/
def firstForTag (past : List (Operation K N T)) (tag : K) : Option (Action K T) :=
  past.findSome? (·.tagAction? tag)

/-- The action that was set first for a name. -/
def firstForName (past : List (Operation K N T)) (name : N) : Option (Action K T) :=
  past.findSome? (·.nameAction? name)

/-- The action that was set first for the tag or name of an operator. -/
def firstForOwn (past : List (Operation K N T)) : Operator K N NodeId → Option (Action K T)
  | .terminal tag => firstForTag past tag
  | .nonTerminal name => firstForName past name
  | _ => none

/-- The action of an operator that is made after `past`: none for a predicate, else the one that is
given, else the first one for its tag or name, else the last default of its kind, else the
passthrough of its kind. -/
def attached (past : List (Operation K N T)) (operator : Operator K N NodeId)
    (given : Option (Action K T)) : Option (Action K T) :=
  if operator.kind.isPredicate then none
  else given.or <| (firstForOwn past operator).or <| (lastDefault past operator.kind).or <|
    (lastPassthrough past).map (· operator.kind)

/-- Does an operation, and hands the builder on; if an operator is made, its id is returned. -/
def perform (b : Builder K N T) :
    Operation K N T → Except (GrammarError K N) (Option NodeId) × Builder K N T
  | .setDefault kind action => (.ok none, { b with registry := b.registry.setDefault kind action })
  | .setTag tag action =>
    let (result, registry) := b.registry.setTag tag action
    (result.map fun _ => none, { b with registry })
  | .setName name action =>
    let (result, registry) := b.registry.setName name action
    (result.map fun _ => none, { b with registry })
  | .installPassthrough wrap =>
    (.ok none, { b with registry := b.registry.installPassthrough wrap })
  | .make operator given =>
    let (result, b) := match given with
      | some action => b.addWith operator (some action)
      | none => b.add operator
    (result.map some, b)

/-- The builder after an operation. -/
def next (b : Builder K N T) (operation : Operation K N T) : Builder K N T :=
  (b.perform operation).2

/-- The builder that began empty, under a number, and has been through a history. -/
def ofHistory (number : Nat) (past : List (Operation K N T)) : Builder K N T :=
  past.foldl next (.new number {})

/-- The id under which the next operator is made. -/
def nextId (b : Builder K N T) : NodeId := b.arena.idAt b.arena.size

/-- One more operation. -/
theorem ofHistory_concat (number : Nat) (past : List (Operation K N T))
    (operation : Operation K N T) :
    ofHistory number (past ++ [operation]) = (ofHistory number past).next operation := by
  rw [ofHistory, List.foldl_concat]
  rfl

/-- **An operator is made if it has enough operands**, with the given action or that of the
registry; else it is refused. -/
theorem perform_make (b : Builder K N T) (operator : Operator K N NodeId)
    (given : Option (Action K T)) :
    b.perform (.make operator given) =
      if operator.hasEnoughOperands then
        (.ok (some b.nextId),
          { b with
            arena := (b.arena.push operator (if operator.kind.isPredicate then none
              else given.or (b.registry.forOperator operator))).2 })
      else (.error (.tooFewOperands operator.kind operator.operands.length), b) := by
  cases given with
  | none =>
    simp only [perform, add, addWith, Option.none_or]
    split <;> rfl
  | some action =>
    simp only [perform, addWith, Option.some_or]
    split <;> rfl

/-- To set an action for a tag fails if there is one, and else adds it to those of the tags. -/
theorem perform_setTag (b : Builder K N T) (tag : K) (action : Action K T) :
    b.perform (.setTag tag action) =
      if (b.registry.tags.lookup tag).isSome then (.error (.duplicateTagAction tag), b)
      else (.ok none, { b with registry.tags := (tag, action) :: b.registry.tags }) := by
  simp only [perform, Registry.setTag]
  split <;> rfl

/-- To set an action for a name fails if there is one, and else adds it to those of the names. -/
theorem perform_setName (b : Builder K N T) (name : N) (action : Action K T) :
    b.perform (.setName name action) =
      if (b.registry.names.lookup name).isSome then (.error (.duplicateNameAction name), b)
      else (.ok none, { b with registry.names := (name, action) :: b.registry.names }) := by
  simp only [perform, Registry.setName]
  split <;> rfl

/-- **An operation that fails leaves the builder as it was**, its registry and its arena. -/
theorem perform_error {b : Builder K N T} {operation : Operation K N T} {e : GrammarError K N}
    (h : (b.perform operation).1 = .error e) : (b.perform operation).2 = b := by
  cases operation with
  | setDefault kind action => cases h
  | installPassthrough wrap => cases h
  | setTag tag action =>
    rw [perform_setTag] at h ⊢
    split at h
    · next hsome => rw [if_pos hsome]
    · cases h
  | setName name action =>
    rw [perform_setName] at h ⊢
    split at h
    · next hsome => rw [if_pos hsome]
    · cases h
  | make operator given =>
    rw [perform_make] at h ⊢
    split at h
    · cases h
    · next hfew => rw [if_neg hfew]

/-- The actions of tags after one is set. -/
theorem next_setTag (b : Builder K N T) (tag : K) (action : Action K T) :
    b.next (.setTag tag action) = { b with
      registry.tags := if (b.registry.tags.lookup tag).isSome then b.registry.tags
        else (tag, action) :: b.registry.tags } := by
  rw [next, perform_setTag]
  split <;> rfl

/-- The actions of names after one is set. -/
theorem next_setName (b : Builder K N T) (name : N) (action : Action K T) :
    b.next (.setName name action) = { b with
      registry.names := if (b.registry.names.lookup name).isSome then b.registry.names
        else (name, action) :: b.registry.names } := by
  rw [next, perform_setName]
  split <;> rfl

end Builder

/-! ## What a registry knows -/

namespace Registry

open Builder (Operation)

variable [DecidableEq K] [DecidableEq N]

/-- The registry knows what was set in the past. -/
structure Reflects (past : List (Operation K N T)) (r : Registry K N T) : Prop where
  defaults : ∀ kind, r.defaults kind = Builder.lastDefault past kind
  tags : ∀ tag, r.tags.lookup tag = Builder.firstForTag past tag
  names : ∀ name, r.names.lookup name = Builder.firstForName past name
  passthrough : r.passthrough = Builder.lastPassthrough past

variable {past : List (Operation K N T)} {r : Registry K N T}

/-- A registry that reflects the past has the action that the past determines. -/
theorem Reflects.attached (h : r.Reflects past) (operator : Operator K N NodeId)
    (given : Option (Action K T)) :
    (if operator.kind.isPredicate then none else given.or (r.forOperator operator)) =
      Builder.attached past operator given := by
  have hkind : ∀ kind : Kind, kind.isPredicate = false → r.forKind kind =
      (Builder.lastDefault past kind).or ((Builder.lastPassthrough past).map (· kind)) := by
    intro kind hkind
    rw [forKind, hkind, h.defaults, h.passthrough]
    rfl
  unfold Builder.attached
  split
  · rfl
  · next hfires =>
    congr 1
    cases operator with
    | terminal tag => rw [forOperator, forTag, h.tags, hkind _ rfl]; rfl
    | nonTerminal name => rw [forOperator, forName, h.names, hkind _ rfl]; rfl
    | andPredicate | notPredicate => exact absurd rfl hfires
    | _ => exact hkind _ rfl

/-- The registry of a new builder reflects that nothing was set. -/
theorem reflects_nil : ({} : Registry K N T).Reflects [] where
  defaults _ := rfl
  tags _ := rfl
  names _ := rfl
  passthrough := rfl

/-- What an operation sets goes before earlier defaults and an earlier passthrough, and after
earlier actions for tags and names. -/
theorem Reflects.concat {r' : Registry K N T} {operation : Operation K N T} (h : r.Reflects past)
    (hdefaults : ∀ kind, r'.defaults kind = (operation.default? kind).or (r.defaults kind))
    (htags : ∀ tag, r'.tags.lookup tag = (r.tags.lookup tag).or (operation.tagAction? tag))
    (hnames : ∀ name, r'.names.lookup name = (r.names.lookup name).or (operation.nameAction? name))
    (hpassthrough : r'.passthrough = operation.passthrough?.or r.passthrough) :
    r'.Reflects (past ++ [operation]) where
  defaults kind := by
    rw [hdefaults, h.defaults, Builder.lastDefault, Builder.lastDefault, List.reverse_concat,
      List.findSome?_cons]
    cases operation.default? kind <;> rfl
  tags tag := by
    rw [htags, h.tags, Builder.firstForTag, Builder.firstForTag, List.findSome?_append,
      List.findSome?_singleton]
  names name := by
    rw [hnames, h.names, Builder.firstForName, Builder.firstForName, List.findSome?_append,
      List.findSome?_singleton]
  passthrough := by
    rw [hpassthrough, h.passthrough, Builder.lastPassthrough, Builder.lastPassthrough,
      List.reverse_concat, List.findSome?_cons]
    cases operation.passthrough? <;> rfl

/-- What is found in a table to which an entry is added once: the entry goes after what was there
before. -/
theorem lookup_once {κ β : Type} [DecidableEq κ] (table : List (κ × β)) (key : κ) (value : β)
    (k : κ) :
    (if (table.lookup key).isSome then table else (key, value) :: table).lookup k =
      (table.lookup k).or (if key = k then some value else none) := by
  split
  · next hsome =>
    split
    · next hk => exact (Option.or_of_isSome (hk ▸ hsome)).symm
    · exact Option.or_none.symm
  · next hnone =>
    rw [List.lookup_cons]
    by_cases hk : key = k
    · subst hk
      simp [Option.not_isSome_iff_eq_none.1 hnone]
    · simp [beq_false_of_ne (Ne.symm hk), hk]

end Registry

namespace Builder

variable [DecidableEq K] [DecidableEq N]

/-! ## One operation and whole histories -/

section Step

variable {b : Builder K N T} {past : List (Operation K N T)}

/-- **After each operation the registry reflects it too.** -/
theorem reflects_next (h : b.registry.Reflects past) (operation : Operation K N T) :
    (b.next operation).registry.Reflects (past ++ [operation]) := by
  have hkeep : ∀ operator given, b.registry.Reflects (past ++ [.make operator given]) :=
    fun _ _ => h.concat (fun _ => rfl) (fun _ => Option.or_none.symm)
      (fun _ => Option.or_none.symm) rfl
  cases operation with
  | setDefault kind action =>
    refine h.concat (fun k => ?_) (fun _ => Option.or_none.symm) (fun _ => Option.or_none.symm) rfl
    by_cases hk : k = kind
    · simp [next, perform, Registry.setDefault, Operation.default?, hk]
    · simp [next, perform, Registry.setDefault, Operation.default?, hk, Ne.symm hk]
  | setTag tag action =>
    rw [next_setTag]
    exact h.concat (fun _ => rfl) (Registry.lookup_once _ tag action)
      (fun _ => Option.or_none.symm) rfl
  | setName name action =>
    rw [next_setName]
    exact h.concat (fun _ => rfl) (fun _ => Option.or_none.symm)
      (Registry.lookup_once _ name action) rfl
  | installPassthrough wrap =>
    exact h.concat (fun _ => rfl) (fun _ => Option.or_none.symm) (fun _ => Option.or_none.symm) rfl
  | make operator given =>
    rw [next, perform_make]
    by_cases henough : operator.hasEnoughOperands
    · rw [if_pos henough]
      exact hkeep operator given
    · rw [if_neg henough]
      exact hkeep operator given

/-- Why an operation is refused after `past`: an action is there for the tag or the name, or an
operator has too few operands. -/
inductive Refused (past : List (Operation K N T)) : Operation K N T → GrammarError K N → Prop
  | tag {tag : K} {action : Action K T} : (firstForTag past tag).isSome →
      Refused past (.setTag tag action) (.duplicateTagAction tag)
  | name {name : N} {action : Action K T} : (firstForName past name).isSome →
      Refused past (.setName name action) (.duplicateNameAction name)
  | operands {operator : Operator K N NodeId} {given : Option (Action K T)} :
      operator.hasEnoughOperands = false →
      Refused past (.make operator given) (.tooFewOperands operator.kind operator.operands.length)

/-- **An operation fails if and only if the past refuses it**, and with that error. -/
theorem perform_eq_error_iff (h : b.registry.Reflects past) {operation : Operation K N T}
    {e : GrammarError K N} : (b.perform operation).1 = .error e ↔ Refused past operation e := by
  constructor
  · intro he
    cases operation with
    | setDefault kind action => cases he
    | installPassthrough wrap => cases he
    | setTag tag action =>
      rw [perform_setTag] at he
      split at he
      · next hsome =>
        cases he
        exact .tag (h.tags tag ▸ hsome)
      · cases he
    | setName name action =>
      rw [perform_setName] at he
      split at he
      · next hsome =>
        cases he
        exact .name (h.names name ▸ hsome)
      · cases he
    | make operator given =>
      rw [perform_make] at he
      split at he
      · cases he
      · next hfew =>
        cases he
        exact .operands (by simpa using hfew)
  · -- The registry has an action for the tag or the name because the past has one.
    rintro (htag | hname | hfew)
    · rw [perform_setTag, if_pos (h.tags _ ▸ htag)]
    · rw [perform_setName, if_pos (h.names _ ▸ hname)]
    · rw [perform_make, hfew]
      rfl

/-- The arena after an operation: it has the new operator, with the action that the past
determines, if the operation makes one. -/
theorem arena_next (h : b.registry.Reflects past) (operation : Operation K N T) :
    (b.next operation).arena = b.arena ∨
      ∃ operator given, operation = .make operator given ∧ operator.hasEnoughOperands ∧
        (b.next operation).arena = (b.arena.push operator (attached past operator given)).2 := by
  cases operation with
  | setDefault kind action => exact .inl rfl
  | installPassthrough wrap => exact .inl rfl
  | setTag tag action => exact .inl (by rw [next_setTag])
  | setName name action => exact .inl (by rw [next_setName])
  | make operator given =>
    by_cases henough : operator.hasEnoughOperands
    · refine .inr ⟨operator, given, rfl, henough, ?_⟩
      rw [next, perform_make, if_pos henough, ← h.attached]
    · rw [next, perform_make, if_neg henough]
      exact .inl rfl

end Step

section History

variable (number : Nat) (past : List (Operation K N T))

/-- **After any history the registry reflects it.** -/
theorem reflects_ofHistory : (ofHistory number past).registry.Reflects past := by
  induction past using List.reverseRecOn with
  | nil => exact Registry.reflects_nil
  | append_singleton past operation ih =>
    rw [ofHistory_concat]
    exact reflects_next ih operation

/-- What a history continues with begins where the history ends. -/
theorem ofHistory_append (later : List (Operation K N T)) :
    ofHistory number (past ++ later) = later.foldl next (ofHistory number past) :=
  List.foldl_append

variable {number past}

/-- A node stays what it is, whatever happens later. -/
theorem node?_ofHistory_append {id : NodeId} {node : Node K N T}
    (h : (ofHistory number past).arena.node? id = some node) (later : List (Operation K N T)) :
    (ofHistory number (past ++ later)).arena.node? id = some node := by
  induction later using List.reverseRecOn with
  | nil => rwa [List.append_nil]
  | append_singleton later operation ih =>
    rw [← List.append_assoc, ofHistory_concat]
    rcases arena_next (reflects_ofHistory number (past ++ later)) operation with
      harena | ⟨operator, given, -, -, harena⟩
    · rwa [harena]
    · rw [harena]
      exact Arena.node?_push_of_eq_some ih _ _

/-- An operator with enough operands is made under the next id. -/
theorem perform_make_ofHistory {operator : Operator K N NodeId} (given : Option (Action K T))
    (henough : operator.hasEnoughOperands) :
    (ofHistory number past).perform (.make operator given) =
      (.ok (some (ofHistory number past).nextId),
        ofHistory number (past ++ [.make operator given])) := by
  rw [ofHistory_concat, next, perform_make, if_pos henough]

/-- An operator that is made has, under its id, the action that the past determines. -/
theorem node?_make {operator : Operator K N NodeId} (given : Option (Action K T))
    (henough : operator.hasEnoughOperands) :
    (ofHistory number (past ++ [.make operator given])).arena.node?
        (ofHistory number past).nextId =
      some ⟨operator, attached past operator given⟩ := by
  rw [ofHistory_concat, next, perform_make, if_pos henough,
    ← (reflects_ofHistory number past).attached]
  exact Arena.node?_push_self _ _ _

/-- A node comes from an operator that was made at some moment of the history. -/
theorem exists_make_of_node? {id : NodeId} {node : Node K N T}
    (h : (ofHistory number past).arena.node? id = some node) :
    ∃ before operator given later, past = before ++ .make operator given :: later ∧
      operator.hasEnoughOperands ∧ id = (ofHistory number before).nextId ∧
      node = ⟨operator, attached before operator given⟩ := by
  induction past using List.reverseRecOn with
  | nil => simp [ofHistory, new, Arena.empty, Arena.node?, Arena.get?] at h
  | append_singleton past operation ih =>
    -- What was made before the last operation was made after the same past as now.
    have hold : (ofHistory number past).arena.node? id = some node →
        ∃ before operator given later,
          past ++ [operation] = before ++ .make operator given :: later ∧
          operator.hasEnoughOperands ∧ id = (ofHistory number before).nextId ∧
          node = ⟨operator, attached before operator given⟩ := by
      intro hnode
      obtain ⟨before, operator, given, later, rfl, hmade⟩ := ih hnode
      exact ⟨before, operator, given, later ++ [operation], by simp, hmade⟩
    rw [ofHistory_concat] at h
    rcases arena_next (reflects_ofHistory number past) operation with
      harena | ⟨operator, given, rfl, henough, harena⟩
    · exact hold (harena ▸ h)
    · rw [harena, Arena.node?_push] at h
      split at h
      · next hid => exact ⟨past, operator, given, [], rfl, henough, hid, (Option.some.inj h).symm⟩
      · exact hold h

/-- What is refused can be left out of a history. -/
theorem ofHistory_refused {operation : Operation K N T} {e : GrammarError K N}
    (h : Refused past operation e) (later : List (Operation K N T)) :
    ofHistory number (past ++ operation :: later) = ofHistory number (past ++ later) := by
  have herror : ((ofHistory number past).perform operation).1 = .error e :=
    (perform_eq_error_iff (reflects_ofHistory number past)).2 h
  have hnext : (ofHistory number past).next operation = ofHistory number past :=
    perform_error herror
  rw [ofHistory_append, List.foldl_cons, hnext, ofHistory_append]

/-- A grammar has all nodes of its builder, and the start node has the action that the past
determines for the start symbol. -/
theorem node?_of_build {start : N} {rules : List (Rule N)} {g : Grammar K N T}
    (h : (ofHistory number past).build start rules = .ok g) :
    g.arena.node? g.startNode =
        some ⟨.nonTerminal start, attached past (.nonTerminal start) none⟩ ∧
      ∀ id node, (ofHistory number past).arena.node? id = some node →
        g.arena.node? id = some node := by
  obtain ⟨-, -, -, hnode, harena⟩ := Builder.build_eq_ok h
  have hstart : (ofHistory number past).registry.forName start =
      attached past (.nonTerminal start) none :=
    (reflects_ofHistory number past).attached (.nonTerminal start) none
  rw [hnode, harena, hstart]
  exact ⟨Arena.node?_push_self _ _ _, fun _ _ hid => Arena.node?_push_of_eq_some hid _ _⟩

end History

/-- **The action of a node is fixed by the history up to the moment at which it is made.** After any
history:

* the registry knows what was set, first for a tag or a name and last for a kind;
* an operator with enough operands is made under the next id;
* the nodes are those that were made at some moment, each with the action that what came before
  determines (`attached`), whatever came later;
* an operation fails exactly if the past refuses it; then it hands on the registry and the nodes as
  they were, and can be left out of the history;
* a grammar has these nodes and a start node, with the action for the start symbol. -/
theorem action_follows_history (number : Nat) (past : List (Operation K N T)) :
    (ofHistory number past).registry.Reflects past ∧
    (∀ operator given, operator.hasEnoughOperands →
      (ofHistory number past).perform (.make operator given) =
        (.ok (some (ofHistory number past).nextId),
          ofHistory number (past ++ [.make operator given]))) ∧
    (∀ id node, (ofHistory number past).arena.node? id = some node ↔
      ∃ before operator given later, past = before ++ .make operator given :: later ∧
        operator.hasEnoughOperands ∧ id = (ofHistory number before).nextId ∧
        node = ⟨operator, attached before operator given⟩) ∧
    (∀ operation e,
      ((ofHistory number past).perform operation).1 = .error e ↔ Refused past operation e) ∧
    (∀ operation e, Refused past operation e →
      ((ofHistory number past).perform operation).2 = ofHistory number past ∧
      ∀ later, ofHistory number (past ++ operation :: later) = ofHistory number (past ++ later)) ∧
    (∀ start rules g, (ofHistory number past).build start rules = .ok g →
      g.arena.node? g.startNode =
          some ⟨.nonTerminal start, attached past (.nonTerminal start) none⟩ ∧
        ∀ id node, (ofHistory number past).arena.node? id = some node →
          g.arena.node? id = some node) := by
  refine ⟨reflects_ofHistory number past, fun _ => perform_make_ofHistory,
    fun id node => ⟨exists_make_of_node?, ?_⟩,
    fun _ _ => perform_eq_error_iff (reflects_ofHistory number past),
    fun _ _ h => ⟨?_, ofHistory_refused h⟩, fun _ _ _ => node?_of_build⟩
  · rintro ⟨before, operator, given, later, rfl, henough, rfl, rfl⟩
    rw [List.append_cons]
    exact node?_ofHistory_append (node?_make given henough) later
  · exact perform_error ((perform_eq_error_iff (reflects_ofHistory number past)).2 h)

/-- The action that gives a number for every match. -/
def giving (value : Nat) : Action Char Nat where run _ _ := .done value

/-- A tag whose action is set twice, a kind whose default is set before and after a sequence is
made, and a name. -/
def mixed : List (Operation Char Char Nat) :=
  [.setTag 'a' (giving 1), .setTag 'a' (giving 2), .make (.terminal 'a') none,
    .setDefault .sequence (giving 3), .setDefault .sequence (giving 4),
    .make (.sequence [⟨0, 0⟩, ⟨0, 0⟩]) none, .setDefault .sequence (giving 5),
    .setName 'S' (giving 6)]

/-- The terminal has the first action of its tag, and the sequence the last default that was set
before. The second action of the tag is refused, and without it the builder is the same. The start
node has the action of the start symbol. -/
theorem action_follows_history_mixed :
    (ofHistory 0 mixed).arena.node? ⟨0, 0⟩ = some ⟨.terminal 'a', some (giving 1)⟩ ∧
    (ofHistory 0 mixed).arena.node? ⟨0, 1⟩ =
      some ⟨.sequence [⟨0, 0⟩, ⟨0, 0⟩], some (giving 4)⟩ ∧
    (ofHistory 0 (mixed.take 1)).perform (.setTag 'a' (giving 2)) =
      (.error (.duplicateTagAction 'a'), ofHistory 0 (mixed.take 1)) ∧
    ofHistory 0 mixed = ofHistory 0 (mixed.take 1 ++ mixed.drop 2) ∧
    ∃ g, (ofHistory 0 mixed).build 'S' [⟨'S', ⟨0, 1⟩⟩] = .ok g ∧
      g.arena.node? g.startNode = some ⟨.nonTerminal 'S', some (giving 6)⟩ := by
  obtain ⟨-, -, hnodes, -, -, hbuild⟩ := action_follows_history 0 mixed
  obtain ⟨-, -, -, herrors, hleave, -⟩ := action_follows_history 0 (mixed.take 1)
  have hrefused : Refused (mixed.take 1) (.setTag 'a' (giving 2)) (.duplicateTagAction 'a') :=
    .tag rfl
  refine ⟨?_, ?_, Prod.ext ((herrors _ _).2 hrefused) (hleave _ _ hrefused).1,
    (hleave _ _ hrefused).2 (mixed.drop 2), _, rfl, ?_⟩
  · exact (hnodes _ _).2 ⟨mixed.take 2, _, none, mixed.drop 3, rfl, rfl, rfl, rfl⟩
  · exact (hnodes _ _).2 ⟨mixed.take 5, _, none, mixed.drop 6, rfl, rfl, rfl, rfl⟩
  · exact (hbuild 'S' [⟨'S', ⟨0, 1⟩⟩] _ rfl).1

end Builder

end Packrat
