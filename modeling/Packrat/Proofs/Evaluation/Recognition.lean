import Packrat.Proofs.Evaluation.Sharing

/-!
# Actions and recognition

Actions make values, and values never decide what is recognized. Grammars with the same operators,
rules and start symbol may have any actions, over any types of values and on any of their operators
(`Grammar.SameButActions`), yet they parse every input alike: with the same outcome but for its
value, the same counts, and the same memo table but for its values (`Grammar.parseWith_recognizes`).
The number of the arena is of no account either.
-/

namespace Packrat

variable {K N T₁ T₂ : Type}

/-- The id with the number of one arena in place of that of another one, and the other way round. -/
def NodeId.renumber (k₁ k₂ : Nat) (id : NodeId) : NodeId := ⟨Equiv.swap k₁ k₂ id.arena, id.index⟩

theorem NodeId.renumber_injective (k₁ k₂ : Nat) : Function.Injective (NodeId.renumber k₁ k₂) := by
  rintro ⟨arena, index⟩ ⟨arena', index'⟩ h
  obtain ⟨harena, hindex⟩ := NodeId.mk.inj h
  cases (Equiv.swap k₁ k₂).injective harena
  cases hindex
  rfl

/-- The second arena has the operators of the first, up to the number of the arena. -/
theorem Arena.get?_renumber {a₁ : Arena K N T₁} {a₂ : Arena K N T₂}
    (h : a₂.operators.toList =
      a₁.operators.toList.map (Operator.map (NodeId.renumber a₁.id a₂.id))) (id : NodeId) :
    a₂.get? (id.renumber a₁.id a₂.id) =
      (a₁.get? id).map (Operator.map (NodeId.renumber a₁.id a₂.id)) := by
  obtain ⟨arena, index⟩ := id
  by_cases harena : arena = a₁.id
  · subst harena
    have hown : Equiv.swap a₁.id a₂.id a₁.id = a₂.id := Equiv.swap_apply_left _ _
    simp only [get?, NodeId.renumber, hown, if_true, ← Array.getElem?_toList, h, List.getElem?_map]
  · have hforeign : Equiv.swap a₁.id a₂.id arena ≠ a₂.id := by
      intro heq
      rw [Equiv.swap_apply_eq_iff, Equiv.swap_apply_right] at heq
      exact harena heq
    simp [get?, NodeId.renumber, harena, hforeign]

namespace Grammar

/-- The grammars have the same operators, rules and start symbol, up to the number of the arena. -/
structure SameButActions (g₁ : Grammar K N T₁) (g₂ : Grammar K N T₂) : Prop where
  operators : g₂.arena.operators.toList =
    g₁.arena.operators.toList.map (Operator.map (NodeId.renumber g₁.arena.id g₂.arena.id))
  rules : g₂.rules = g₁.rules.map fun rule =>
    ⟨rule.head, rule.body.renumber g₁.arena.id g₂.arena.id⟩
  start : g₂.start = g₁.start

namespace SameButActions

variable [DecidableEq N] {g₁ : Grammar K N T₁} {g₂ : Grammar K N T₂} {b₁ : Builder K N T₁}
  {b₂ : Builder K N T₂} {start : N} {rules₁ rules₂ : List (Rule N)}

omit [DecidableEq N] in
theorem size_eq (h : g₁.SameButActions g₂) : g₂.arena.size = g₁.arena.size := by
  simpa [Arena.size] using congrArg List.length h.operators

theorem body?_eq (h : g₁.SameButActions g₂) (name : N) :
    g₂.body? name = (g₁.body? name).map (NodeId.renumber g₁.arena.id g₂.arena.id) := by
  rw [body?, body?, h.rules, List.find?_map, Option.map_map, Option.map_map]
  rfl

/-- The start nodes are at the same place. -/
theorem startNode_eq (h : g₁.SameButActions g₂) (hg₁ : b₁.build start rules₁ = .ok g₁)
    (hg₂ : b₂.build start rules₂ = .ok g₂) :
    g₁.startNode.renumber g₁.arena.id g₂.arena.id = g₂.startNode := by
  obtain ⟨-, -, -, hnode₁, harena₁⟩ := Builder.build_eq_ok hg₁
  obtain ⟨-, -, -, hnode₂, harena₂⟩ := Builder.build_eq_ok hg₂
  have hsize := h.size_eq
  rw [harena₁, harena₂] at hsize
  have hsize' : b₂.arena.size = b₁.arena.size := by
    simpa [Arena.push, Arena.size] using hsize
  rw [hnode₁, hnode₂, harena₁, harena₂]
  simp [NodeId.renumber, Arena.push, Arena.idAt, hsize']

/-- The marked trees agree up to the number of the arena. -/
theorem markedTree?_eq (h : g₁.SameButActions g₂) (hb₁ : b₁.Made)
    (hg₁ : b₁.build start rules₁ = .ok g₁) (name : N) :
    g₂.markedTree? name = (g₁.markedTree? name).map
      (Expr.rename fun x => (x.1, x.2.renumber g₁.arena.id g₂.arena.id)) := by
  cases hbody : g₁.body? name with
  | none =>
    rw [markedTree?, markedTree?, h.body?_eq, hbody]
    rfl
  | some body =>
    obtain ⟨t, ht, htree, -⟩ := exists_tree_of_body? hb₁ hg₁ hbody
    have hsize : g₂.arena.marked.size = g₁.arena.marked.size := by
      simpa [Arena.marked, Arena.size] using h.size_eq
    rw [htree, markedTree?, h.body?_eq, hbody]
    show g₂.arena.marked.unfold? _ = _
    rw [ Arena.unfold?, hsize]
    exact Arena.unfolding_marked_of_map (Arena.get?_renumber h.operators) ht

/-- The trees agree. -/
theorem tree?_eq (h : g₁.SameButActions g₂) (hb₁ : b₁.Made) (hb₂ : b₂.Made)
    (hg₁ : b₁.build start rules₁ = .ok g₁) (hg₂ : b₂.build start rules₂ = .ok g₂) (name : N) :
    g₁.tree? name = g₂.tree? name := by
  cases hbody : g₁.body? name with
  | none =>
    rw [tree?, tree?, h.body?_eq, hbody]
    rfl
  | some body =>
    have hbody₂ := h.body?_eq name
    rw [hbody] at hbody₂
    obtain ⟨t₁, -, hmarked₁, htree₁⟩ := exists_tree_of_body? hb₁ hg₁ hbody
    obtain ⟨t₂, -, hmarked₂, htree₂⟩ := exists_tree_of_body? hb₂ hg₂ hbody₂
    have hmarked := h.markedTree?_eq hb₁ hg₁ name
    rw [hmarked₁, hmarked₂] at hmarked
    cases hmarked
    rw [htree₁, htree₂, Expr.rename_rename]

/-- Non-terminals are shared alike. -/
theorem sharedAlike (h : g₁.SameButActions g₂) (hb₁ : b₁.Made)
    (hg₁ : b₁.build start rules₁ = .ok g₁) (hg₂ : b₂.build start rules₂ = .ok g₂) :
    SharedAlike (NodeId.renumber g₁.arena.id g₂.arena.id) g₁ g₂ where
  injective := NodeId.renumber_injective _ _
  startNode := h.startNode_eq hg₁ hg₂
  bodies name := by
    rw [h.markedTree?_eq hb₁ hg₁, Option.map_map]
    congr 1
    funext t
    exact (Expr.spliced_rename _ t).symm

end SameButActions

/-- Entries that agree with the same entry but for values agree with one another. -/
theorem rel_of_rel {found₁ : Option (Outcome T₁)} {found₂ : Option (Outcome T₂)}
    {found : Option (Outcome Unit)} (h₁ : Option.Rel (Outcome.Rel fun _ _ => True) found₁ found)
    (h₂ : Option.Rel (Outcome.Rel fun _ _ => True) found₂ found) :
    Option.Rel (Outcome.Rel fun _ _ => True) found₁ found₂ := by
  cases h₁ with
  | none =>
    cases h₂
    exact .none
  | some h₁ =>
    cases h₂ with
    | some h₂ => exact .some (h₁.of_rel h₂)

variable [DecidableEq K] [DecidableEq N] [ToString K] [ToString N] {b₁ : Builder K N T₁}
  {b₂ : Builder K N T₂} {start : N} {rules₁ rules₂ : List (Rule N)} {g₁ : Grammar K N T₁}
  {g₂ : Grammar K N T₂}

/-- **Actions never decide what is recognized.** Grammars that differ in nothing but their actions,
and the types of values that these make, parse every input alike: both match the same tokens or fail
at the same position, with the same counts of calls, of calls answered from the memo table and of
calls refused. In the end both memo tables know the same of every rule, position and mode: nothing,
a match of the same tokens, or a failure at the same position. -/
theorem parseWith_recognizes [Inhabited T₁] [Inhabited T₂] (hb₁ : b₁.Made) (hb₂ : b₂.Made)
    (hg₁ : b₁.build start rules₁ = .ok g₁) (hg₂ : b₂.build start rules₂ = .ok g₂)
    (h : g₁.SameButActions g₂) (input : Array (Token K)) (context₁ : Context N T₁)
    (context₂ : Context N T₂) (labels₁ labels₂ : Labels) :
    Outcome.Rel (fun _ _ => True) (g₁.parseWith input context₁ labels₁).1
        (g₂.parseWith input context₂ labels₂).1 ∧
      (g₁.parseWith input context₁ labels₁).2.context.stats =
        (g₂.parseWith input context₂ labels₂).2.context.stats ∧
      ∀ name p mode, Option.Rel (Outcome.Rel fun _ _ => True)
        ((g₁.parseWith input context₁ labels₁).2.context.memo.find? name p mode)
        ((g₂.parseWith input context₂ labels₂).2.context.memo.find? name p mode) := by
  obtain ⟨hrel₁, hbooks₁⟩ := parseWith_silent hb₁ hg₁ input context₁ labels₁
  obtain ⟨hrel₂, hbooks₂⟩ := parseWith_silent hb₂ hg₂ input context₂ labels₂
  have htrees : ∀ name, (g₁.tree? name).map Expr.spliced = (g₂.tree? name).map Expr.spliced :=
    fun name => congrArg _ (h.tree?_eq hb₁ hb₂ hg₁ hg₂ name)
  obtain ⟨houtcome, hbooks⟩ :=
    parseWith_silent_translated hb₁ hb₂ hg₁ hg₂ htrees (h.sharedAlike hb₁ hg₁ hg₂) input
  refine ⟨?_, ?_, fun name p mode => ?_⟩
  · rw [houtcome] at hrel₁
    exact hrel₁.of_rel hrel₂
  · rw [hbooks₁.stats, hbooks₂.stats, hbooks.stats]
  · have hmemo₁ := hbooks₁.memo name p mode
    rw [hbooks.memo] at hmemo₁
    exact rel_of_rel hmemo₁ (hbooks₂.memo name p mode)

/-- Left-recursive rules without any action, made in another arena. -/
def elsewhere : Except (GrammarError Char Char) (List (Rule Char)) × Builder Char Char Unit :=
  Lowering.verbatim.lowerRules leftRecursive (.new 1 {})

theorem isSome_elsewhere : elsewhere.1.toOption.isSome := by decide

theorem isSome_build_elsewhere :
    (elsewhere.2.build 'S' (elsewhere.1.toOption.get isSome_elsewhere)).toOption.isSome := by
  decide

/-- With an action on every operator the rules are recognized like without any. -/
theorem parseWith_recognizes_leftRecursive :
    ∃ (g₁ : Grammar Char Char String) (g₂ : Grammar Char Char Unit),
      ofExprs nodeTexts 'S' leftRecursive = .ok g₁ ∧ g₁.arena.id = 0 ∧ g₂.arena.id = 1 ∧
        ∀ input : Array (Token Char),
          Outcome.Rel (fun _ _ => True) (g₁.parseWith input {} ∅).1 (g₂.parseWith input {} ∅).1 ∧
            (g₁.parseWith input {} ∅).2.context.stats =
              (g₂.parseWith input {} ∅).2.context.stats := by
  have hok : (ofExprs nodeTexts 'S' leftRecursive).toOption.isSome := by decide
  have hg₁ := eq_ok_of_isSome_toOption hok
  obtain ⟨b₁, rules₁, hb₁, hbuild₁, -⟩ := ofExprs_made hg₁
  have hlower : Lowering.verbatim.lowerRules leftRecursive (.new 1 {}) =
      (.ok (elsewhere.1.toOption.get isSome_elsewhere), elsewhere.2) :=
    Prod.ext (eq_ok_of_isSome_toOption isSome_elsewhere) rfl
  obtain ⟨hext, -⟩ := Lowering.lowerRules_holds leftRecursive hlower
  have hb₂ : elsewhere.2.Made := hext.made (.new 1 {})
  have hbuild₂ := eq_ok_of_isSome_toOption isSome_build_elsewhere
  refine ⟨_, Option.get _ isSome_build_elsewhere, hg₁, rfl, rfl, fun input => ?_⟩
  obtain ⟨houtcome, hstats, -⟩ :=
    parseWith_recognizes hb₁ hb₂ hbuild₁ hbuild₂ ⟨rfl, rfl, rfl⟩ input {} {} ∅ ∅
  exact ⟨houtcome, hstats⟩

end Grammar

end Packrat
