import Packrat.Proofs.GrammarText.Compilation
import Packrat.Proofs.Layout

/-!
# What is made of grammar text

A compiler makes the operators of the rules of a text in a builder, one for each that is written,
behind those that are there (`Compiler.generate_lays_out`). It does so from any builder, whatever
has been made in it before. If an identifier is not known, the operators made until then stay; if
the text is not read as rules, nothing is made.
-/

namespace Packrat.Compiler

open GrammarText (RawRule Reads)

variable {K N T : Type} {c : Compiler K N} {text : String} {rules : List RawRule}

/-- A rule of an arena is what a rule of a text stands for: its head stands for the head, and its
body has the tree of the body, with tags and rule names for identifiers. -/
structure StandsFor (c : Compiler K N) (a : Arena K N T) (raw : RawRule) (rule : Rule N) :
    Prop where
  head : c.rules.lookup raw.head = some rule.head
  body : ∃ e, c.lowering.ResolvesTo raw.body e ∧ a.unfold? rule.body = some e

/-- What a text is read as are rules that it is a writing of. -/
theorem reads_of_read (h : GrammarText.read text = .ok rules) : Reads text rules := by
  rcases GrammarText.reads_or_fault text with ⟨rules', hreads⟩ | ⟨e, he, -⟩
  · cases hreads.read.symm.trans h
    exact hreads
  · cases he.symm.trans h

variable [DecidableEq K] [DecidableEq N]

/-- The rules of a text whose identifiers are known are laid out in the builder. -/
theorem exists_generate_lays (hread : GrammarText.read text = .ok rules)
    (hknown : ∀ m ∈ rules.flatMap RawRule.mentions, c.Knows m) (b : Builder K N T) :
    ∃ made b', c.generate text b = (.ok made, b') ∧
      List.Forall₂ (c.StandsFor b'.arena) rules made ∧
      b'.arena.ids = b.arena.ids ++ made.flatMap fun rule => b'.arena.occurrences rule.body := by
  have hfull : ∀ r ∈ rules.map (fun r => (r.head, r.body)), r.2.Full :=
    List.forall_mem_map.2 (reads_of_read hread).writing.full
  have hnone : ∀ m ∈ (rules.map fun r => (r.head, r.body)).flatMap Lowering.ruleMentions,
      c.lowering.refusal? m = none := by
    rw [List.flatMap_map]
    exact fun m hm => refusal?_eq_none.2 (hknown m hm)
  obtain ⟨resolved, hresolved⟩ := Lowering.exists_rules hnone
  obtain ⟨made, b', hlower, hverbatim⟩ := Lowering.agree_lowerRules hresolved hfull b
  obtain ⟨hheads, htrees, hids⟩ := Lowering.lays_lowerRules hverbatim
  refine ⟨made, b', by simp only [generate, hread, hlower], ?_, ?_⟩
  · -- Heads and bodies of the rules that are made, beside those that the text resolves to.
    have hmade : List.Forall₂
        (fun x rule => rule.head = x.1 ∧ b'.arena.unfold? rule.body = some x.2) resolved made := by
      rw [List.forall₂_map_left_iff, List.forall₂_map_right_iff] at htrees
      have hsame := List.forall₂_iff_zip.1 (map_eq_map_iff_forall₂.1 hheads).flip
      have hbodies := List.forall₂_iff_zip.1 htrees.flip
      exact List.forall₂_iff_zip.2 ⟨hsame.1, fun hmem => ⟨hsame.2 hmem, hbodies.2 hmem⟩⟩
    rw [List.forall₂_map_left_iff] at hresolved
    refine forall₂_comp ?_ hresolved hmade
    rintro raw ⟨_, body⟩ rule ⟨hhead, hbody⟩ ⟨rfl, hunfold⟩
    exact ⟨name_eq_ok.1 hhead, body, hbody, hunfold⟩
  · rw [hids, List.flatMap_map]

/-- The error is one of the text only if the text is not read. -/
theorem read_of_generate {e : GrammarText.TextError} {b : Builder K N T}
    (h : (c.generate text b).1 = .error (.text e)) : GrammarText.read text = .error e := by
  cases hread : GrammarText.read text with
  | error e' =>
    rw [generate, hread] at h
    cases h
    rfl
  | ok rules =>
    cases hfirst : (rules.flatMap RawRule.mentions).findSome? c.lowering.refusal? with
    | none =>
      have hknown : ∀ m ∈ rules.flatMap RawRule.mentions, c.Knows m := fun m hm =>
        refusal?_eq_none.1 (List.findSome?_eq_none_iff.1 hfirst m hm)
      obtain ⟨made, b', hgenerate, -⟩ := exists_generate_lays hread hknown b
      rw [hgenerate] at h
      cases h
    | some err =>
      obtain ⟨before, m, after, hmentions, hm, hbefore⟩ := List.findSome?_eq_some_iff.1 hfirst
      have hunknown : ¬c.Knows m := fun hknown => by simp [refusal?_eq_none.2 hknown] at hm
      rw [generate_of_unknown (reads_of_read hread) hmentions
        (fun x hx => refusal?_eq_none.1 (hbefore x hx)) hunknown] at h
      cases m <;> cases h

/-- **What is made of grammar text is what is written.** If a text is read as rules whose
identifiers are all known, then there is a rule for each of them, in this order, with the head and
the tree that it stands for, and the ids of the builder are those it had and one for each operator
of these trees, all of them different. Whatever comes of the text, the builder has only grown, by
operators with the actions that its registry has for them. If the error is that the text is not
read, it has not even grown. -/
theorem generate_lays_out (c : Compiler K N) (text : String) (b : Builder K N T) :
    (∀ rules, GrammarText.read text = .ok rules →
      (∀ m ∈ rules.flatMap RawRule.mentions, c.Knows m) →
      ∃ made b', c.generate text b = (.ok made, b') ∧
        List.Forall₂ (c.StandsFor b'.arena) rules made ∧
        b'.arena.ids = b.arena.ids ++ (made.flatMap fun rule => b'.arena.occurrences rule.body) ∧
        b'.arena.ids.Nodup) ∧
    b.Grows (c.generate text b).2 ∧
    (∀ e, GrammarText.read text = .error e → c.generate text b = (.error (.text e), b)) ∧
    ∀ e, (c.generate text b).1 = .error (.text e) → (c.generate text b).2 = b := by
  have herror : ∀ e, GrammarText.read text = .error e →
      c.generate text b = (.error (.text e), b) := fun e he => by simp only [generate, he]
  refine ⟨fun rules hread hknown => ?_, ?_, herror, fun e he => ?_⟩
  · obtain ⟨made, b', hgenerate, hmade, hids⟩ := exists_generate_lays hread hknown b
    exact ⟨made, b', hgenerate, hmade, hids, b'.arena.nodup_ids⟩
  · cases hread : GrammarText.read text with
    | error e =>
      rw [herror e hread]
      exact .refl b
    | ok rules =>
      simp only [generate, hread]
      exact c.lowering.grows_lowerRules _ b
  · rw [herror e (read_of_generate he)]

/-- A text of two rules is read. -/
theorem isSome_read_twoRules : (GrammarText.read "A=>[x]C=>B").toOption.isSome := by
  decide +kernel

/-- The rules are made behind an operator that was there before. -/
theorem generate_lays_out_twoRules :
    ∃ rules made b', GrammarText.read "A=>[x]C=>B" = .ok rules ∧
      doubled.generate "A=>[x]C=>B"
        (Builder.of [.emptyString] : Builder Char Char Unit) = (.ok made, b') ∧
      List.Forall₂ (doubled.StandsFor b'.arena) rules made ∧
      b'.arena.ids = [⟨0, 0⟩] ++ made.flatMap fun rule => b'.arena.occurrences rule.body := by
  have hread := eq_ok_of_isSome_toOption isSome_read_twoRules
  have hnone : (((Option.get _ isSome_read_twoRules).flatMap RawRule.mentions).findSome?
      doubled.lowering.refusal?).isNone := by decide +kernel
  have hknown : ∀ m ∈ (Option.get _ isSome_read_twoRules).flatMap RawRule.mentions,
      doubled.Knows m := fun m hm =>
    refusal?_eq_none.1 (List.findSome?_eq_none_iff.1 (Option.isNone_iff_eq_none.1 hnone) m hm)
  obtain ⟨hlays, -⟩ := generate_lays_out doubled "A=>[x]C=>B"
    (Builder.of [.emptyString] : Builder Char Char Unit)
  obtain ⟨made, b', hgenerate, hmade, hids, -⟩ := hlays _ hread hknown
  exact ⟨_, made, b', hread, hgenerate, hmade, hids⟩

end Packrat.Compiler
