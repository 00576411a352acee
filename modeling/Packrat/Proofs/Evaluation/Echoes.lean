import Packrat.Proofs.Evaluation.TreeMoves

/-!
# Moves that echo one another

Two operators can do the same work and still not be tried alike: one may try an operand once more
than the other, and they may fail at different positions. What others see of them is only whether
they match and which tokens (`Outcome.Agree`).

A move echoes another one if it agrees with it wherever that one ends, from whatever run either of
them starts (`Move.EchoedBy`). A move that is echoed at all therefore always says the same, and
trying it once more changes nothing. Operators echo one another if their operands do
(`Operator.move_echoes`), and so do expressions if the calls in them do (`Expr.move_echoes`).

The second half takes the operators that can be expressed by others one by one:
`Move.EchoedBy.oneOrMore`, `optional` and `andPredicate`, and choices and sequences within others
of their kind (`Move.firstOf_splice`, `Move.inOrder_splice`).
-/

namespace Packrat

variable {K N ν ν₁ ν₂ T₁ T₂ : Type}

/-! ## Outcomes that agree -/

/-- Outcomes at `p` that match the same tokens of an input of `size` tokens, or both fail. -/
inductive Outcome.Agree (size p : Nat) : Outcome T₁ → Outcome T₂ → Prop
  | matched {next : Nat} {span : Span} {v₁ : T₁} {v₂ : T₂} : p ≤ next → next ≤ size →
      Agree size p (.matched next span v₁) (.matched next span v₂)
  | failed (q₁ q₂ : Nat) : Agree size p (.failed q₁) (.failed q₂)

namespace Outcome

variable {T : Type} {size p stop : Nat}

/-- The same tokens matched, from `p` up to a position within the input. -/
theorem Agree.matchedAt (hp : p ≤ stop) (hstop : stop ≤ size) (v₁ : T₁) (v₂ : T₂) :
    Agree size p (.matchedAt p (stop - p) v₁) (.matchedAt p (stop - p) v₂) := by
  have hnext : p + (stop - p) = stop := Nat.add_sub_of_le hp
  exact .matched (by omega) (by omega)

/-- Nothing matched. -/
theorem Agree.empty (hp : p ≤ size) (v₁ : T₁) (v₂ : T₂) :
    Agree size p (.matchedAt p 0 v₁) (.matchedAt p 0 v₂) := .matched (Nat.le_refl p) hp

/-- Outcomes that agree, the other way round. -/
theorem Agree.symm {o₁ : Outcome T₁} {o₂ : Outcome T₂} (h : Agree size p o₁ o₂) :
    Agree size p o₂ o₁ := by
  cases h with
  | matched hp hsize => exact .matched hp hsize
  | failed q₁ q₂ => exact .failed q₂ q₁

/-- Outcomes that agree one after the other. -/
theorem Agree.trans {o₁ : Outcome T₁} {o : Outcome T} {o₂ : Outcome T₂} (h : Agree size p o₁ o)
    (h' : Agree size p o o₂) : Agree size p o₁ o₂ := by
  cases h with
  | matched hp hsize => cases h' with | matched _ _ => exact .matched hp hsize
  | failed q₁ q => cases h' with | failed _ q₂ => exact .failed q₁ q₂

/-- Whole parses agree if their start symbols do. -/
theorem Agree.complete {o₁ : Outcome T₁} {o₂ : Outcome T₂} (h : Agree size p o₁ o₂) :
    Agree size p (o₁.complete size) (o₂.complete size) := by
  cases h with
  | failed q₁ q₂ => exact .failed q₁ q₂
  | @matched next span v₁ v₂ hp hsize =>
    simp only [Outcome.complete]
    split
    · exact .matched hp hsize
    · exact .failed next next

/-- Outcomes that agree match alike, the same tokens. -/
theorem Agree.same {o₁ : Outcome T₁} {o₂ : Outcome T₂} (h : Agree size p o₁ o₂) :
    o₁.isMatch = o₂.isMatch ∧
      (o₁.isMatch = true → o₁.next = o₂.next ∧ o₁.span? = o₂.span?) := by
  cases h with
  | matched _ _ => exact ⟨rfl, fun _ => ⟨rfl, rfl⟩⟩
  | failed q₁ q₂ => exact ⟨rfl, nofun⟩

/-- Outcomes agree if others do that differ from them in their values. -/
theorem Agree.of_rel {o₁ : Outcome T₁} {o₂ : Outcome T₂} {o o' : Outcome T} (h : Agree size p o o')
    (h₁ : Outcome.Rel (fun _ _ => True) o₁ o) (h₂ : Outcome.Rel (fun _ _ => True) o₂ o') :
    Agree size p o₁ o₂ := by
  cases h with
  | matched hp hsize =>
    cases h₁ with | matched _ _ _ => cases h₂ with | matched _ _ _ => exact .matched hp hsize
  | failed q q' => cases h₁ with | failed _ => cases h₂ with | failed _ => exact .failed q q'

end Outcome

/-! ## Moves -/

namespace Move

/-- The second move agrees with the first wherever the first one ends, from whatever runs. -/
def EchoedBy (size : Nat) (m₁ m₂ : Move N) : Prop :=
  ∀ p, p ≤ size → ∀ mode r₁ r₂,
    Follows False (Outcome.Agree size p) (fun _ _ => True) (m₁ p mode r₁) (m₂ p mode r₂)

variable {size p : Nat} {mode : Mode} {m₁ m₂ m₃ : Move N} {ms₁ ms₂ : List (Move N)}
  {r₁ r₂ : Run N Unit}

/-- Where the first move ends, the second one does. -/
theorem EchoedBy.exists (h : EchoedBy size m₁ m₂) (hp : p ≤ size) {o₁ : Outcome Unit}
    {r₁' : Run N Unit} (hm : m₁ p mode r₁ = some (o₁, r₁')) (r₂ : Run N Unit) :
    ∃ o₂ r₂', m₂ p mode r₂ = some (o₂, r₂') ∧ Outcome.Agree size p o₁ o₂ := by
  obtain ⟨o₂, r₂', hm₂, hagree, -⟩ := (h p hp mode r₁ r₂).exists hm
  exact ⟨o₂, r₂', hm₂, hagree⟩

/-- Moves that echo one another in turn. -/
theorem EchoedBy.trans (h : EchoedBy size m₁ m₂) (h' : EchoedBy size m₂ m₃) :
    EchoedBy size m₁ m₃ := by
  intro p hp mode r₁ r₃ o₁ r₁' hm₁
  obtain ⟨o₂, r₂', hm₂, hagree⟩ := h.exists hp hm₁ r₁
  obtain ⟨o₃, r₃', hm₃, hagree'⟩ := h'.exists hp hm₂ r₃
  exact .inr ⟨o₃, r₃', hm₃, hagree.trans hagree', trivial⟩

/-- A move that finds less is echoed as well. -/
theorem Le.echoedBy (h : Le m₁ m₂) (h' : EchoedBy size m₂ m₃) : EchoedBy size m₁ m₃ := by
  intro p hp mode r₁ r₃ o₁ r₁' hm₁
  exact h' p hp mode r₁ r₃ (h.eq_some hm₁)

/-- A move that finds more echoes as well. -/
theorem EchoedBy.le (h : EchoedBy size m₁ m₂) (h' : Le m₂ m₃) : EchoedBy size m₁ m₃ := by
  intro p hp mode r₁ r₃ o₁ r₁' hm₁
  obtain ⟨o₂, r₂', hm₂, hagree⟩ := h.exists hp hm₁ r₃
  exact .inr ⟨o₂, r₂', h'.eq_some hm₂, hagree, trivial⟩

/-- A move that is the same within the input is echoed alike. -/
theorem echoedBy_of_eq (h : ∀ p, p ≤ size → ∀ mode r, m₁ p mode r = m₂ p mode r)
    (h' : EchoedBy size m₂ m₃) : EchoedBy size m₁ m₃ := by
  intro p hp mode r₁ r₃
  rw [h p hp mode r₁]
  exact h' p hp mode r₁ r₃

/-- Moves one after the other agree on whether they match, and up to where. -/
theorem inOrder_echoes (h : List.Forall₂ (EchoedBy size) ms₁ ms₂) (hp : p ≤ size)
    (r₁ r₂ : Run N Unit) :
    Follows False
      (fun x₁ x₂ => x₁.toOption = x₂.toOption ∧ ∀ stop, x₁ = .ok stop → p ≤ stop ∧ stop ≤ size)
      (fun _ _ => True) (inOrder mode ms₁ p r₁) (inOrder mode ms₂ p r₂) := by
  induction h generalizing p r₁ r₂ with
  | nil =>
    refine .some ⟨rfl, fun stop hstop => ?_⟩ trivial
    cases hstop
    exact ⟨Nat.le_refl p, hp⟩
  | cons hm _ ih =>
    intro x r hr
    rw [inOrder] at hr ⊢
    split at hr
    · cases hr
    · next hfirst =>
      obtain ⟨o₂, r₂', hfirst₂, hagree⟩ := hm.exists hp hfirst r₂
      cases hagree
      rw [hfirst₂]
      cases hr
      refine .inr ⟨_, _, rfl, ⟨rfl, fun stop hstop => ?_⟩, trivial⟩
      cases hstop
    · next hfirst =>
      obtain ⟨o₂, r₂', hfirst₂, hagree⟩ := hm.exists hp hfirst r₂
      cases hagree with
      | matched hle hsize =>
        rw [hfirst₂]
        obtain ⟨x₂, r₂'', hx₂, ⟨hsame, hstop⟩, -⟩ := (ih hsize _ r₂').exists hr
        refine .inr ⟨x₂, r₂'', hx₂, ⟨hsame, fun stop hx => ?_⟩, trivial⟩
        obtain ⟨hle', hsize'⟩ := hstop stop hx
        exact ⟨Nat.le_trans hle hle', hsize'⟩

/-- The first moves that match agree. -/
theorem firstOf_echoes (h : List.Forall₂ (EchoedBy size) ms₁ ms₂) (hp : p ≤ size)
    (r₁ r₂ : Run N Unit) :
    Follows False (Outcome.Agree size p) (fun _ _ => True) (firstOf p mode ms₁ r₁)
      (firstOf p mode ms₂ r₂) := by
  induction h generalizing r₁ r₂ with
  | nil => exact .some (.failed p p) trivial
  | cons hm _ ih =>
    intro x r hr
    rw [firstOf] at hr ⊢
    split at hr
    · cases hr
    · next hfirst =>
      obtain ⟨o₂, r₂', hfirst₂, hagree⟩ := hm.exists hp hfirst r₂
      cases hagree
      rw [hfirst₂]
      exact ih _ _ hr
    · next hfirst =>
      obtain ⟨o₂, r₂', hfirst₂, hagree⟩ := hm.exists hp hfirst r₂
      cases hagree with
      | matched hle hsize =>
        rw [hfirst₂]
        cases hr
        exact .inr ⟨_, _, rfl, .matched hle hsize, trivial⟩

/-- Repeated moves agree, however many turns are allowed, if there is one for each token that is
left. -/
theorem again_echoes (h : EchoedBy size m₁ m₂) (turns₁ : Nat) {turns₂ : Nat}
    (hturns : size < turns₂ + p) (hp : p ≤ size) (turned : Bool) (r₁ r₂ : Run N Unit) :
    Follows False (fun x₁ x₂ => x₁ = x₂ ∧ p ≤ x₁.1 ∧ x₁.1 ≤ size) (fun _ _ => True)
      (again size m₁ mode turns₁ p turned r₁) (again size m₂ mode turns₂ p turned r₂) := by
  induction turns₁ generalizing turns₂ p turned r₁ r₂ with
  | zero => exact nofun
  | succ turns₁ ih =>
    obtain ⟨turns₂, rfl⟩ := Nat.exists_eq_succ_of_ne_zero (by omega : turns₂ ≠ 0)
    intro x r hr
    rw [again] at hr ⊢
    split at hr
    · cases hr
    · next hfirst =>
      obtain ⟨o₂, r₂', hfirst₂, hagree⟩ := h.exists hp hfirst r₂
      cases hagree
      rw [hfirst₂]
      cases hr
      exact .inr ⟨_, _, rfl, ⟨rfl, Nat.le_refl p, hp⟩, trivial⟩
    · next next span value r₁' hfirst =>
      obtain ⟨o₂, r₂', hfirst₂, hagree⟩ := h.exists hp hfirst r₂
      cases hagree with
      | matched hle hsize =>
        rw [hfirst₂]
        dsimp only
        split at hr
        · next hgo =>
          rw [if_pos hgo]
          obtain ⟨x₂, r₂'', hx₂, ⟨hsame, hstop⟩, -⟩ :=
            (ih (by omega : size < turns₂ + next) hsize true _ r₂').exists hr
          exact .inr ⟨x₂, r₂'', hx₂, ⟨hsame, by omega⟩, trivial⟩
        · next hstop =>
          rw [if_neg hstop]
          cases hr
          exact .inr ⟨_, _, rfl, ⟨rfl, hle, hsize⟩, trivial⟩

end Move

/-- **Operators echo one another** if their operands and the rules that they call do. -/
theorem Operator.move_echoes [DecidableEq K] {input : Array (Token K)} {Q : ν₁ → ν₂ → Prop}
    {call₁ : ν₁ → Move N} {call₂ : ν₂ → Move N}
    (hcall : ∀ x y, Q x y → Move.EchoedBy input.size (call₁ x) (call₂ y))
    {op₁ : Operator K ν₁ (Move N)} {op₂ : Operator K ν₂ (Move N)}
    (h : Operator.Rel Q (Move.EchoedBy input.size) op₁ op₂) :
    Move.EchoedBy input.size (op₁.move input call₁) (op₂.move input call₂) := by
  intro p hp mode r₁ r₂
  have hturns : input.size < input.size + 1 + p := by omega
  cases h with
  | terminal tag =>
    refine .some ?_ trivial
    split
    · next htoken =>
      obtain ⟨token, htoken, -⟩ := (Option.any_eq_true _ _).1 htoken
      have hlt : p < input.size := (Array.getElem?_eq_some_iff.1 htoken).1
      exact .matched (Nat.le_succ p) hlt
    · exact .failed p p
  | nonTerminal h => exact hcall _ _ h p hp mode r₁ r₂
  | emptyString =>
    simp only [move, if_pos hp]
    exact .some (.empty hp () ()) trivial
  | sequence h =>
    intro o r hr
    dsimp only [move] at hr ⊢
    split at hr
    · cases hr
    · next hall =>
      obtain ⟨x₂, r₂', hall₂, ⟨hsame, -⟩, -⟩ := (Move.inOrder_echoes h hp r₁ r₂).exists hall
      cases x₂ with
      | ok stop => cases hsame
      | error q =>
        rw [hall₂]
        cases hr
        exact .inr ⟨_, _, rfl, .failed _ q, trivial⟩
    · next hall =>
      obtain ⟨x₂, r₂', hall₂, ⟨hsame, hstop⟩, -⟩ := (Move.inOrder_echoes h hp r₁ r₂).exists hall
      cases x₂ with
      | error q => cases hsame
      | ok stop =>
        obtain ⟨hle, hsize⟩ := hstop _ rfl
        cases hsame
        rw [hall₂]
        cases hr
        exact .inr ⟨_, _, rfl, .matchedAt hle hsize () (), trivial⟩
  | orderedChoice h => exact Move.firstOf_echoes h hp r₁ r₂
  | optional h =>
    intro o r hr
    simp only [move, if_pos hp] at hr ⊢
    split at hr
    · cases hr
    · next hop =>
      obtain ⟨o₂, r₂', hop₂, hagree⟩ := h.exists hp hop r₂
      cases hagree with
      | matched hle hsize =>
        rw [hop₂]
        cases hr
        exact .inr ⟨_, _, rfl, .matched hle hsize, trivial⟩
    · next hop =>
      obtain ⟨o₂, r₂', hop₂, hagree⟩ := h.exists hp hop r₂
      cases hagree
      rw [hop₂]
      cases hr
      exact .inr ⟨_, _, rfl, .empty hp () (), trivial⟩
  | zeroOrMore h =>
    intro o r hr
    dsimp only [move] at hr ⊢
    split at hr
    · cases hr
    · next hrep =>
      obtain ⟨_, r₂', hrep₂, ⟨rfl, hle, hsize⟩, -⟩ :=
        (Move.again_echoes h (input.size + 1) hturns hp false r₁ r₂).exists hrep
      rw [hrep₂]
      cases hr
      exact .inr ⟨_, _, rfl, .matchedAt hle hsize () (), trivial⟩
  | oneOrMore h =>
    intro o r hr
    dsimp only [move] at hr ⊢
    split at hr
    · cases hr
    · next hrep =>
      obtain ⟨_, r₂', hrep₂, ⟨rfl, -⟩, -⟩ :=
        (Move.again_echoes h (input.size + 1) hturns hp false r₁ r₂).exists hrep
      rw [hrep₂]
      cases hr
      exact .inr ⟨_, _, rfl, .failed p p, trivial⟩
    · next hrep =>
      obtain ⟨_, r₂', hrep₂, ⟨rfl, hle, hsize⟩, -⟩ :=
        (Move.again_echoes h (input.size + 1) hturns hp false r₁ r₂).exists hrep
      rw [hrep₂]
      cases hr
      exact .inr ⟨_, _, rfl, .matchedAt hle hsize () (), trivial⟩
  | andPredicate h =>
    intro o r hr
    dsimp only [move] at hr ⊢
    split at hr
    · cases hr
    · next hop =>
      obtain ⟨o₂, r₂', hop₂, hagree⟩ := h.exists hp hop r₂
      cases hagree
      rw [hop₂]
      cases hr
      exact .inr ⟨_, _, rfl, .empty hp () (), trivial⟩
    · next hop =>
      obtain ⟨o₂, r₂', hop₂, hagree⟩ := h.exists hp hop r₂
      cases hagree
      rw [hop₂]
      cases hr
      exact .inr ⟨_, _, rfl, .failed p p, trivial⟩
  | notPredicate h =>
    intro o r hr
    dsimp only [move] at hr ⊢
    split at hr
    · cases hr
    · next hop =>
      obtain ⟨o₂, r₂', hop₂, hagree⟩ := h.exists hp hop r₂
      cases hagree
      rw [hop₂]
      cases hr
      exact .inr ⟨_, _, rfl, .failed p p, trivial⟩
    · next hop =>
      obtain ⟨o₂, r₂', hop₂, hagree⟩ := h.exists hp hop r₂
      cases hagree
      rw [hop₂]
      cases hr
      exact .inr ⟨_, _, rfl, .empty hp () (), trivial⟩

/-- **An expression is echoed** if the calls in it are. -/
theorem Expr.move_echoes [DecidableEq K] {input : Array (Token K)} {call₁ call₂ : ν → Move N}
    (hcall : ∀ x, Move.EchoedBy input.size (call₁ x) (call₂ x)) (e : Expr K ν) :
    Move.EchoedBy input.size (e.move input call₁) (e.move input call₂) := by
  induction e using operandInduction with
  | step e ih =>
    rw [move_eq, move_eq]
    refine Operator.move_echoes (Q := Eq) ?_ ((Operator.rel_self ih).map _ _)
    rintro x _ rfl
    exact hcall x

/-! ## Operators expressed by others -/

namespace Move

variable {size p : Nat} {mode : Mode} {m : Move N} {r r' : Run N Unit}

/-- A repetition that has matched before stops where it would have stopped otherwise. -/
theorem again_true (turns : Nat) : again size m mode turns p true r =
    (again size m mode turns p false r).map fun x => ((x.1.1, true), x.2) := by
  induction turns generalizing p r with
  | zero => rfl
  | succ turns ih =>
    rw [again, again]
    cases m p mode r with
    | none => rfl
    | some x =>
      obtain ⟨o, r'⟩ := x
      cases o with
      | failed q => rfl
      | matched next span value =>
        dsimp only
        split
        · rw [ih, Option.map_map]
          rfl
        · rfl

/-- Where a turn does not go on, another one would end as well. -/
theorem EchoedBy.again_eq (h : EchoedBy size m m) (hp : p ≤ size) {next stop turns : Nat}
    {span : Span} {r₁ r₁' : Run N Unit} {turned turned' : Bool}
    (hm : m p mode r = some (.matched next span (), r')) (hstop : ¬ (p < next ∧ next < size))
    (hrest : again size m mode turns next turned r₁ = some ((stop, turned'), r₁')) :
    stop = next := by
  obtain ⟨o, _, hm', hagree⟩ := h.exists hp hm r₁
  cases hagree with
  | matched hle hsize =>
    cases turns with
    | zero => cases hrest
    | succ turns =>
      rw [again] at hrest
      split at hrest
      · cases hrest
      · cases hrest
        rfl
      · next next' span' value' run' hagain =>
        -- It has been tried here already, or there are no more tokens.
        have hsame : next' = next := by
          by_cases hhere : next = p
          · rw [hhere, hm'] at hagain
            cases hagain
            rfl
          · obtain ⟨o', _, -, hagree'⟩ := h.exists hsize hagain r₁
            cases hagree' with
            | matched hle' hsize' => omega
        rw [if_neg (by omega)] at hrest
        cases hrest
        exact hsame

variable [DecidableEq K] {input : Array (Token K)} (call : ν → Move N)

/-- **One turn and then any number** is one turn or more. -/
theorem EchoedBy.oneOrMore (h : EchoedBy input.size m m) :
    EchoedBy input.size
      (Operator.move input call (.sequence [m, Operator.move input call (.zeroOrMore m)]))
      (Operator.move input call (.oneOrMore m)) := by
  intro p hp mode r₁ r₂ o r hr
  dsimp only [Operator.move, inOrder] at hr ⊢
  cases hfirst : m p mode r₁ with
  | none =>
    rw [hfirst] at hr
    cases hr
  | some x =>
    obtain ⟨o₁, r₁'⟩ := x
    obtain ⟨o₂, r₂', hfirst₂, hagree⟩ := h.exists hp hfirst r₂
    rw [hfirst] at hr
    rw [again, hfirst₂]
    cases hagree with
    | failed q₁ q₂ =>
      cases hr
      exact .inr ⟨_, _, rfl, .failed q₁ p, trivial⟩
    | @matched next span _ _ hle hsize =>
      dsimp only at hr ⊢
      cases hrest : again input.size m mode (input.size + 1) next false r₁' with
      | none =>
        rw [hrest] at hr
        cases hr
      | some y =>
        obtain ⟨⟨stop, turned⟩, r₁''⟩ := y
        have hturns : input.size < input.size + 1 + next := by omega
        obtain ⟨_, _, -, ⟨-, hstop, hend⟩, -⟩ :=
          (again_echoes h (input.size + 1) hturns hsize false r₁' r₁').exists hrest
        have hnext : next + (stop - next) = stop := Nat.add_sub_of_le hstop
        rw [hrest] at hr
        dsimp only [Outcome.matchedAt] at hr
        rw [hnext] at hr
        cases hr
        by_cases hgo : p < next ∧ next < input.size
        · -- The other repetition goes on from there, with one turn less.
          have hturns' : input.size < input.size + next := by omega
          obtain ⟨_, r₂'', hrest₂, ⟨rfl, -⟩, -⟩ :=
            (again_echoes h (input.size + 1) hturns' hsize false r₁' r₂').exists hrest
          rw [if_pos hgo, again_true, hrest₂]
          exact .inr ⟨_, _, rfl, .matchedAt (Nat.le_trans hle hstop) hend () (), trivial⟩
        · rw [if_neg hgo, ← h.again_eq hp hfirst hgo hrest]
          exact .inr ⟨_, _, rfl, .matchedAt (Nat.le_trans hle hstop) hend () (), trivial⟩

/-- **A choice between an operand and nothing** is an optional operand. -/
theorem EchoedBy.optional (h : EchoedBy input.size m m) :
    EchoedBy input.size
      (Operator.move input call (.orderedChoice [m, Operator.move input call .emptyString]))
      (Operator.move input call (.optional m)) := by
  intro p hp mode r₁ r₂ o r hr
  simp only [Operator.move, firstOf, if_pos hp] at hr ⊢
  cases hfirst : m p mode r₁ with
  | none =>
    rw [hfirst] at hr
    cases hr
  | some x =>
    obtain ⟨o₁, r₁'⟩ := x
    obtain ⟨o₂, r₂', hfirst₂, hagree⟩ := h.exists hp hfirst r₂
    rw [hfirst] at hr
    rw [hfirst₂]
    cases hagree with
    | matched hle hsize =>
      cases hr
      exact .inr ⟨_, _, rfl, .matched hle hsize, trivial⟩
    | failed q₁ q₂ =>
      cases hr
      exact .inr ⟨_, _, rfl, .empty hp () (), trivial⟩

/-- **Not to fail** is to match. -/
theorem EchoedBy.andPredicate (h : EchoedBy input.size m m) :
    EchoedBy input.size
      (Operator.move input call (.notPredicate (Operator.move input call (.notPredicate m))))
      (Operator.move input call (.andPredicate m)) := by
  intro p hp mode r₁ r₂ o r hr
  dsimp only [Operator.move] at hr ⊢
  cases hfirst : m p .probing r₁ with
  | none =>
    rw [hfirst] at hr
    cases hr
  | some x =>
    obtain ⟨o₁, r₁'⟩ := x
    obtain ⟨o₂, r₂', hfirst₂, hagree⟩ := h.exists hp hfirst r₂
    rw [hfirst] at hr
    rw [hfirst₂]
    cases hagree with
    | matched hle hsize =>
      cases hr
      exact .inr ⟨_, _, rfl, .empty hp () (), trivial⟩
    | failed q₁ q₂ =>
      cases hr
      exact .inr ⟨_, _, rfl, .failed p p, trivial⟩

/-- The first of several moves, in two parts. -/
theorem firstOf_append (ms ms' : List (Move N)) :
    firstOf p mode (ms ++ ms') r =
      match firstOf p mode ms r with
      | none => none
      | some (.failed _, r) => firstOf p mode ms' r
      | some (.matched next span _, r) => some (.matched next span (), r) := by
  induction ms generalizing r with
  | nil => rfl
  | cons m rest ih =>
    rw [List.cons_append, firstOf, firstOf]
    cases m p mode r with
    | none => rfl
    | some x =>
      obtain ⟨o, r'⟩ := x
      cases o with
      | failed q => exact ih
      | matched next span _ => rfl

/-- **A choice within a choice** moves like its operands in its place. -/
theorem firstOf_splice (before items after : List (Move N)) :
    firstOf p mode (before ++ items ++ after) r =
      firstOf p mode (before ++ Operator.move input call (.orderedChoice items) :: after) r := by
  have hitems : ∀ r, firstOf p mode (items ++ after) r =
      firstOf p mode (Operator.move input call (.orderedChoice items) :: after) r := by
    intro r
    rw [firstOf_append, firstOf]
    rfl
  simp only [List.append_assoc, firstOf_append before, hitems]

/-- **A sequence within a sequence** moves like its operands in its place. -/
theorem inOrder_splice {before items : List (Move N)} (after : List (Move N))
    (hbefore : ∀ m ∈ before, EchoedBy input.size m m)
    (hitems : ∀ m ∈ items, EchoedBy input.size m m) (hp : p ≤ input.size) (mode : Mode)
    (r : Run N Unit) : inOrder mode (before ++ items ++ after) p r =
      inOrder mode (before ++ Operator.move input call (.sequence items) :: after) p r := by
  rw [List.append_assoc, inOrder_append before, inOrder_append before]
  cases hfirst : inOrder mode before p r with
  | none => rfl
  | some x =>
    obtain ⟨x, r'⟩ := x
    cases x with
    | error q => rfl
    | ok q =>
      obtain ⟨_, _, -, ⟨-, hq⟩, -⟩ :=
        (inOrder_echoes (List.forall₂_same.2 hbefore) hp r r).exists hfirst
      dsimp only
      rw [inOrder_append items, inOrder]
      dsimp only [Operator.move]
      cases hrest : inOrder mode items q r' with
      | none => rfl
      | some y =>
        obtain ⟨y, r''⟩ := y
        cases y with
        | error q' => rfl
        | ok stop =>
          -- The sequence ends where its last operand does, since that is not before its beginning.
          obtain ⟨_, _, -, ⟨-, hstop⟩, -⟩ :=
            (inOrder_echoes (List.forall₂_same.2 hitems) (hq q rfl).2 r' r').exists hrest
          have hnext : q + (stop - q) = stop := Nat.add_sub_of_le (hstop stop rfl).1
          dsimp only [Outcome.matchedAt]
          rw [hnext]

end Move

end Packrat
