import Packrat.Proofs.GrammarText.Matching
import Packrat.Proofs.GrammarText.Writing

/-!
# Writings are read

Every writing is taken by the part that stands for it, if what follows cannot be taken for more of
it: no suffix and no arrow after a unary, no unary after the last one of an alternative, no bar
after the last alternative. The lemmas state this with what follows as a parameter, one for each
symbol of the grammar, by induction on the writing.

A choice commits to the first operand that matches, so each case also says why the operands before
it fail. Most of them fail at their first lexeme (`fails_of_opener?`).
-/

namespace Packrat.GrammarText

open GrammarText.Part (call)

variable {ts used rest : List (Token Symbol)} {t : Token Symbol} {e : RawExpr} {es : List RawExpr}

/-! ## Why parts fail -/

/-- The lexeme that a part begins with. -/
def Part.opener? : Part → Option Symbol
  | .terminal => some .openSquare
  | .empty => some .openSquare
  | .nonTerminal => some .identifier
  | .brackets => some .openRound
  | .andAhead => some .ampersand
  | .notAhead => some .bang
  | _ => none

/-- A part fails where the lexeme that it begins with is not there. -/
theorem fails_of_opener? {part : Part} {s : Symbol} (hpart : part.opener? = some s)
    (h : ∀ t ∈ ts.head?, t.tag ≠ s) : Fails (call part) ts := by
  refine Fails.call ?_
  cases part <;> cases hpart <;> exact FailsAmong.sequence (.here (fails_terminal h))

/-- An atom fails if all its forms do. -/
theorem fails_atom (h : ∀ part, part.opener?.isSome → Fails (call part) ts) :
    Fails (call .atom) ts := by
  refine Fails.call (fails_orderedChoice ?_)
  simp only [List.forall_mem_cons]
  exact ⟨h _ rfl, h _ rfl, h _ rfl, h _ rfl, h _ rfl, h _ rfl, by simp⟩

/-- Where no atom is, no unary is. -/
theorem fails_unary (h : Fails (call .atom) ts) : Fails (call .unary) ts := by
  refine Fails.call (fails_orderedChoice ?_)
  simp only [List.forall_mem_cons]
  refine ⟨?_, ?_, ?_, h, by simp⟩ <;> exact Fails.call (FailsAmong.sequence (.here h))

/-- Where an atom is before something else than a suffix, no unary with the suffix is. -/
theorem fails_suffixed {part : Part} {s : Symbol} {leaves : List Reading}
    (hpart : part.body = .sequence [call .atom, .terminal s])
    (h : Takes (call .atom) used rest leaves) (hrest : ∀ t ∈ rest.head?, t.tag ≠ s) :
    Fails (call part) (used ++ rest) := by
  refine Fails.call ?_
  rw [hpart]
  exact FailsAmong.sequence (.later h (.here (fails_terminal hrest)))

/-! ## What can follow -/

/-- The operator that a symbol after an atom stands for. -/
def suffix? : Symbol → Option (RawExpr → RawExpr)
  | .question => some .optional
  | .star => some .zeroOrMore
  | .plus => some .oneOrMore
  | _ => none

/-- What can follow a unary: no suffix, and no arrow. -/
def UnaryEnd (rest : List (Token Symbol)) : Prop :=
  ∀ t ∈ rest.head?, t.tag ≠ .arrow ∧ suffix? t.tag = none

/-- What can follow the last alternative: nothing, a closing parenthesis, a semicolon, or the next
rule. -/
inductive AlternativesEnd : List (Token Symbol) → Prop
  | nothing : AlternativesEnd []
  | closing {t : Token Symbol} {ts : List (Token Symbol)} :
      t.tag = .closeRound ∨ t.tag = .semicolon → AlternativesEnd (t :: ts)
  | head {t arrow : Token Symbol} {ts : List (Token Symbol)} : t.tag = .identifier →
      arrow.tag = .arrow → AlternativesEnd (t :: arrow :: ts)

/-- What can follow the last unary: what can follow the last alternative, or a bar. -/
def UnariesEnd (rest : List (Token Symbol)) : Prop :=
  AlternativesEnd rest ∨ ∃ t ∈ rest.head?, t.tag = .bar

/-- What can follow the last unary can follow a unary. -/
theorem UnariesEnd.unaryEnd (h : UnariesEnd rest) : UnaryEnd rest := by
  intro t ht
  rcases h with h | ⟨t', ht', htag⟩
  · cases h with
    | nothing => cases ht
    | closing htag =>
      cases ht
      rcases htag with htag | htag <;> simp [htag, suffix?]
    | head htag _ =>
      cases ht
      simp [htag, suffix?]
  · rw [Option.mem_def.1 ht] at ht'
    cases ht'
    simp [htag, suffix?]

/-- No atom follows the last unary. -/
theorem UnariesEnd.fails_atom (h : UnariesEnd rest) : Fails (call .atom) rest := by
  refine GrammarText.fails_atom fun part hpart => ?_
  obtain ⟨s, hs⟩ := Option.isSome_iff_exists.1 hpart
  rcases h with h | ⟨t, ht, htag⟩
  · cases h with
    | nothing => exact fails_of_opener? hs (by simp)
    | closing htag =>
      refine fails_of_opener? hs fun t ht => ?_
      cases ht
      rcases htag with htag | htag <;> cases part <;> cases hs <;> simp [htag]
    | head htag harrow =>
      -- An identifier is the only form of an atom that begins with one, but not before an arrow.
      by_cases hid : part = .nonTerminal
      · subst hid
        exact Fails.call (FailsAmong.sequence
          (.later (takes_terminal htag _) (.here (fails_notPredicate harrow))))
      · refine fails_of_opener? hs fun t ht => ?_
        cases ht
        cases part <;> cases hs <;> simp [htag] at hid ⊢
  · refine fails_of_opener? hs fun t' ht' => ?_
    rw [Option.mem_def.1 ht] at ht'
    cases ht'
    cases part <;> cases hs <;> simp [htag]

/-- No unary follows the last one. -/
theorem UnariesEnd.fails_unary (h : UnariesEnd rest) : Fails (call .unary) rest :=
  GrammarText.fails_unary h.fails_atom

/-- What can follow a unary, if the next one follows. -/
theorem Writing.Atom.unaryEnd (h : Writing.Atom ts e) (rest : List (Token Symbol)) :
    UnaryEnd (ts ++ rest) := by
  intro t ht
  cases h with
  | terminal htag _ _ | empty htag _ | nonTerminal htag | brackets htag _ _ | andAhead htag _ _ _
  | notAhead htag _ _ _ =>
    cases ht
    simp [htag, suffix?]

/-- What can follow a unary, if others follow. -/
theorem Writing.Unaries.unaryEnd (h : Writing.Unaries ts es) (rest : List (Token Symbol)) :
    UnaryEnd (ts ++ rest) := by
  have hunary : ∀ {ts e}, Writing.Unary ts e → ∀ rest, UnaryEnd (ts ++ rest) := by
    intro ts e h rest
    cases h with
    | atom h => exact h.unaryEnd rest
    | optional h _ | zeroOrMore h _ | oneOrMore h _ =>
      rw [List.append_assoc]
      exact h.unaryEnd _
  cases h with
  | one h => exact hunary h rest
  | more h _ =>
    rw [List.append_assoc]
    exact hunary h _

/-! ## Why parts match -/

/-- A writing is not empty. -/
theorem Writing.Unary.ne_nil (h : Writing.Unary ts e) : ts ≠ [] := by
  cases h with
  | atom h => cases h <;> simp
  | optional h _ | zeroOrMore h _ | oneOrMore h _ => simp

/-- A unary with a suffix. -/
theorem takes_suffixed {operator : RawExpr → RawExpr}
    (h : Takes (call .atom) ts (t :: rest) [.expr e]) (hsuffix : suffix? t.tag = some operator) :
    Takes (call .unary) (ts ++ [t]) rest [.expr (operator e)] := by
  have htakes : ∀ {part operator s}, Part.body part = .sequence [call .atom, .terminal s] →
      t.tag = s → (∀ m values, part.read m values = Part.wrapping operator values) →
      Takes (call part) (ts ++ [t]) rest [.expr (operator e)] := by
    intro part operator s hpart hs hread
    refine Takes.wrapping ?_ hread
    rw [hpart]
    exact TakesAll.sequence (.cons h (.cons (takes_terminal hs rest) .nil))
  have hfails : ∀ {part s}, Part.body part = .sequence [call .atom, .terminal s] → t.tag ≠ s →
      Fails (call part) (ts ++ [t] ++ rest) := by
    intro part s hpart hs
    rw [List.append_assoc]
    exact fails_suffixed hpart h (by simpa using hs)
  suffices hfirst : TakesFirst [call .optional, call .zeroOrMore, call .oneOrMore, call .atom]
      (ts ++ [t]) rest [.expr (operator e)] from
    Takes.passing hfirst.orderedChoice fun _ _ => rfl
  cases htag : t.tag <;> simp only [htag, suffix?, reduceCtorEq, Option.some.injEq] at hsuffix <;>
    subst hsuffix
  case question => exact .here (htakes rfl htag fun _ _ => rfl)
  case star => exact .later (hfails rfl (by simp [htag])) (.here (htakes rfl htag fun _ _ => rfl))
  case plus =>
    exact .later (hfails rfl (by simp [htag])) (.later (hfails rfl (by simp [htag]))
      (.here (htakes rfl htag fun _ _ => rfl)))

/-- A unary without a suffix. -/
theorem takes_unsuffixed (h : Takes (call .atom) ts rest [.expr e])
    (hrest : ∀ t ∈ rest.head?, suffix? t.tag = none) : Takes (call .unary) ts rest [.expr e] := by
  have hfails : ∀ {part s}, Part.body part = .sequence [call .atom, .terminal s] →
      (suffix? s).isSome → Fails (call part) (ts ++ rest) := by
    intro part s hpart hs
    refine fails_suffixed hpart h fun t ht htag => ?_
    rw [← htag, hrest t ht] at hs
    cases hs
  have hfirst : TakesFirst [call .optional, call .zeroOrMore, call .oneOrMore, call .atom] ts rest
      [.expr e] :=
    .later (hfails rfl rfl) (.later (hfails rfl rfl) (.later (hfails rfl rfl) (.here h)))
  exact Takes.passing hfirst.orderedChoice fun _ _ => rfl

/-! ### Atoms -/

section Atoms

variable {a o i c : Token Symbol}

/-- An atom is the first of its forms that matches. -/
theorem takes_atom (h : TakesFirst [call .terminal, call .empty, call .nonTerminal, call .brackets,
    call .andAhead, call .notAhead] ts rest [.expr e]) : Takes (call .atom) ts rest [.expr e] :=
  Takes.passing h.orderedChoice fun _ _ => rfl

/-- A tag between square brackets. -/
theorem takes_terminalForm (ho : o.tag = .openSquare) (hi : i.tag = .identifier)
    (hc : c.tag = .closeSquare) :
    Takes (call .atom) [o, i, c] rest [.expr (.terminal i.text)] := by
  have hbody : Takes (Part.body .terminal) [o, i, c] rest [] := TakesAll.sequence
    (.cons (takes_terminal ho _) (.cons (takes_terminal hi _) (.cons (takes_terminal hc _) .nil)))
  refine takes_atom (.here (hbody.call fun m value hm _ => ?_))
  simp [Part.read, firstIdentifier?, hm, ho, hi, Reading.ofExpr?, Reading.leaves]

/-- Nothing between square brackets. -/
theorem takes_emptyForm (ho : o.tag = .openSquare) (hc : c.tag = .closeSquare) :
    Takes (call .atom) [o, c] rest [.expr .emptyString] := by
  have hbody : Takes (Part.body .empty) [o, c] rest [] := TakesAll.sequence
    (.cons (takes_terminal ho _) (.cons (takes_terminal hc _) .nil))
  have hterminal : Fails (call .terminal) (o :: c :: rest) := Fails.call (FailsAmong.sequence
    (.later (takes_terminal ho _) (.here (fails_terminal (by simp [hc])))))
  exact takes_atom (.later hterminal (.here (hbody.call fun _ _ _ _ => rfl)))

/-- The name of a rule. -/
theorem takes_nonTerminalForm (hi : i.tag = .identifier)
    (hrest : ∀ t ∈ rest.head?, t.tag ≠ .arrow) :
    Takes (call .atom) [i] rest [.expr (.nonTerminal i.text)] := by
  have hlook : Takes (.notPredicate (.terminal .arrow)) [] ([] ++ rest) [] :=
    takes_notPredicate hrest
  have hbody : Takes (Part.body .nonTerminal) [i] rest [] := TakesAll.sequence
    (.cons (takes_terminal hi _) (.cons hlook .nil))
  have hfails : ∀ {part s}, Part.opener? part = some s → s ≠ .identifier →
      Fails (call part) (i :: rest) :=
    fun hpart hs => fails_of_opener? hpart (by simpa [hi] using hs.symm)
  refine takes_atom (.later (hfails rfl (by simp)) (.later (hfails rfl (by simp))
    (.here (hbody.call fun m value hm _ => ?_))))
  simp [Part.read, Match.firstText, hm, Reading.leaves]

/-- An operator between parentheses. -/
theorem takes_bracketsForm (ho : o.tag = .openRound) (hc : c.tag = .closeRound)
    (h : Takes (call .operator) ts (c :: rest) [.expr e]) :
    Takes (call .atom) (o :: (ts ++ [c])) rest [.expr e] := by
  have hbody : Takes (Part.body .brackets) (o :: (ts ++ [c])) rest [.expr e] := TakesAll.sequence
    (.cons (takes_terminal ho _) (.cons h (.cons (takes_terminal hc rest) .nil)))
  have hfails : ∀ {part s}, Part.opener? part = some s → s ≠ .openRound →
      Fails (call part) (o :: (ts ++ [c]) ++ rest) :=
    fun hpart hs => fails_of_opener? hpart (by simpa [ho] using hs.symm)
  exact takes_atom (.later (hfails rfl (by simp)) (.later (hfails rfl (by simp))
    (.later (hfails rfl (by simp)) (.here (hbody.passing fun _ _ => rfl)))))

/-- The lexemes of an operator between parentheses, after another lexeme. -/
theorem takes_inRound {s : Symbol} (ha : a.tag = s) (ho : o.tag = .openRound)
    (hc : c.tag = .closeRound) (h : Takes (call .operator) ts (c :: rest) [.expr e]) :
    Takes (Part.inRound [.terminal s]) (a :: o :: (ts ++ [c])) rest [.expr e] :=
  TakesAll.sequence (.cons (takes_terminal ha _) (.cons (takes_terminal ho _)
    (.cons h (.cons (takes_terminal hc rest) .nil))))

/-- An operator that must match ahead. -/
theorem takes_andAheadForm (ha : a.tag = .ampersand) (ho : o.tag = .openRound)
    (hc : c.tag = .closeRound) (h : Takes (call .operator) ts (c :: rest) [.expr e]) :
    Takes (call .atom) (a :: o :: (ts ++ [c])) rest [.expr (.andPredicate e)] := by
  have hbody : Takes (Part.body .andAhead) (a :: o :: (ts ++ [c])) rest [.expr e] :=
    takes_inRound ha ho hc h
  have hfails : ∀ {part s}, Part.opener? part = some s → s ≠ .ampersand →
      Fails (call part) (a :: o :: (ts ++ [c]) ++ rest) :=
    fun hpart hs => fails_of_opener? hpart (by simpa [ha] using hs.symm)
  exact takes_atom (.later (hfails rfl (by simp)) (.later (hfails rfl (by simp))
    (.later (hfails rfl (by simp)) (.later (hfails rfl (by simp))
      (.here (hbody.wrapping fun _ _ => rfl))))))

/-- An operator that must not match ahead. -/
theorem takes_notAheadForm (ha : a.tag = .bang) (ho : o.tag = .openRound)
    (hc : c.tag = .closeRound) (h : Takes (call .operator) ts (c :: rest) [.expr e]) :
    Takes (call .atom) (a :: o :: (ts ++ [c])) rest [.expr (.notPredicate e)] := by
  have hbody : Takes (Part.body .notAhead) (a :: o :: (ts ++ [c])) rest [.expr e] :=
    takes_inRound ha ho hc h
  have hfails : ∀ {part s}, Part.opener? part = some s → s ≠ .bang →
      Fails (call part) (a :: o :: (ts ++ [c]) ++ rest) :=
    fun hpart hs => fails_of_opener? hpart (by simpa [ha] using hs.symm)
  exact takes_atom (.later (hfails rfl (by simp)) (.later (hfails rfl (by simp))
    (.later (hfails rfl (by simp)) (.later (hfails rfl (by simp)) (.later (hfails rfl (by simp))
      (.here (hbody.wrapping fun _ _ => rfl)))))))

end Atoms

/-! ### Sequences and choices -/

/-- A single unary is no sequence. -/
theorem takesFirst_unary (h : Takes (call .unary) ts rest [.expr e])
    (hrest : Fails (call .unary) rest) :
    TakesFirst [call .sequence, call .unary] ts rest [.expr e] := by
  have hfails : Fails (call .sequence) (ts ++ rest) := Fails.call (FailsAmong.sequence
    (.later h (.here (fails_oneOrMore hrest))))
  exact .later hfails (.here h)

/-- A unary and more of them are a sequence. -/
theorem takesFirst_sequence {ts' : List (Token Symbol)}
    (h : Takes (call .unary) ts (ts' ++ rest) [.expr e])
    (hmore : TakesMany (call .unary) ts' rest (es.map .expr)) :
    TakesFirst [call .sequence, call .unary] (ts ++ ts') rest [.expr (.sequence (e :: es))] := by
  have hall : TakesAll [call .unary, .oneOrMore (call .unary)] (ts ++ (ts' ++ [])) rest
      ([.expr e] ++ (es.map .expr ++ [])) := .cons (by simpa using h) (.cons hmore.oneOrMore .nil)
  rw [List.append_nil, List.append_nil] at hall
  have hbody : Takes (Part.body .sequence) (ts ++ ts') rest ((e :: es).map .expr) := hall.sequence
  refine .here (hbody.call fun m value _ hvalue => ?_)
  rw [Part.read, exprs_of_leaves hvalue]
  rfl

/-- An alternative after a bar. -/
theorem takes_barred {bar : Token Symbol} (hbar : bar.tag = .bar)
    (h : TakesFirst [call .sequence, call .unary] ts rest [.expr e]) :
    Takes (.sequence [.terminal .bar, Part.alternative]) (bar :: ts) rest [.expr e] := by
  have hall : TakesAll [.terminal .bar, Part.alternative] ([bar] ++ (ts ++ [])) rest
      ([] ++ ([.expr e] ++ [])) :=
    .cons (takes_terminal hbar _) (.cons h.orderedChoice .nil)
  rw [List.append_nil] at hall
  exact hall.sequence

/-- An alternative alone is no choice. -/
theorem takes_operator_of_first (h : TakesFirst [call .sequence, call .unary] ts rest [.expr e])
    (hrest : Fails (.sequence [.terminal .bar, Part.alternative]) rest) :
    Takes (call .operator) ts rest [.expr e] := by
  have hfails : Fails (call .choice) (ts ++ rest) := Fails.call (FailsAmong.sequence
    (.later h.orderedChoice (.here (fails_oneOrMore hrest))))
  have hfirst : TakesFirst [call .choice, call .sequence, call .unary] ts rest [.expr e] :=
    .later hfails h
  exact Takes.passing hfirst.orderedChoice fun _ _ => rfl

/-- An alternative and more of them after bars are a choice. -/
theorem takes_operator_of_many {ts' : List (Token Symbol)}
    (h : TakesFirst [call .sequence, call .unary] ts (ts' ++ rest) [.expr e])
    (hmore : TakesMany (.sequence [.terminal .bar, Part.alternative]) ts' rest (es.map .expr)) :
    Takes (call .operator) (ts ++ ts') rest [.expr (.orderedChoice (e :: es))] := by
  have hall : TakesAll [Part.alternative, .oneOrMore (.sequence [.terminal .bar, Part.alternative])]
      (ts ++ (ts' ++ [])) rest ([.expr e] ++ (es.map .expr ++ [])) := by
    refine .cons ?_ (.cons hmore.oneOrMore .nil)
    rw [List.append_nil]
    exact h.orderedChoice
  rw [List.append_nil, List.append_nil] at hall
  have hbody : Takes (Part.body .choice) (ts ++ ts') rest ((e :: es).map .expr) := hall.sequence
  have hchoice : Takes (call .choice) (ts ++ ts') rest [.expr (.orderedChoice (e :: es))] := by
    refine hbody.call fun m value _ hvalue => ?_
    rw [Part.read, exprs_of_leaves hvalue]
    rfl
  have hfirst : TakesFirst [call .choice, call .sequence, call .unary] (ts ++ ts') rest
      [.expr (.orderedChoice (e :: es))] := .here hchoice
  exact Takes.passing hfirst.orderedChoice fun _ _ => rfl

/-! ## Writings match -/

/-- No alternative after a bar follows the last one. -/
theorem AlternativesEnd.fails_barred (h : AlternativesEnd rest) :
    Fails (.sequence [.terminal .bar, Part.alternative]) rest := by
  refine FailsAmong.sequence (.here (fails_terminal fun t ht => ?_))
  cases h with
  | nothing => cases ht
  | closing htag =>
    cases ht
    rcases htag with htag | htag <;> simp [htag]
  | head htag _ =>
    cases ht
    simp [htag]

/-- A unary before others makes a sequence. -/
theorem Writing.Unaries.sequenceOf_cons (h : Writing.Unaries ts es) (e : RawExpr) :
    sequenceOf (e :: es) = .sequence (e :: es) := by
  cases h <;> rfl

/-- An alternative before others makes a choice. -/
theorem Writing.Alternatives.choiceOf_cons (h : Writing.Alternatives ts es) (e : RawExpr) :
    choiceOf (e :: es) = .orderedChoice (e :: es) := by
  cases h <;> rfl

mutual

/-- A writing of an atom is taken before anything but an arrow. -/
theorem Writing.Atom.takes {ts : List (Token Symbol)} {e : RawExpr} : Writing.Atom ts e →
    ∀ {rest}, (∀ t ∈ rest.head?, t.tag ≠ .arrow) → Takes (call .atom) ts rest [.expr e]
  | .terminal ho hi hc, _, _ => takes_terminalForm ho hi hc
  | .empty ho hc, _, _ => takes_emptyForm ho hc
  | .nonTerminal hi, _, hrest => takes_nonTerminalForm hi hrest
  | .brackets ho h hc, _, _ => takes_bracketsForm ho hc (h.takes (.closing (.inl hc)))
  | .andAhead ha ho h hc, _, _ => takes_andAheadForm ha ho hc (h.takes (.closing (.inl hc)))
  | .notAhead ha ho h hc, _, _ => takes_notAheadForm ha ho hc (h.takes (.closing (.inl hc)))

/-- A writing of a unary is taken. -/
theorem Writing.Unary.takes {ts : List (Token Symbol)} {e : RawExpr} : Writing.Unary ts e →
    ∀ {rest}, UnaryEnd rest → Takes (call .unary) ts rest [.expr e]
  | .atom h, _, hrest =>
    takes_unsuffixed (h.takes fun t ht => (hrest t ht).1) fun t ht => (hrest t ht).2
  | .optional h hs, _, _ => takes_suffixed (h.takes (by simp [hs])) (by rw [hs]; rfl)
  | .zeroOrMore h hs, _, _ => takes_suffixed (h.takes (by simp [hs])) (by rw [hs]; rfl)
  | .oneOrMore h hs, _, _ => takes_suffixed (h.takes (by simp [hs])) (by rw [hs]; rfl)

/-- The unaries of a writing are taken one after the other. -/
theorem Writing.Unaries.takesMany {ts : List (Token Symbol)} {es : List RawExpr} :
    Writing.Unaries ts es → ∀ {rest}, UnariesEnd rest →
      TakesMany (call .unary) ts rest (es.map .expr)
  | .one h, _, hrest => .last h.ne_nil (h.takes hrest.unaryEnd) (.inr hrest.fails_unary)
  | .more h hs, _, hrest => .more h.ne_nil (h.takes (hs.unaryEnd _)) (hs.takesMany hrest)

/-- A writing of an alternative is taken. -/
theorem Writing.Unaries.takesFirst {ts : List (Token Symbol)} {es : List RawExpr} :
    Writing.Unaries ts es → ∀ {rest}, UnariesEnd rest →
      TakesFirst [call .sequence, call .unary] ts rest [.expr (sequenceOf es)]
  | .one h, _, hrest => takesFirst_unary (h.takes hrest.unaryEnd) hrest.fails_unary
  | .more h hs, _, hrest => by
    rw [hs.sequenceOf_cons]
    exact takesFirst_sequence (h.takes (hs.unaryEnd _)) (hs.takesMany hrest)

/-- The alternatives of a writing are taken one after the other, each after a bar. -/
theorem Writing.Alternatives.takesMany {ts : List (Token Symbol)} {es : List RawExpr} :
    Writing.Alternatives ts es → ∀ {rest}, AlternativesEnd rest → ∀ {bar : Token Symbol},
      bar.tag = .bar → TakesMany (.sequence [.terminal .bar, Part.alternative]) (bar :: ts) rest
        (es.map .expr)
  | .one h, _, hrest, _, hbar =>
    .last (by simp) (takes_barred hbar (h.takesFirst (.inl hrest)))
      (.inr hrest.fails_barred)
  | .more h hbar' hs, _, hrest, _, hbar =>
    .more (by simp) (takes_barred hbar (h.takesFirst (.inr ⟨_, rfl, hbar'⟩)))
      (hs.takesMany hrest hbar')

/-- A writing of alternatives is taken. -/
theorem Writing.Alternatives.takes {ts : List (Token Symbol)} {es : List RawExpr} :
    Writing.Alternatives ts es → ∀ {rest}, AlternativesEnd rest →
      Takes (call .operator) ts rest [.expr (choiceOf es)]
  | .one h, _, hrest =>
    takes_operator_of_first (h.takesFirst (.inl hrest)) hrest.fails_barred
  | .more h hbar hs, _, hrest => by
    rw [hs.choiceOf_cons]
    exact takes_operator_of_many (h.takesFirst (.inr ⟨_, rfl, hbar⟩)) (hs.takesMany hrest hbar)

end

/-! ### Rules -/

/-- A rule is its head and the one expression in it. -/
theorem takes_rule {head : Token Symbol} (hhead : head.tag = .identifier)
    (h : Takes (Part.body .rule) (head :: ts) rest [.expr e]) :
    Takes (call .rule) (head :: ts) rest [.rule ⟨head.text, e⟩] := by
  refine h.call fun m value hm hvalue => ?_
  have hfirst : firstIdentifier? m = some head.text := by simp [firstIdentifier?, hm, hhead]
  have hexprs : Reading.exprs [value] = [e] := exprs_of_leaves hvalue
  rw [Part.read, hfirst, hexprs]
  rfl

/-- A rule that ends without a semicolon. -/
theorem takes_unendedRule {head arrow : Token Symbol} (hhead : head.tag = .identifier)
    (harrow : arrow.tag = .arrow) (h : Takes (call .operator) ts rest [.expr e])
    (hrest : ∀ t ∈ rest.head?, t.tag ≠ .semicolon) :
    Takes (call .rule) (head :: arrow :: ts) rest [.rule ⟨head.text, e⟩] := by
  have hnone : Takes (.optional (.terminal .semicolon)) [] ([] ++ rest) [] :=
    takes_optional_absent (fails_terminal hrest)
  have hall : TakesAll [.terminal .identifier, .terminal .arrow, call .operator,
      .optional (.terminal .semicolon)] ([head] ++ ([arrow] ++ (ts ++ []))) rest
      ([] ++ ([] ++ ([.expr e] ++ []))) :=
    .cons (takes_terminal hhead _) (.cons (takes_terminal harrow _) (.cons h (.cons hnone .nil)))
  rw [List.append_nil] at hall
  exact takes_rule hhead hall.sequence

/-- A rule that ends with a semicolon. -/
theorem takes_endedRule {head arrow s : Token Symbol} (hhead : head.tag = .identifier)
    (harrow : arrow.tag = .arrow) (h : Takes (call .operator) ts (s :: rest) [.expr e])
    (hs : s.tag = .semicolon) :
    Takes (call .rule) (head :: arrow :: (ts ++ [s])) rest [.rule ⟨head.text, e⟩] := by
  have hsome : Takes (.optional (.terminal .semicolon)) [s] ([] ++ rest) [] :=
    takes_optional (takes_terminal hs _)
  exact takes_rule hhead (TakesAll.sequence (.cons (takes_terminal hhead _)
    (.cons (takes_terminal harrow _) (.cons h (.cons hsome .nil)))))

/-- The next rule can follow. -/
theorem Writing.Rule.alternativesEnd {r : RawRule} (h : Writing.Rule ts r)
    (rest : List (Token Symbol)) :
    AlternativesEnd (ts ++ rest) ∧ ∀ t ∈ (ts ++ rest).head?, t.tag ≠ .semicolon := by
  cases h with
  | unended hhead harrow _ | ended hhead harrow _ _ =>
    refine ⟨.head hhead harrow, fun t ht => ?_⟩
    cases ht
    simp [hhead]

/-- A writing of a rule is taken before the next rule and at the end. -/
theorem Writing.Rule.takes {r : RawRule} (h : Writing.Rule ts r) (hrest : AlternativesEnd rest)
    (hend : ∀ t ∈ rest.head?, t.tag ≠ .semicolon) : Takes (call .rule) ts rest [.rule r] := by
  cases h with
  | unended hhead harrow h => exact takes_unendedRule hhead harrow (h.takes hrest) hend
  | ended hhead harrow h hs =>
    exact takes_endedRule hhead harrow (h.takes (.closing (.inr hs))) hs

/-- **The rules of a writing are taken one after the other, up to its end.** -/
theorem Writing.Text.takesMany {rs : List RawRule} (h : Writing.Text ts rs) :
    TakesMany (call .rule) ts [] (rs.map .rule) := by
  have hne : ∀ {ts r}, Writing.Rule ts r → ts ≠ [] := by
    intro ts r h
    cases h <;> simp
  induction h with
  | one h => exact .last (hne h) (h.takes .nothing (by simp)) (.inl rfl)
  | @more ts ts' r rs h hs ih =>
    have hnext : AlternativesEnd (ts' ++ []) ∧ ∀ t ∈ (ts' ++ []).head?, t.tag ≠ .semicolon := by
      cases hs with
      | one h' => exact h'.alternativesEnd []
      | more h' _ =>
        rw [List.append_assoc]
        exact h'.alternativesEnd _
    exact .more (hne h) (h.takes hnext.1 hnext.2) ih

end Packrat.GrammarText
