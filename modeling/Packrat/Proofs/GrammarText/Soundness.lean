import Packrat.Proofs.Evaluation.Refinement
import Packrat.Proofs.GrammarText.Completeness

/-!
# What is read is a writing

At every list of lexemes every part either fails or takes a writing of what it stands for
(`Decided`). The proof follows the parts from the inside out; what is between parentheses is shorter
than what it stands in, so it is decided by induction on the number of lexemes
(`decided_operator`). Repetitions decide what their operand decides (`Decided.many`).

Which part takes what is already said by the lemmas about writings, since they ask for what follows
only where it makes a difference. So a case here is a look at the next lexemes. `readTokens_correct`
puts both directions together for whole texts.
-/

namespace Packrat.GrammarText

open GrammarText.Part (call)

/-- The expression fails, or takes a part of the lexemes that `W` is about. -/
def Decided {α : Type} (e : Expr Symbol Part) (leaf : α → Reading)
    (W : List (Token Symbol) → α → Prop) (ts : List (Token Symbol)) : Prop :=
  Fails e ts ∨ ∃ used rest x, ts = used ++ rest ∧ used ≠ [] ∧ W used x ∧
    Takes e used rest [leaf x]

/-- One or more lists of lexemes that `W` is about, one after the other. -/
inductive Many {α : Type} (W : List (Token Symbol) → α → Prop) :
    List (Token Symbol) → List α → Prop
  | one {ts : List (Token Symbol)} {x : α} : W ts x → Many W ts [x]
  | more {ts ts' : List (Token Symbol)} {x : α} {xs : List α} : W ts x → Many W ts' xs →
      Many W (ts ++ ts') (x :: xs)

/-- An expression that is decided at all lists up to a length takes many of its writings, as many as
there are. -/
theorem Decided.many {α : Type} {e : Expr Symbol Part} {leaf : α → Reading}
    {W : List (Token Symbol) → α → Prop} (n : Nat)
    (h : ∀ ts : List (Token Symbol), ts.length ≤ n → Decided e leaf W ts) :
    ∀ ts : List (Token Symbol), ts.length ≤ n → Fails e ts ∨ ∃ used rest xs, ts = used ++ rest ∧
      Many W used xs ∧ TakesMany e used rest (xs.map leaf) := by
  induction n with
  | zero =>
    intro ts hts
    rcases h ts hts with hfails | ⟨used, rest, x, rfl, hne, -, -⟩
    · exact .inl hfails
    · have hpos := List.length_pos_of_ne_nil hne
      rw [List.length_append] at hts
      omega
  | succ n ih =>
    intro ts hts
    rcases h ts hts with hfails | ⟨used, rest, x, rfl, hne, hW, htakes⟩
    · exact .inl hfails
    · have hpos := List.length_pos_of_ne_nil hne
      rw [List.length_append] at hts
      rcases ih (fun ts hts => h ts (by omega)) rest (by omega) with
        hfails | ⟨used', rest', xs, rfl, hmany, htakes'⟩
      · exact .inr ⟨used, rest, [x], rfl, .one hW, .last hne htakes (.inr hfails)⟩
      · exact .inr ⟨used ++ used', rest', x :: xs, (List.append_assoc _ _ _).symm, .more hW hmany,
          .more hne htakes htakes'⟩

/-! ## Atoms -/

/-- A writing of an operator: of one or more alternatives. -/
def Writing.Operator (ts : List (Token Symbol)) (e : RawExpr) : Prop :=
  ∃ es, Writing.Alternatives ts es ∧ e = choiceOf es

/-- No form of an atom is there if none that begins with the next lexeme is. -/
theorem fails_atom_of_head {t : Token Symbol} {ts : List (Token Symbol)}
    (h : ∀ part, part.opener? = some t.tag → Fails (call part) (t :: ts)) :
    Fails (call .atom) (t :: ts) := by
  refine fails_atom fun part hpart => ?_
  obtain ⟨s, hs⟩ := Option.isSome_iff_exists.1 hpart
  by_cases htag : t.tag = s
  · exact h part (htag ▸ hs)
  · exact fails_of_opener? hs (by simpa using htag)

/-- The next lexeme has the tag, or it is another one or missing. -/
theorem head_cases (s : Symbol) (ts : List (Token Symbol)) :
    (∃ t rest, ts = t :: rest ∧ t.tag = s) ∨ ∀ t ∈ ts.head?, t.tag ≠ s := by
  cases ts with
  | nil => exact .inr (by simp)
  | cons t rest =>
    by_cases h : t.tag = s
    · exact .inl ⟨t, rest, rfl, h⟩
    · exact .inr (by simpa using h)

section Forms

variable {a o i : Token Symbol} {ts : List (Token Symbol)}

/-- Square brackets hold a tag or nothing. -/
theorem decided_squareForm (ho : o.tag = .openSquare) :
    Decided (call .atom) .expr Writing.Atom (o :: ts) := by
  have hfails : Fails (call .terminal) (o :: ts) → Fails (call .empty) (o :: ts) →
      Fails (call .atom) (o :: ts) := by
    intro hterminal hempty
    refine fails_atom_of_head fun part hpart => ?_
    rw [ho] at hpart
    cases part <;> cases hpart
    exacts [hterminal, hempty]
  rcases head_cases .closeSquare ts with ⟨c, rest, rfl, hc⟩ | hclose
  · exact .inr ⟨[o, c], rest, _, rfl, by simp, .empty ho hc, takes_emptyForm ho hc⟩
  have hempty : Fails (call .empty) (o :: ts) := Fails.call (FailsAmong.sequence
    (.later (takes_terminal ho _) (.here (fails_terminal hclose))))
  rcases head_cases .identifier ts with ⟨i, rest, rfl, hi⟩ | hi
  · rcases head_cases .closeSquare rest with ⟨c, rest, rfl, hc⟩ | hthird
    · exact .inr ⟨[o, i, c], rest, _, rfl, by simp, .terminal ho hi hc, takes_terminalForm ho hi hc⟩
    · exact .inl (hfails (Fails.call (FailsAmong.sequence (.later (takes_terminal ho _)
        (.later (takes_terminal hi _) (.here (fails_terminal hthird)))))) hempty)
  · exact .inl (hfails (Fails.call (FailsAmong.sequence
      (.later (takes_terminal ho _) (.here (fails_terminal hi))))) hempty)

/-- An identifier is the name of a rule, or the head of the next rule. -/
theorem decided_identifierForm (hi : i.tag = .identifier) :
    Decided (call .atom) .expr Writing.Atom (i :: ts) := by
  rcases head_cases .arrow ts with ⟨arrow, rest, rfl, harrow⟩ | hrest
  · exact .inl (UnariesEnd.fails_atom (.inl (.head hi harrow)))
  · exact .inr ⟨[i], ts, _, rfl, by simp, .nonTerminal hi, takes_nonTerminalForm hi hrest⟩

/-- An operator before a closing parenthesis, or not. -/
theorem inRound_cases (h : Decided (call .operator) .expr Writing.Operator ts) :
    (∃ used c rest es, ts = used ++ c :: rest ∧ c.tag = .closeRound ∧
      Writing.Alternatives used es ∧
        Takes (call .operator) used (c :: rest) [.expr (choiceOf es)]) ∨
      FailsAmong [call .operator, .terminal .closeRound] ts := by
  rcases h with hfails | ⟨used, rest, _, rfl, -, ⟨es, hwriting, rfl⟩, htakes⟩
  · exact .inr (.here hfails)
  · rcases head_cases .closeRound rest with ⟨c, rest, rfl, hc⟩ | hrest
    · exact .inl ⟨used, c, rest, es, rfl, hc, hwriting, htakes⟩
    · exact .inr (.later htakes (.here (fails_terminal hrest)))

/-- Parentheses hold an operator. -/
theorem decided_bracketsForm (ho : o.tag = .openRound)
    (h : Decided (call .operator) .expr Writing.Operator ts) :
    Decided (call .atom) .expr Writing.Atom (o :: ts) := by
  rcases inRound_cases h with ⟨used, c, rest, es, rfl, hc, hwriting, htakes⟩ | hfails
  · exact .inr ⟨o :: (used ++ [c]), rest, _, by simp, by simp, .brackets ho hwriting hc,
      takes_bracketsForm ho hc htakes⟩
  · refine .inl (fails_atom_of_head fun part hpart => ?_)
    rw [ho] at hpart
    cases part <;> cases hpart
    exact Fails.call (FailsAmong.sequence (.later (takes_terminal ho _) hfails))

/-- A part that looks ahead fails if there is no operator between parentheses. -/
theorem fails_inRound {s : Symbol} (ha : a.tag = s) (h : (∀ t ∈ ts.head?, t.tag ≠ .openRound) ∨
      ∃ o rest, ts = o :: rest ∧ o.tag = .openRound ∧
        FailsAmong [call .operator, .terminal .closeRound] rest) :
    Fails (Part.inRound [.terminal s]) (a :: ts) := by
  refine FailsAmong.sequence (.later (takes_terminal ha _) ?_)
  rcases h with hopen | ⟨o, rest, rfl, ho, hfails⟩
  · exact .here (fails_terminal hopen)
  · exact .later (takes_terminal ho _) hfails

/-- A lexeme that looks ahead stands before an operator between parentheses. -/
theorem decided_aheadForm (ha : a.tag = .ampersand ∨ a.tag = .bang)
    (h : ∀ o rest, ts = o :: rest → Decided (call .operator) .expr Writing.Operator rest) :
    Decided (call .atom) .expr Writing.Atom (a :: ts) := by
  have hfails : (∀ {s}, a.tag = s → Fails (Part.inRound [.terminal s]) (a :: ts)) →
      Fails (call .atom) (a :: ts) := by
    intro hround
    refine fails_atom_of_head fun part hpart => ?_
    rcases ha with ha | ha <;> rw [ha] at hpart <;> cases part <;> cases hpart <;>
      exact Fails.call (hround ha)
  rcases head_cases .openRound ts with ⟨o, rest, rfl, ho⟩ | hopen
  · rcases inRound_cases (h o rest rfl) with
      ⟨used, c, rest, es, rfl, hc, hwriting, htakes⟩ | hround
    · rcases ha with ha | ha
      · exact .inr ⟨a :: o :: (used ++ [c]), rest, _, by simp, by simp,
          .andAhead ha ho hwriting hc, takes_andAheadForm ha ho hc htakes⟩
      · exact .inr ⟨a :: o :: (used ++ [c]), rest, _, by simp, by simp,
          .notAhead ha ho hwriting hc, takes_notAheadForm ha ho hc htakes⟩
    · exact .inl (hfails fun ha => fails_inRound ha (.inr ⟨o, rest, rfl, ho, hround⟩))
  · exact .inl (hfails fun ha => fails_inRound ha (.inl hopen))

/-- An atom is decided if the operators between parentheses are. -/
theorem decided_atom (ih : ∀ ts' : List (Token Symbol), ts'.length < ts.length →
    Decided (call .operator) .expr Writing.Operator ts') :
    Decided (call .atom) .expr Writing.Atom ts := by
  cases ts with
  | nil =>
    refine .inl (fails_atom fun part hpart => ?_)
    obtain ⟨s, hs⟩ := Option.isSome_iff_exists.1 hpart
    exact fails_of_opener? hs (by simp)
  | cons t ts =>
    cases htag : t.tag with
    | openSquare => exact decided_squareForm htag
    | identifier => exact decided_identifierForm htag
    | openRound => exact decided_bracketsForm htag (ih ts (by simp))
    | ampersand | bang =>
      refine decided_aheadForm (by simp [htag]) fun o rest hts => ih rest ?_
      rw [hts, List.length_cons, List.length_cons]
      omega
    | closeSquare | closeRound | blank | plus | star | question | bar | arrow | semicolon =>
      refine .inl (fails_atom_of_head fun part hpart => ?_)
      rw [htag] at hpart
      cases part <;> cases hpart

end Forms

/-! ## Sequences and choices -/

/-- A writing of an alternative: of one or more unaries. -/
def Writing.Alternative (ts : List (Token Symbol)) (e : RawExpr) : Prop :=
  ∃ es, Writing.Unaries ts es ∧ e = sequenceOf es

/-- A writing of an alternative after a bar. -/
def Writing.Barred (ts : List (Token Symbol)) (e : RawExpr) : Prop :=
  ∃ bar rest, ts = bar :: rest ∧ bar.tag = .bar ∧ Writing.Alternative rest e

/-- A writing of an atom before a suffix. -/
theorem Writing.Unary.suffixed {ts : List (Token Symbol)} {e : RawExpr} {t : Token Symbol}
    {operator : RawExpr → RawExpr} (h : Writing.Atom ts e) (ht : suffix? t.tag = some operator) :
    Writing.Unary (ts ++ [t]) (operator e) := by
  cases htag : t.tag <;> simp only [htag, suffix?, reduceCtorEq, Option.some.injEq] at ht <;>
    subst ht
  case question => exact .optional h htag
  case star => exact .zeroOrMore h htag
  case plus => exact .oneOrMore h htag

/-- Many unaries make an alternative. -/
theorem Many.unaries {ts : List (Token Symbol)} {es : List RawExpr}
    (h : Many Writing.Unary ts es) : Writing.Unaries ts es := by
  induction h with
  | one h => exact .one h
  | more h _ ih => exact .more h ih

/-- Many alternatives after bars are a bar before alternatives. -/
theorem Many.alternatives {ts : List (Token Symbol)} {es : List RawExpr}
    (h : Many Writing.Barred ts es) :
    ∃ bar rest, ts = bar :: rest ∧ bar.tag = .bar ∧ Writing.Alternatives rest es := by
  induction h with
  | one h =>
    obtain ⟨bar, rest, rfl, hbar, es, hes, rfl⟩ := h
    exact ⟨bar, rest, rfl, hbar, .one hes⟩
  | more h _ ih =>
    obtain ⟨bar, rest, rfl, hbar, es, hes, rfl⟩ := h
    obtain ⟨bar', rest', rfl, hbar', hrest⟩ := ih
    exact ⟨bar, rest ++ bar' :: rest', rfl, hbar, .more hes hbar' hrest⟩

/-- A unary is decided if its atom is. -/
theorem decided_unary {ts : List (Token Symbol)}
    (h : Decided (call .atom) .expr Writing.Atom ts) :
    Decided (call .unary) .expr Writing.Unary ts := by
  rcases h with hfails | ⟨used, rest, e, rfl, hne, hwriting, htakes⟩
  · exact .inl (fails_unary hfails)
  have hplain : (∀ t ∈ rest.head?, suffix? t.tag = none) →
      Decided (call .unary) .expr Writing.Unary (used ++ rest) := fun hrest =>
    .inr ⟨used, rest, e, rfl, hne, .atom hwriting, takes_unsuffixed htakes hrest⟩
  cases rest with
  | nil => exact hplain (by simp)
  | cons t rest =>
    cases ht : suffix? t.tag with
    | none => exact hplain (by simpa using ht)
    | some operator =>
      exact .inr ⟨used ++ [t], rest, operator e, by simp, by simp, .suffixed hwriting ht,
        takes_suffixed htakes ht⟩

/-- An alternative is decided if its unaries are. -/
theorem decided_alternative {n : Nat}
    (h : ∀ ts : List (Token Symbol), ts.length ≤ n → Decided (call .unary) .expr Writing.Unary ts)
    (ts : List (Token Symbol)) (hts : ts.length ≤ n) :
    Fails (call .unary) ts ∨ ∃ used rest e, ts = used ++ rest ∧ used ≠ [] ∧
      Writing.Alternative used e ∧
        TakesFirst [call .sequence, call .unary] used rest [.expr e] := by
  rcases h ts hts with hfails | ⟨used, rest, e, rfl, hne, hwriting, htakes⟩
  · exact .inl hfails
  rw [List.length_append] at hts
  rcases Decided.many n h rest (by omega) with hfails | ⟨used', rest, es, rfl, hmany, htakes'⟩
  · exact .inr ⟨used, rest, e, rfl, hne, ⟨[e], .one hwriting, rfl⟩, takesFirst_unary htakes hfails⟩
  · have hes := hmany.unaries
    refine .inr ⟨used ++ used', rest, _, by simp, by simp [hne], ⟨e :: es, .more hwriting hes, rfl⟩,
      ?_⟩
    rw [hes.sequenceOf_cons]
    exact takesFirst_sequence htakes htakes'

/-- No alternative is there if no unary is. -/
theorem fails_alternative {ts : List (Token Symbol)} (h : Fails (call .unary) ts) :
    Fails (call .sequence) ts ∧ Fails Part.alternative ts := by
  have hsequence : Fails (call .sequence) ts := Fails.call (FailsAmong.sequence (.here h))
  refine ⟨hsequence, fails_orderedChoice ?_⟩
  simp only [List.forall_mem_cons]
  exact ⟨hsequence, h, by simp⟩

/-- An alternative after a bar is decided if its unaries are. -/
theorem decided_barred {n : Nat}
    (h : ∀ ts : List (Token Symbol), ts.length ≤ n → Decided (call .unary) .expr Writing.Unary ts)
    (ts : List (Token Symbol)) (hts : ts.length ≤ n) :
    Decided (.sequence [.terminal .bar, Part.alternative]) .expr Writing.Barred ts := by
  rcases head_cases .bar ts with ⟨bar, rest, rfl, hbar⟩ | hbar
  · rw [List.length_cons] at hts
    rcases decided_alternative h rest (by omega) with
      hfails | ⟨used, rest, e, rfl, -, hwriting, htakes⟩
    · exact .inl (FailsAmong.sequence
        (.later (takes_terminal hbar _) (.here (fails_alternative hfails).2)))
    · exact .inr ⟨bar :: used, rest, e, rfl, by simp, ⟨bar, used, rfl, hbar, hwriting⟩,
        takes_barred hbar htakes⟩
  · exact .inl (FailsAmong.sequence (.here (fails_terminal hbar)))

/-- An operator is decided if its unaries are. -/
theorem decided_operator_of_unary {n : Nat}
    (h : ∀ ts : List (Token Symbol), ts.length ≤ n → Decided (call .unary) .expr Writing.Unary ts)
    (ts : List (Token Symbol)) (hts : ts.length ≤ n) :
    Decided (call .operator) .expr Writing.Operator ts := by
  rcases decided_alternative h ts hts with
    hfails | ⟨used, rest, _, rfl, hne, ⟨es, hwriting, rfl⟩, htakes⟩
  · obtain ⟨hsequence, halternative⟩ := fails_alternative hfails
    have hchoice : Fails (call .choice) ts :=
      Fails.call (FailsAmong.sequence (.here halternative))
    refine .inl (Fails.call (fails_orderedChoice ?_))
    simp only [List.forall_mem_cons]
    exact ⟨hchoice, hsequence, hfails, by simp⟩
  rw [List.length_append] at hts
  rcases Decided.many n (decided_barred h) rest (by omega) with
    hfails | ⟨used', rest, es', rfl, hmany, htakes'⟩
  · exact .inr ⟨used, rest, _, rfl, hne, ⟨_, .one hwriting, rfl⟩,
      takes_operator_of_first htakes hfails⟩
  · obtain ⟨bar, ts', rfl, hbar, hes'⟩ := hmany.alternatives
    refine .inr ⟨used ++ bar :: ts', rest, _, by simp, by simp,
      ⟨_, .more hwriting hbar hes', rfl⟩, ?_⟩
    rw [hes'.choiceOf_cons]
    exact takes_operator_of_many htakes htakes'

/-- **Every operator is decided.** The operators between parentheses are shorter. -/
theorem decided_operator (n : Nat) : ∀ ts : List (Token Symbol), ts.length < n →
    Decided (call .operator) .expr Writing.Operator ts := by
  induction n with
  | zero => exact fun ts hts => absurd hts (by omega)
  | succ n ih =>
    intro ts hts
    refine decided_operator_of_unary (fun ts' hts' => ?_) ts (Nat.le_of_lt_succ hts)
    exact decided_unary (decided_atom fun ts'' hts'' => ih ts'' (by omega))

/-! ## Rules -/

/-- Every rule is decided. -/
theorem decided_rule (ts : List (Token Symbol)) : Decided (call .rule) .rule Writing.Rule ts := by
  rcases head_cases .identifier ts with ⟨head, rest, rfl, hhead⟩ | hhead
  · rcases head_cases .arrow rest with ⟨arrow, rest, rfl, harrow⟩ | harrow
    · rcases decided_operator _ rest (Nat.lt_succ_self _) with
        hfails | ⟨used, rest, _, rfl, -, ⟨es, hwriting, rfl⟩, htakes⟩
      · exact .inl (Fails.call (FailsAmong.sequence (.later (takes_terminal hhead _)
          (.later (takes_terminal harrow _) (.here hfails)))))
      · rcases head_cases .semicolon rest with ⟨s, rest, rfl, hs⟩ | hs
        · exact .inr ⟨head :: arrow :: (used ++ [s]), rest, _, by simp, by simp,
            .ended hhead harrow hwriting hs, takes_endedRule hhead harrow htakes hs⟩
        · exact .inr ⟨head :: arrow :: used, rest, _, rfl, by simp,
            .unended hhead harrow hwriting, takes_unendedRule hhead harrow htakes hs⟩
    · exact .inl (Fails.call (FailsAmong.sequence
        (.later (takes_terminal hhead _) (.here (fails_terminal harrow)))))
  · exact .inl (Fails.call (FailsAmong.sequence (.here (fails_terminal hhead))))

/-- Many rules make a text. -/
theorem Many.text {ts : List (Token Symbol)} {rs : List RawRule} (h : Many Writing.Rule ts rs) :
    Writing.Text ts rs := by
  induction h with
  | one h => exact .one h
  | more h _ ih => exact .more h ih

/-- No rule is there, or the rules that are taken from the lexemes are a text. -/
theorem decided_text (ts : List (Token Symbol)) :
    Fails (call .rule) ts ∨ ∃ used rest rs, ts = used ++ rest ∧ Writing.Text used rs ∧
      TakesMany (call .rule) used rest (rs.map .rule) := by
  rcases Decided.many ts.length (fun ts _ => decided_rule ts) ts (Nat.le_refl _) with
    hfails | ⟨used, rest, rs, hts, hmany, htakes⟩
  · exact .inl hfails
  · exact .inr ⟨used, rest, rs, hts, hmany.text, htakes⟩

/-! ## Texts -/

/-- There is a rule in every text. -/
theorem Writing.Text.ne_nil {ts : List (Token Symbol)} {rs : List RawRule}
    (h : Writing.Text ts rs) : rs ≠ [] := by
  cases h <;> simp

section Texts

variable {tokens : Array (Token Symbol)}

/-- All lexemes are there at first. -/
theorem at_zero (tokens : Array (Token Symbol)) : At tokens 0 tokens.toList :=
  ⟨Nat.zero_le _, rfl⟩

/-- Parsing lexemes says what is derivable for the start node. -/
theorem parseWith_grammar {o : Outcome Reading}
    (h : grammar.Parses tokens grammar.startNode 0 .consuming o) :
    (grammar.parseWith tokens {} ∅).1 = o.complete tokens.size := by
  obtain ⟨b, rules, hext, hbuild⟩ := exists_build
  have hb : b.Made := hext.made (.new 0 registry)
  exact Grammar.parseWith_of_parses hb hbuild pureActions_grammar {} (Grammar.labelled_empty _) h

/-- Lexemes are malformed where their parse fails. -/
theorem readTokens_of_failed {p : Nat} (h : (grammar.parseWith tokens {} ∅).1 = .failed p) :
    readTokens tokens = .error (.malformed p (tokens[p]?.map (·.text))) := by
  unfold readTokens
  generalize grammar.parseWith tokens {} ∅ = parsed at h
  obtain ⟨outcome, run⟩ := parsed
  cases h
  rfl

/-- The rules of a parse are read, if there are any. -/
theorem readTokens_of_matched {next : Nat} {span : Span} {rs : List RawRule} (hne : rs ≠ [])
    (h : (grammar.parseWith tokens {} ∅).1 = .matched next span (.rules rs)) :
    readTokens tokens = .ok rs := by
  obtain ⟨rule, others, rfl⟩ := List.exists_cons_of_ne_nil hne
  unfold readTokens
  generalize grammar.parseWith tokens {} ∅ = parsed at h
  obtain ⟨outcome, run⟩ := parsed
  cases h
  rfl

/-- Where no rule is, nothing is read. -/
theorem readTokens_of_fails (h : Fails (call .rule) tokens.toList) :
    readTokens tokens = .error (.malformed 0 (tokens[0]?.map (·.text))) := by
  obtain ⟨body, hbody, o, hid, ho⟩ := body?_part .start
  obtain ⟨q, hq⟩ := h (at_zero tokens) ho
  have hrep : grammar.Parses tokens body 0 .consuming (.failed 0) :=
    .oneOrMoreFails (get?_of_node? hid) (.done hq)
  exact readTokens_of_failed
    (parseWith_grammar (.nonTerminal (get?_of_node? holds_startNode) hbody hrep))

/-- The rules that are taken from the lexemes are read if no lexeme is left over; else the lexemes
are malformed at the first that is. -/
theorem readTokens_of_takesMany {used rest : List (Token Symbol)} {rs : List RawRule}
    (htokens : tokens.toList = used ++ rest) (hne : rs ≠ [])
    (h : TakesMany (call .rule) used rest (rs.map .rule)) :
    readTokens tokens = if rest = [] then .ok rs
      else .error (.malformed used.length (tokens[used.length]?.map (·.text))) := by
  have hat : At tokens 0 (used ++ rest) := htokens ▸ at_zero tokens
  have hstart : Takes (Part.body .start) used rest (rs.map .rule) := h.oneOrMore
  obtain ⟨m, value, -, hleaves, hparses⟩ := hstart.parses_call hat holds_startNode
  have hread : Part.read .start m [value] = .rules rs := by
    rw [Part.read, Reading.leavesAll, Reading.leavesAll, hleaves, List.append_nil,
      List.filterMap_map]
    exact congrArg Reading.rules List.filterMap_some
  have hsize : tokens.size = used.length + rest.length := by
    rw [hat.size_eq, Nat.zero_add, List.length_append]
  have hparse := parseWith_grammar hparses
  rw [hread, Nat.zero_add, Outcome.complete] at hparse
  split
  · next hrest =>
    rw [hrest, List.length_nil, Nat.add_zero] at hsize
    rw [if_pos hsize.symm] at hparse
    exact readTokens_of_matched hne hparse
  · next hrest =>
    have hpos := List.length_pos_of_ne_nil hrest
    rw [if_neg (by omega)] at hparse
    exact readTokens_of_failed hparse

/-- The rules of a text are read from its lexemes. -/
theorem Writing.Text.readTokens {rs : List RawRule} (h : Writing.Text tokens.toList rs) :
    readTokens tokens = .ok rs := by
  rw [readTokens_of_takesMany (List.append_nil _).symm h.ne_nil h.takesMany, if_pos rfl]

/-- Lexemes are a writing of rules, or malformed at a position before which there is nothing or a
text. -/
theorem exists_text_or_malformed (tokens : Array (Token Symbol)) :
    (∃ rules, Writing.Text tokens.toList rules) ∨ ∃ position ≤ tokens.size,
      readTokens tokens = .error (.malformed position (tokens[position]?.map (·.text))) ∧
      (tokens.toList.take position = [] ∨
        ∃ rules, Writing.Text (tokens.toList.take position) rules) := by
  rcases decided_text tokens.toList with hfails | ⟨used, rest, rs, htokens, htext, htakes⟩
  · exact .inr ⟨0, Nat.zero_le _, readTokens_of_fails hfails, .inl rfl⟩
  have hresult := readTokens_of_takesMany htokens htext.ne_nil htakes
  cases rest with
  | nil => exact .inl ⟨rs, by rwa [htokens, List.append_nil]⟩
  | cons t rest =>
    have hsize := congrArg List.length htokens
    rw [List.length_append, Array.length_toList] at hsize
    refine .inr ⟨used.length, by omega, hresult, .inr ⟨rs, ?_⟩⟩
    rwa [htokens, List.take_left]

/-- **Lexemes are read as the rules that they are a writing of, and there is one such list of rules
at most.** Other lexemes are malformed at a position before which there is nothing or a text. -/
theorem readTokens_correct (tokens : Array (Token Symbol)) :
    (∀ rules, readTokens tokens = .ok rules ↔ Writing.Text tokens.toList rules) ∧
    (∀ rules rules', Writing.Text tokens.toList rules → Writing.Text tokens.toList rules' →
      rules = rules') ∧
    ((¬∃ rules, Writing.Text tokens.toList rules) → ∃ position ≤ tokens.size,
      readTokens tokens = .error (.malformed position (tokens[position]?.map (·.text))) ∧
      (tokens.toList.take position = [] ∨
        ∃ rules, Writing.Text (tokens.toList.take position) rules)) := by
  have hread : ∀ rules, Writing.Text tokens.toList rules → readTokens tokens = .ok rules :=
    fun rules h => h.readTokens
  have hdecided := exists_text_or_malformed tokens
  refine ⟨fun rules => ⟨fun h => ?_, hread rules⟩, fun rules rules' h h' => ?_, fun h => ?_⟩
  · rcases hdecided with ⟨rules', h'⟩ | ⟨position, -, herror, -⟩
    · rw [hread rules' h'] at h
      cases h
      exact h'
    · rw [herror] at h
      cases h
  · have hsame := hread rules h
    rw [hread rules' h'] at hsame
    cases hsame
    rfl
  · exact hdecided.resolve_left h

end Texts

end Packrat.GrammarText
