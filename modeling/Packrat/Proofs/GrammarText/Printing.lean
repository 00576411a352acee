import Packrat.Proofs.Expressions
import Packrat.Proofs.GrammarText.Lexemes
import Packrat.Proofs.GrammarText.Soundness

/-!
# Grammar text that was printed

The text of an expression is written in lexemes (`Expr.lexemes`, `Expr.join_lexemes`), and if its
tags and names print as identifiers, the lexemes can be told apart (`Expr.block_lexemes`). Without
the white space they are a writing of the spliced expression (`Expr.unaries_lexemes`): operands of a
sequence are written one after the other whether they stand in one sequence or in several, and all
other operands are in parentheses. So the text of some rules is read as these rules, spliced
(`GrammarText.read_rulesText`).
-/

namespace Packrat

variable {K N β : Type}

namespace GrammarText

/-! ## Blocks of lexemes -/

namespace Lexeme

/-- The lexeme of a symbol with one spelling. -/
def of (s : Symbol) : Lexeme := ⟨s, String.ofList (s.fixed?.getD [])⟩

/-- The white space between the parts of a rule. -/
def space : Lexeme := ⟨.blank, " "⟩

/-- The white space between rules. -/
def lineBreak : Lexeme := ⟨.blank, "\n"⟩

/-- Lexemes between parentheses. -/
def inRound (ls : List Lexeme) : List Lexeme := of .openRound :: (ls ++ [of .closeRound])

/-- The text of blocks with others between them. -/
theorem join_intercalate (sep : List Lexeme) (blocks : List (List Lexeme)) :
    join (sep.intercalate blocks) = (join sep).intercalate (blocks.map join) := by
  induction blocks with
  | nil => rfl
  | cons block rest ih =>
    cases rest with
    | nil => simp
    | cons block' rest =>
      rw [List.intercalate_cons_cons, join_append, join_append, ih, List.map_cons (a := block),
        String.intercalate_cons_of_ne_nil (by simp)]

end Lexeme

theorem Lexemes.append {ls ls' : List Lexeme} (h : Lexemes ls) (h' : Lexemes ls')
    (hapart : ∀ l ∈ ls.getLast?, ∀ l' ∈ ls'.head?, l.symbol = l'.symbol → l.symbol.fixed?.isSome) :
    Lexemes (ls ++ ls') :=
  ⟨List.forall_mem_append.2 ⟨h.spelled, h'.spelled⟩,
    List.isChain_append.2 ⟨h.apart, h'.apart, hapart⟩⟩

/-- Lexemes that can be told apart, with white space at neither end. -/
structure Block (ls : List Lexeme) : Prop where
  lexemes : Lexemes ls
  nonempty : ls ≠ []
  first : ∀ l ∈ ls.head?, l.symbol ≠ .blank
  last : ∀ l ∈ ls.getLast?, l.symbol ≠ .blank

/-- White space, or lexemes between white space. -/
structure Separator (ls : List Lexeme) : Prop where
  lexemes : Lexemes ls
  nonempty : ls ≠ []
  first : ∀ l ∈ ls.head?, l.symbol = .blank
  last : ∀ l ∈ ls.getLast?, l.symbol = .blank

theorem separator_blank {text : String} (h : Symbol.blank.spells text.toList) :
    Separator [⟨.blank, text⟩] where
  lexemes := ⟨List.forall_mem_singleton.2 h, List.isChain_singleton _⟩
  nonempty := List.cons_ne_nil _ _
  first := by simp
  last := by simp

theorem separator_space : Separator [.space] := separator_blank (by decide)

theorem separator_lineBreak : Separator [.lineBreak] := separator_blank (by decide)

theorem separator_bar : Separator [.space, .of .bar, .space] where
  lexemes := by
    refine ⟨?_, ?_⟩
    · simp only [List.forall_mem_cons, List.not_mem_nil, false_implies, implies_true, and_true]
      decide
    · simp [Lexeme.space, Lexeme.of]
  nonempty := List.cons_ne_nil _ _
  first := by simp [Lexeme.space]
  last := by simp [Lexeme.space]

namespace Block

variable {s : Symbol} {ls ls' sep : List Lexeme} {blocks : List (List Lexeme)}

/-- A lexeme that is not white space is a block. -/
theorem singleton {l : Lexeme} (h : l.symbol.spells l.text.toList) (hne : l.symbol ≠ .blank) :
    Block [l] where
  lexemes := ⟨List.forall_mem_singleton.2 h, List.isChain_singleton _⟩
  nonempty := List.cons_ne_nil _ _
  first := by simpa using hne
  last := by simpa using hne

theorem identifier {text : String} (h : isIdentifier text) : Block [⟨.identifier, text⟩] :=
  singleton (by rwa [Symbol.spells_identifier]) Symbol.noConfusion

/-- A symbol with one spelling is a block. -/
theorem of (h : s.fixed?.isSome) : Block [.of s] := by
  obtain ⟨chars, hchars⟩ := Option.isSome_iff_exists.1 h
  refine singleton (by simp [Lexeme.of, Symbol.spells, hchars]) ?_
  rintro rfl
  cases h

/-- Two blocks with a separator between them are a block. -/
theorem separated (h : Block ls) (hsep : Separator sep) (h' : Block ls') :
    Block (ls ++ sep ++ ls') := by
  have hbefore : Lexemes (ls ++ sep) := h.lexemes.append hsep.lexemes fun l hl l' hl' hsame =>
    absurd (hsame.trans (hsep.first l' hl')) (h.last l hl)
  have hlast : (ls ++ sep).getLast? = sep.getLast? := List.getLast?_append_of_ne_nil _ hsep.nonempty
  refine ⟨hbefore.append h'.lexemes fun l hl l' hl' hsame => ?_, ?_, ?_, ?_⟩
  · rw [hlast] at hl
    exact absurd (hsame.symm.trans (hsep.last l hl)) (h'.first l' hl')
  · simp [h.nonempty]
  · rw [List.append_assoc, List.head?_append_of_ne_nil _ h.nonempty]
    exact h.first
  · rw [List.getLast?_append_of_ne_nil _ h'.nonempty]
    exact h'.last

/-- Blocks with separators between them are a block. -/
theorem intercalate (hsep : Separator sep) (hne : blocks ≠ []) (h : ∀ ls ∈ blocks, Block ls) :
    Block (sep.intercalate blocks) := by
  induction blocks with
  | nil => cases hne rfl
  | cons ls rest ih =>
    obtain ⟨hls, hrest⟩ := List.forall_mem_cons.1 h
    cases rest with
    | nil => rwa [List.intercalate_singleton]
    | cons ls' rest =>
      rw [List.intercalate_cons_cons]
      exact hls.separated hsep (ih (List.cons_ne_nil _ _) hrest)

/-- A block with a symbol of one spelling before it is a block. -/
theorem cons (hs : s.fixed?.isSome) (h : Block ls) : Block (.of s :: ls) := by
  have hfirst := of hs
  refine ⟨hfirst.lexemes.append h.lexemes ?_, List.cons_ne_nil _ _, hfirst.first, ?_⟩
  · rintro l ⟨⟩ l' _ _
    exact hs
  · rw [List.getLast?_cons_of_ne_nil h.nonempty]
    exact h.last

/-- A block with a symbol of one spelling after it is a block. -/
theorem concat (hs : s.fixed?.isSome) (h : Block ls) : Block (ls ++ [.of s]) := by
  have hlast := of hs
  refine ⟨h.lexemes.append hlast.lexemes ?_, by simp, ?_, ?_⟩
  · rintro l _ l' ⟨⟩ hsame
    rw [hsame]
    exact hs
  · rw [List.head?_append_of_ne_nil _ h.nonempty]
    exact h.first
  · rw [List.getLast?_append_of_ne_nil _ (List.cons_ne_nil _ _)]
    exact hlast.last

/-- A block between parentheses is a block. -/
theorem inRound (h : Block ls) : Block (Lexeme.inRound ls) := (h.concat rfl).cons rfl

end Block

/-! ## Tokens of lexemes -/

namespace Lexeme

/-- The tokens are the lexemes, without the white space. -/
def Kept (ls : List Lexeme) (ts : List (Token Symbol)) : Prop :=
  ts.map ofToken = ls.filter (·.symbol ≠ .blank)

variable {l : Lexeme} {ls ls' : List Lexeme} {ts : List (Token Symbol)}

@[simp] theorem kept_nil : Kept [] ts ↔ ts = [] := List.map_eq_nil_iff

/-- The tokens of two texts, one after the other. -/
theorem kept_append :
    Kept (ls ++ ls') ts ↔ ∃ ts₁ ts₂, ts = ts₁ ++ ts₂ ∧ Kept ls ts₁ ∧ Kept ls' ts₂ := by
  rw [Kept, List.filter_append, List.map_eq_append_iff]
  rfl

/-- White space is left out. -/
theorem kept_cons_blank (hl : l.symbol = .blank) : Kept (l :: ls) ts ↔ Kept ls ts := by
  simp [Kept, hl]

/-- Any other lexeme is a token. -/
theorem kept_cons (hl : l.symbol ≠ .blank) :
    Kept (l :: ls) ts ↔
      ∃ t rest, ts = t :: rest ∧ (t.tag = l.symbol ∧ t.text = l.text) ∧ Kept ls rest := by
  have htoken : ∀ t : Token Symbol, ofToken t = l ↔ t.tag = l.symbol ∧ t.text = l.text := by
    intro t
    cases l
    simp [ofToken]
  simp only [Kept, List.filter_cons, hl, ne_eq, not_false_eq_true, decide_true, if_true,
    List.map_eq_cons_iff, htoken]

/-- The tokens of a symbol and of what follows it. -/
theorem Kept.cons {s : Symbol} (h : Kept (.of s :: ls) ts) (hs : s ≠ .blank) :
    ∃ t rest, ts = t :: rest ∧ t.tag = s ∧ Kept ls rest := by
  obtain ⟨t, rest, rfl, ⟨htag, -⟩, hrest⟩ := (kept_cons hs).1 h
  exact ⟨t, rest, rfl, htag, hrest⟩

/-- The tokens of an identifier and of what follows it. -/
theorem Kept.identifier {text : String} (h : Kept (⟨.identifier, text⟩ :: ls) ts) :
    ∃ t rest, ts = t :: rest ∧ t.tag = .identifier ∧ t.text = text ∧ Kept ls rest := by
  have hsymbol : Symbol.identifier ≠ .blank := by decide
  obtain ⟨t, rest, rfl, ⟨htag, htext⟩, hrest⟩ := (kept_cons hsymbol).1 h
  exact ⟨t, rest, rfl, htag, htext, hrest⟩

/-- The tokens of a symbol and of what comes before it. -/
theorem Kept.concat {s : Symbol} (h : Kept (ls ++ [.of s]) ts) (hs : s ≠ .blank) :
    ∃ before t, ts = before ++ [t] ∧ Kept ls before ∧ t.tag = s := by
  obtain ⟨before, after, rfl, hbefore, hafter⟩ := kept_append.1 h
  obtain ⟨t, rest, rfl, htag, hrest⟩ := hafter.cons hs
  cases kept_nil.1 hrest
  exact ⟨before, t, rfl, hbefore, htag⟩

/-- The tokens of a text in parentheses. -/
theorem Kept.inRound (h : Kept (inRound ls) ts) :
    ∃ o within c, ts = o :: (within ++ [c]) ∧ o.tag = .openRound ∧ Kept ls within ∧
      c.tag = .closeRound := by
  obtain ⟨o, rest, rfl, ho, hrest⟩ := h.cons (by decide)
  obtain ⟨within, c, rfl, hwithin, hc⟩ := hrest.concat (by decide)
  exact ⟨o, within, c, rfl, ho, hwithin, hc⟩

/-- What holds of texts one after the other holds of texts with white space between them. -/
theorem Kept.spaced {α : Type} {W : List (Token Symbol) → List α → Prop}
    (happend : ∀ {ts ts' xs xs'}, W ts xs → W ts' xs' → W (ts ++ ts') (xs ++ xs'))
    {f : β → List Lexeme} {g : β → List α} {items : List β} (hne : items ≠ [])
    (hitems : ∀ x ∈ items, ∀ ts, Kept (f x) ts → W ts (g x)) (hl : l.symbol = .blank)
    (h : Kept ([l].intercalate (items.map f)) ts) : W ts (items.flatMap g) := by
  induction items generalizing ts with
  | nil => cases hne rfl
  | cons x rest ih =>
    obtain ⟨hx, hrest⟩ := List.forall_mem_cons.1 hitems
    cases rest with
    | nil =>
      rw [List.map_singleton, List.intercalate_singleton] at h
      rw [List.flatMap_singleton]
      exact hx ts h
    | cons y rest =>
      rw [List.map_cons, List.map_cons, List.intercalate_cons_cons, List.append_assoc,
        kept_append] at h
      obtain ⟨before, after, rfl, hbefore, hafter⟩ := h
      rw [List.singleton_append, kept_cons_blank hl] at hafter
      rw [List.flatMap_cons]
      exact happend (hx before hbefore) (ih (List.cons_ne_nil _ _) hrest hafter)

end Lexeme

/-! ## Writings of what was printed -/

namespace Writing

variable {ts ts' : List (Token Symbol)} {ls : List Lexeme}

/-- Unaries one after the other. -/
theorem Unaries.append : ∀ {ts ts' : List (Token Symbol)} {es es' : List RawExpr},
    Unaries ts es → Unaries ts' es' → Unaries (ts ++ ts') (es ++ es')
  | _, _, _, _, .one h, h' => .more h h'
  | _, _, _, _, .more h hrest, h' => by
    rw [List.append_assoc]
    exact .more h (hrest.append h')

/-- Rules one after the other. -/
theorem Text.append {rs rs' : List RawRule} (h : Text ts rs) (h' : Text ts' rs') :
    Text (ts ++ ts') (rs ++ rs') := by
  induction h with
  | one h => exact .more h h'
  | more h _ ih =>
    rw [List.append_assoc]
    exact .more h ih

/-- What is written in parentheses is an atom. -/
theorem Atom.inRound {es : List RawExpr} (hls : ∀ ts, Lexeme.Kept ls ts → Alternatives ts es)
    (h : Lexeme.Kept (Lexeme.inRound ls) ts) : Atom ts (choiceOf es) := by
  obtain ⟨o, within, c, rfl, ho, hwithin, hc⟩ := h.inRound
  exact .brackets ho (hls within hwithin) hc

/-- Alternatives between bars. -/
theorem Alternatives.barred {f : β → List Lexeme} {g : β → RawExpr} {items : List β}
    (hne : items ≠ [])
    (hitems : ∀ x ∈ items, ∀ ts, Lexeme.Kept (f x) ts → ∃ es, Unaries ts es ∧ sequenceOf es = g x)
    (h : Lexeme.Kept ([.space, .of .bar, .space].intercalate (items.map f)) ts) :
    Alternatives ts (items.map g) := by
  induction items generalizing ts with
  | nil => cases hne rfl
  | cons x rest ih =>
    obtain ⟨hx, hrest⟩ := List.forall_mem_cons.1 hitems
    cases rest with
    | nil =>
      rw [List.map_singleton, List.intercalate_singleton] at h
      obtain ⟨es, hes, hg⟩ := hx ts h
      rw [List.map_singleton, ← hg]
      exact .one hes
    | cons y rest =>
      rw [List.map_cons, List.map_cons, List.intercalate_cons_cons, List.append_assoc,
        Lexeme.kept_append] at h
      obtain ⟨before, after, rfl, hbefore, hafter⟩ := h
      obtain ⟨es, hes, hg⟩ := hx before hbefore
      simp only [List.cons_append, List.nil_append] at hafter
      rw [Lexeme.kept_cons_blank rfl] at hafter
      obtain ⟨bar, after, rfl, hbar, hafter⟩ := hafter.cons (by decide)
      rw [Lexeme.kept_cons_blank rfl] at hafter
      rw [List.map_cons, ← hg]
      exact .more hes hbar (ih (List.cons_ne_nil _ _) hrest hafter)

end Writing

end GrammarText

open GrammarText

variable [ToString K] [ToString N]

namespace Operator

variable {ι : Type}

/-- The operator in lexemes, from the lexemes of its operands. -/
def lexemes : Operator K N (List Lexeme) → List Lexeme
  | .terminal tag => [.of .openSquare, ⟨.identifier, toString tag⟩, .of .closeSquare]
  | .nonTerminal name => [⟨.identifier, toString name⟩]
  | .emptyString => [.of .openSquare, .of .closeSquare]
  | .sequence xs => [.space].intercalate xs
  | .orderedChoice xs => Lexeme.inRound ([.space, .of .bar, .space].intercalate xs)
  | .optional x => Lexeme.inRound x ++ [.of .question]
  | .zeroOrMore x => Lexeme.inRound x ++ [.of .star]
  | .oneOrMore x => Lexeme.inRound x ++ [.of .plus]
  | .andPredicate x => .of .ampersand :: Lexeme.inRound x
  | .notPredicate x => .of .bang :: Lexeme.inRound x

theorem join_lexemes (op : Operator K N (List Lexeme)) :
    Lexeme.join op.lexemes = (op.map Lexeme.join).text := by
  cases op with
  | andPredicate x | notPredicate x =>
    simp [lexemes, map, text, Lexeme.inRound, Lexeme.of, Symbol.fixed?, ← String.append_assoc]
  | _ =>
    simp [lexemes, map, text, Lexeme.inRound, Lexeme.of, Symbol.fixed?, Lexeme.space,
      Lexeme.join_intercalate, String.append_assoc]

/-- The operator with the texts of its tag and its name. -/
def raw : Operator K N ι → Operator String String ι
  | .terminal tag => .terminal (toString tag)
  | .nonTerminal name => .nonTerminal (toString name)
  | .emptyString => .emptyString
  | .sequence xs => .sequence xs
  | .orderedChoice xs => .orderedChoice xs
  | .optional x => .optional x
  | .zeroOrMore x => .zeroOrMore x
  | .oneOrMore x => .oneOrMore x
  | .andPredicate x => .andPredicate x
  | .notPredicate x => .notPredicate x

end Operator

namespace Expr

/-- The expression in lexemes. -/
def lexemes : Expr K N → List Lexeme := fold Operator.lexemes

theorem lexemes_eq (e : Expr K N) : e.lexemes = (e.operator.map lexemes).lexemes := fold_eq _ e

/-- **The text of an expression is that of its lexemes.** -/
theorem join_lexemes (e : Expr K N) : Lexeme.join e.lexemes = e.text := by
  induction e using operandInduction with
  | step e ih => rw [lexemes_eq, Operator.join_lexemes, Operator.map_map, Operator.map_congr ih,
      ← text_eq]

/-- The expression with the texts of its tags and names. -/
def raw : Expr K N → RawExpr := fold fun op => op.raw.toExpr

theorem raw_eq (e : Expr K N) : e.raw = (e.operator.map raw).raw.toExpr := fold_eq _ e

/-- What an expression stands for within a sequence stands for the expression. -/
theorem Full.sequenceOf_raw {e : Expr K N} (h : e.Full) :
    sequenceOf (e.inSequence.map raw) = e.raw := by
  cases e with
  | sequence items =>
    have hlength : 2 ≤ items.length := of_decide_eq_true (full_iff.1 h).1
    match items, hlength with
    | x :: y :: rest, _ => rw [raw_eq]; rfl
  | _ => rfl

/-- **The lexemes of an expression are a writing of the spliced one.** -/
theorem unaries_lexemes {e : Expr K N} (h : e.Full) {ts : List (Token Symbol)}
    (hts : Lexeme.Kept e.lexemes ts) : Writing.Unaries ts (e.spliced.inSequence.map raw) := by
  induction e using operandInduction generalizing ts with
  | step e ih =>
    obtain ⟨henough, hops⟩ := full_iff.1 h
    -- An operand on its own stands for itself, also between parentheses.
    have hone : ∀ o ∈ e.operator.operands, ∀ ts, Lexeme.Kept o.lexemes ts →
        ∃ es, Writing.Unaries ts es ∧ sequenceOf es = o.spliced.raw := fun o ho ts hts =>
      ⟨_, ih o ho (hops o ho) hts, (hops o ho).spliced.sequenceOf_raw⟩
    have hwithin : ∀ o ∈ e.operator.operands, ∀ ts, Lexeme.Kept o.lexemes ts →
        Writing.Alternatives ts [o.spliced.raw] := by
      intro o ho ts hts
      obtain ⟨es, hes, heq⟩ := hone o ho ts hts
      rw [← heq]
      exact .one hes
    rw [lexemes_eq] at hts
    cases e with
    | terminal tag =>
      obtain ⟨o, ts, rfl, ho, hts⟩ := Lexeme.Kept.cons hts (by decide)
      obtain ⟨i, ts, rfl, hi, htext, hts⟩ := Lexeme.Kept.identifier hts
      obtain ⟨c, ts, rfl, hc, hts⟩ := hts.cons (by decide)
      cases Lexeme.kept_nil.1 hts
      have hraw : (terminal tag : Expr K N).spliced.inSequence.map raw = [.terminal i.text] := by
        rw [htext]
        rfl
      rw [hraw]
      exact .one (.atom (.terminal ho hi hc))
    | nonTerminal name =>
      obtain ⟨i, ts, rfl, hi, htext, hts⟩ := Lexeme.Kept.identifier hts
      cases Lexeme.kept_nil.1 hts
      have hraw : (nonTerminal name : Expr K N).spliced.inSequence.map raw =
          [.nonTerminal i.text] := by
        rw [htext]
        rfl
      rw [hraw]
      exact .one (.atom (.nonTerminal hi))
    | emptyString =>
      obtain ⟨o, ts, rfl, ho, hts⟩ := Lexeme.Kept.cons hts (by decide)
      obtain ⟨c, ts, rfl, hc, hts⟩ := hts.cons (by decide)
      cases Lexeme.kept_nil.1 hts
      exact .one (.atom (.empty ho hc))
    | sequence items =>
      have hne : items ≠ [] := Full.inSequence_ne_nil h
      rw [spliced_sequence]
      change Writing.Unaries ts (((items.map spliced).flatMap inSequence).map raw)
      rw [List.flatMap_map, List.map_flatMap]
      exact hts.spaced Writing.Unaries.append hne (fun o ho ts hts => ih o ho (hops o ho) hts) rfl
    | orderedChoice items =>
      have hlength : 2 ≤ items.length := of_decide_eq_true henough
      have hne : items ≠ [] := List.ne_nil_of_length_pos (by omega)
      have hraw : (orderedChoice items).spliced.raw = choiceOf (items.map (raw ∘ spliced)) := by
        match items, hlength with
        | x :: y :: rest, _ =>
          rw [spliced_of_ne_sequence (fun items h => by cases h), raw_eq, operator_toExpr,
            Operator.map_map]
          rfl
      refine .one (.atom ?_)
      rw [hraw]
      exact Writing.Atom.inRound (fun ts hts => Writing.Alternatives.barred hne hone hts) hts
    | optional item =>
      obtain ⟨ts, s, rfl, hts, hs⟩ := Lexeme.Kept.concat hts (by decide)
      exact .one (.optional (.inRound (hwithin item List.mem_cons_self) hts) hs)
    | zeroOrMore item =>
      obtain ⟨ts, s, rfl, hts, hs⟩ := Lexeme.Kept.concat hts (by decide)
      exact .one (.zeroOrMore (.inRound (hwithin item List.mem_cons_self) hts) hs)
    | oneOrMore item =>
      obtain ⟨ts, s, rfl, hts, hs⟩ := Lexeme.Kept.concat hts (by decide)
      exact .one (.oneOrMore (.inRound (hwithin item List.mem_cons_self) hts) hs)
    | andPredicate item =>
      obtain ⟨a, ts, rfl, ha, hts⟩ := Lexeme.Kept.cons hts (by decide)
      obtain ⟨o, within, c, rfl, ho, hts, hc⟩ := hts.inRound
      exact .one (.atom (.andAhead ha ho (hwithin item List.mem_cons_self within hts) hc))
    | notPredicate item =>
      obtain ⟨a, ts, rfl, ha, hts⟩ := Lexeme.Kept.cons hts (by decide)
      obtain ⟨o, within, c, rfl, ho, hts, hc⟩ := hts.inRound
      exact .one (.atom (.notAhead ha ho (hwithin item List.mem_cons_self within hts) hc))

/-- The lexemes of an expression are a block, if its tags and names print as identifiers. -/
theorem block_lexemes {e : Expr K N} (h : e.Full)
    (hover : e.Over (fun tag => isIdentifier (toString tag))
      fun name => isIdentifier (toString name)) : Block e.lexemes := by
  induction e using operandInduction with
  | step e ih =>
    obtain ⟨henough, hfull⟩ := full_iff.1 h
    obtain ⟨hop, hovers⟩ := over_iff.1 hover
    have hblocks : ∀ o ∈ e.operator.operands, Block o.lexemes := fun o ho =>
      ih o ho (hfull o ho) (hovers o ho)
    rw [lexemes_eq]
    cases e with
    | terminal tag => exact ((Block.identifier hop).concat rfl).cons rfl
    | nonTerminal name => exact .identifier hop
    | emptyString => exact (Block.of rfl).cons rfl
    | sequence items =>
      have hne : items.map lexemes ≠ [] := by
        rw [Ne, List.map_eq_nil_iff]
        exact Full.inSequence_ne_nil h
      exact .intercalate separator_space hne (List.forall_mem_map.2 hblocks)
    | orderedChoice items =>
      have hlength : 2 ≤ items.length := of_decide_eq_true henough
      have hne : items.map lexemes ≠ [] := List.ne_nil_of_length_pos (by simp; omega)
      exact (Block.intercalate separator_bar hne (List.forall_mem_map.2 hblocks)).inRound
    | optional item | zeroOrMore item | oneOrMore item =>
      exact (hblocks item List.mem_cons_self).inRound.concat rfl
    | andPredicate item | notPredicate item =>
      exact (hblocks item List.mem_cons_self).inRound.cons rfl

end Expr

/-! ## Rules -/

namespace GrammarText

/-- The text of a rule. -/
def ruleText (rule : N × Expr K N) : String :=
  toString rule.1 ++ " => " ++ rule.2.text ++ ";"

/-- The text of some rules, one on a line. -/
def rulesText (rules : List (N × Expr K N)) : String := "\n".intercalate (rules.map ruleText)

/-- A rule in lexemes. -/
def ruleLexemes (rule : N × Expr K N) : List Lexeme :=
  ⟨.identifier, toString rule.1⟩ :: .space :: .of .arrow :: .space ::
    (rule.2.lexemes ++ [.of .semicolon])

theorem join_ruleLexemes (rule : N × Expr K N) :
    Lexeme.join (ruleLexemes rule) = ruleText rule := by
  have harrow : ∀ text, " => " ++ text = " " ++ ("=>" ++ (" " ++ text)) := by
    intro text
    rw [← String.append_assoc, ← String.append_assoc]
    rfl
  simp [ruleLexemes, ruleText, Lexeme.of, Symbol.fixed?, Lexeme.space, Expr.join_lexemes,
    String.append_assoc, harrow]

/-- The rule as it is written, its body spliced. -/
def rawRule (rule : N × Expr K N) : RawRule := ⟨toString rule.1, rule.2.spliced.raw⟩

variable {rule : N × Expr K N} {rules : List (N × Expr K N)}

/-- The lexemes of a rule are a writing of the spliced one. -/
theorem rule_ruleLexemes (h : rule.2.Full) {ts : List (Token Symbol)}
    (hts : Lexeme.Kept (ruleLexemes rule) ts) : Writing.Rule ts (rawRule rule) := by
  obtain ⟨head, ts, rfl, hhead, htext, hts⟩ := Lexeme.Kept.identifier hts
  rw [Lexeme.kept_cons_blank rfl] at hts
  obtain ⟨arrow, ts, rfl, harrow, hts⟩ := hts.cons (by decide)
  rw [Lexeme.kept_cons_blank rfl] at hts
  obtain ⟨body, s, rfl, hbody, hs⟩ := hts.concat (by decide)
  have halternatives := Writing.Alternatives.one (Expr.unaries_lexemes h hbody)
  rw [h.spliced.sequenceOf_raw] at halternatives
  rw [rawRule, ← htext]
  exact .ended hhead harrow halternatives hs

/-- A rule whose head, tags and names print as identifiers. -/
structure Printable (rule : N × Expr K N) : Prop where
  head : isIdentifier (toString rule.1)
  full : rule.2.Full
  body : rule.2.Over (fun tag => isIdentifier (toString tag))
    fun name => isIdentifier (toString name)

/-- The lexemes of a rule are a block. -/
theorem Printable.block (h : Printable rule) : Block (ruleLexemes rule) := by
  have hbody : Block (rule.2.lexemes ++ [.of .semicolon]) :=
    (Expr.block_lexemes h.full h.body).concat rfl
  have harrow := (Block.of (s := .arrow) rfl).separated separator_space hbody
  exact (Block.identifier h.head).separated separator_space harrow

/-- **The text of rules is read as the rules, spliced**, if heads, tags and names print as
identifiers. -/
theorem read_rulesText (hne : rules ≠ []) (h : ∀ rule ∈ rules, Printable rule) :
    read (rulesText rules) = .ok (rules.map rawRule) := by
  obtain ⟨ls, hls⟩ : ∃ ls, ls = [Lexeme.lineBreak].intercalate (rules.map ruleLexemes) := ⟨_, rfl⟩
  have hblock : Block ls := hls ▸ .intercalate separator_lineBreak (by simpa using hne)
    (List.forall_mem_map.2 fun rule hrule => (h rule hrule).block)
  have htext : Lexeme.join ls = rulesText rules := by
    rw [hls, Lexeme.join_intercalate, List.map_map, rulesText]
    exact congrArg _ (List.map_congr_left fun rule _ => join_ruleLexemes rule)
  obtain ⟨l, hl⟩ := Option.isSome_iff_exists.1 (List.isSome_head?.2 hblock.nonempty)
  obtain ⟨tokens, hread, htokens⟩ :=
    hblock.lexemes.read (List.mem_of_mem_head? hl) (hblock.first l hl)
  have hwriting : Writing.Text tokens.toList (rules.flatMap ([rawRule ·])) := by
    have hkept : Lexeme.Kept ([Lexeme.lineBreak].intercalate (rules.map ruleLexemes))
        tokens.toList := hls ▸ htokens
    exact hkept.spaced Writing.Text.append hne
      (fun rule hrule ts hts => .one (rule_ruleLexemes (h rule hrule).full hts)) rfl
  rw [← htext, hread, hwriting.readTokens, ← List.map_eq_flatMap]

end GrammarText

end Packrat
