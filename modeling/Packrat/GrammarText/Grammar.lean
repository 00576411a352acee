import Packrat.GrammarText.Reading
import Packrat.Peg.Eval

/-!
# The grammar of grammar text

Grammar text is read with a grammar of parsing expressions like any other:

```text
Start       => Rule+
Rule        => [Identifier] [Arrow] Operator [Semicolon]?
Operator    => Choice | Sequence | Unary
Choice      => (Sequence | Unary) ([Bar] (Sequence | Unary))+
Sequence    => Unary Unary+
Unary       => Optional | ZeroOrMore | OneOrMore | Atom
Optional    => Atom [Question]
ZeroOrMore  => Atom [Star]
OneOrMore   => Atom [Plus]
Atom        => Terminal | Empty | NonTerminal | Brackets | AndAhead | NotAhead
Terminal    => [OpenSquare] [Identifier] [CloseSquare]
Empty       => [OpenSquare] [CloseSquare]
NonTerminal => [Identifier] !([Arrow])
Brackets    => [OpenRound] Operator [CloseRound]
AndAhead    => [Ampersand] [OpenRound] Operator [CloseRound]
NotAhead    => [Bang] [OpenRound] Operator [CloseRound]
```

No rule calls itself before it has passed a token, so no call is ever refused. An identifier before
an arrow is the head of the next rule, which is how a rule can end without a semicolon. The rules
share operators (`operators`).
-/

namespace Packrat.GrammarText

/-- The operators of the rules in the order in which they are made, each with the places of its
operands. What is used in several places is made once: the calls of a part, the alternatives of a
choice, the brackets and most other terminals. -/
def operators : List (Operator Symbol Part Nat) :=
  -- 0 and 1: the start.
  [.nonTerminal .rule, .oneOrMore 0,
   -- 2 to 7: a rule.
   .terminal .identifier, .terminal .arrow, .nonTerminal .operator, .terminal .semicolon,
   .optional 5, .sequence [2, 3, 4, 6],
   -- 8 to 18: an operator, a choice with an alternative at 12, a sequence.
   .nonTerminal .choice, .nonTerminal .sequence, .nonTerminal .unary, .orderedChoice [8, 9, 10],
   .orderedChoice [9, 10], .terminal .bar, .sequence [13, 12], .oneOrMore 14, .sequence [12, 15],
   .oneOrMore 10, .sequence [10, 17],
   -- 19 to 29: a unary and its suffixes.
   .nonTerminal .optional, .nonTerminal .zeroOrMore, .nonTerminal .oneOrMore, .nonTerminal .atom,
   .orderedChoice [19, 20, 21, 22],
   .terminal .question, .sequence [22, 24], .terminal .star, .sequence [22, 26],
   .terminal .plus, .sequence [22, 28],
   -- 30 to 36: an atom.
   .nonTerminal .terminal, .nonTerminal .empty, .nonTerminal .nonTerminal,
   .nonTerminal .brackets, .nonTerminal .andAhead, .nonTerminal .notAhead,
   .orderedChoice [30, 31, 32, 33, 34, 35],
   -- 37 to 43: square brackets and names.
   .terminal .openSquare, .terminal .identifier, .terminal .closeSquare, .sequence [37, 38, 39],
   .sequence [37, 39],
   .notPredicate 3, .sequence [38, 42],
   -- 44 to 50: parentheses and predicates.
   .terminal .openRound, .terminal .closeRound, .sequence [44, 4, 45],
   .terminal .ampersand, .sequence [47, 44, 4, 45], .terminal .bang, .sequence [49, 44, 4, 45]]

/-- The places of the bodies of the rules. -/
def bodies : List (Part × Nat) :=
  [(.start, 1), (.rule, 7), (.operator, 11), (.choice, 16), (.sequence, 18), (.unary, 23),
   (.optional, 25), (.zeroOrMore, 27), (.oneOrMore, 29), (.atom, 36), (.terminal, 40),
   (.empty, 41), (.nonTerminal, 43), (.brackets, 46), (.andAhead, 48), (.notAhead, 50)]

/-- The operators with their actions and the rules, built. -/
def built : Except (GrammarError Symbol Part) (Grammar Symbol Part Reading) :=
  match (Builder.new 0 registry).addAll (operators.map (Operator.map (NodeId.mk 0))) with
  | (.error e, _) => .error e
  | (.ok (), b) => b.build .start (bodies.map fun (part, place) => ⟨part, ⟨0, place⟩⟩)

/-- They make a grammar. -/
theorem isSome_built : built.toOption.isSome := by decide

/-- The grammar of grammar text. -/
def grammar : Grammar Symbol Part Reading := built.toOption.get isSome_built

/-- Why a text is not grammar text. -/
inductive TextError where
  /-- There is nothing but white space. -/
  | emptyGrammar
  /-- At `offset`, bytes begin that belong to no lexeme; `snippet` is the first run of them. -/
  | unrecognized (offset : Nat) (snippet : String)
  /-- The lexemes make no rules; `found` is the lexeme at `position`, if there is one. -/
  | malformed (position : Nat) (found : Option String)
deriving DecidableEq

/-- The rules that a list of lexemes makes. -/
def readTokens (tokens : Array (Token Symbol)) : Except TextError (List RawRule) :=
  let (outcome, _) := grammar.parseWith tokens {} ∅
  match outcome.value? with
  | some (.rules (rule :: rest)) => .ok (rule :: rest)
  | _ => .error (.malformed outcome.next ((tokens[outcome.next]?).map (·.text)))

/-- The rules that a text makes. -/
def read (text : String) : Except TextError (List RawRule) :=
  if Text.allBlank text then .error .emptyGrammar
  else
    let scan := tokenizer.tokenize text
    match scan.gaps with
    | gap :: _ => .error (.unrecognized gap.start (Token.cut text () gap).text)
    | [] => readTokens (scan.without .blank)

end Packrat.GrammarText
