import Packrat.GrammarText.Reading

/-!
# Writings of rules

What grammar text says, as a context-free grammar of lexemes:

```text
text         = rule+
rule         = Identifier Arrow alternatives Semicolon?
alternatives = unaries (Bar unaries)*
unaries      = unary+
unary        = atom (Question | Star | Plus)?
atom         = OpenSquare Identifier CloseSquare | OpenSquare CloseSquare | Identifier
             | OpenRound alternatives CloseRound
             | (Ampersand | Bang) OpenRound alternatives CloseRound
```

A single alternative and a single unary stand for themselves, and parentheses for what is in them.
There is a relation for each symbol of the grammar; `Writing.Text` is the one for whole texts.
-/

namespace Packrat.GrammarText

/-- The expression that several unaries stand for. -/
def sequenceOf : List RawExpr → RawExpr
  | [e] => e
  | es => .sequence es

/-- The expression that several alternatives stand for. -/
def choiceOf : List RawExpr → RawExpr
  | [e] => e
  | es => .orderedChoice es

namespace Writing

mutual

/-- A writing of an atom. -/
inductive Atom : List (Token Symbol) → RawExpr → Prop
  | terminal {o i c : Token Symbol} : o.tag = .openSquare → i.tag = .identifier →
      c.tag = .closeSquare → Atom [o, i, c] (.terminal i.text)
  | empty {o c : Token Symbol} : o.tag = .openSquare → c.tag = .closeSquare →
      Atom [o, c] .emptyString
  | nonTerminal {i : Token Symbol} : i.tag = .identifier → Atom [i] (.nonTerminal i.text)
  | brackets {o c : Token Symbol} {ts : List (Token Symbol)} {es : List RawExpr} :
      o.tag = .openRound → Alternatives ts es → c.tag = .closeRound →
      Atom (o :: (ts ++ [c])) (choiceOf es)
  | andAhead {a o c : Token Symbol} {ts : List (Token Symbol)} {es : List RawExpr} :
      a.tag = .ampersand → o.tag = .openRound → Alternatives ts es → c.tag = .closeRound →
      Atom (a :: o :: (ts ++ [c])) (.andPredicate (choiceOf es))
  | notAhead {a o c : Token Symbol} {ts : List (Token Symbol)} {es : List RawExpr} :
      a.tag = .bang → o.tag = .openRound → Alternatives ts es → c.tag = .closeRound →
      Atom (a :: o :: (ts ++ [c])) (.notPredicate (choiceOf es))

/-- A writing of an atom with or without a suffix. -/
inductive Unary : List (Token Symbol) → RawExpr → Prop
  | atom {ts : List (Token Symbol)} {e : RawExpr} : Atom ts e → Unary ts e
  | optional {ts : List (Token Symbol)} {s : Token Symbol} {e : RawExpr} : Atom ts e →
      s.tag = .question → Unary (ts ++ [s]) (.optional e)
  | zeroOrMore {ts : List (Token Symbol)} {s : Token Symbol} {e : RawExpr} : Atom ts e →
      s.tag = .star → Unary (ts ++ [s]) (.zeroOrMore e)
  | oneOrMore {ts : List (Token Symbol)} {s : Token Symbol} {e : RawExpr} : Atom ts e →
      s.tag = .plus → Unary (ts ++ [s]) (.oneOrMore e)

/-- A writing of one or more unaries. -/
inductive Unaries : List (Token Symbol) → List RawExpr → Prop
  | one {ts : List (Token Symbol)} {e : RawExpr} : Unary ts e → Unaries ts [e]
  | more {ts ts' : List (Token Symbol)} {e : RawExpr} {es : List RawExpr} : Unary ts e →
      Unaries ts' es → Unaries (ts ++ ts') (e :: es)

/-- A writing of one or more alternatives. -/
inductive Alternatives : List (Token Symbol) → List RawExpr → Prop
  | one {ts : List (Token Symbol)} {es : List RawExpr} : Unaries ts es →
      Alternatives ts [sequenceOf es]
  | more {ts ts' : List (Token Symbol)} {bar : Token Symbol} {es es' : List RawExpr} :
      Unaries ts es → bar.tag = .bar → Alternatives ts' es' →
      Alternatives (ts ++ bar :: ts') (sequenceOf es :: es')

end

/-- A writing of a rule. -/
inductive Rule : List (Token Symbol) → RawRule → Prop
  | unended {head arrow : Token Symbol} {ts : List (Token Symbol)} {es : List RawExpr} :
      head.tag = .identifier → arrow.tag = .arrow → Alternatives ts es →
      Rule (head :: arrow :: ts) ⟨head.text, choiceOf es⟩
  | ended {head arrow s : Token Symbol} {ts : List (Token Symbol)} {es : List RawExpr} :
      head.tag = .identifier → arrow.tag = .arrow → Alternatives ts es → s.tag = .semicolon →
      Rule (head :: arrow :: (ts ++ [s])) ⟨head.text, choiceOf es⟩

/-- A writing of one or more rules. -/
inductive Text : List (Token Symbol) → List RawRule → Prop
  | one {ts : List (Token Symbol)} {r : RawRule} : Rule ts r → Text ts [r]
  | more {ts ts' : List (Token Symbol)} {r : RawRule} {rs : List RawRule} : Rule ts r →
      Text ts' rs → Text (ts ++ ts') (r :: rs)

end Writing

end Packrat.GrammarText
