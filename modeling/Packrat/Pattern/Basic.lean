import Packrat.Pattern.Look

/-!
# Patterns

A pattern describes texts by characters, assertions about a position, sequence, alternatives and
repetition. Alternatives are tried in order and repetition prefers more or fewer turns, so a pattern
says not only what matches but which match is preferred.

`oneIn`, `sequence`, `oneOf` and `repeated` put patterns together in a normal form: nested sequences
and alternatives are flattened, characters that follow each other make up one literal, what matches
only the empty text is not repeated, alternatives of single characters become one set, and what all
alternatives begin with is read once.
-/

namespace Packrat

/-- A description of texts, with a preference among its matches. -/
inductive Pattern where
  /-- The empty text. -/
  | empty
  /-- The given characters one after the other. -/
  | literal (chars : List Char)
  /-- One character of a set. -/
  | char (set : CharSet)
  /-- The empty text, where the assertion holds. -/
  | look (assertion : Look)
  /-- The one pattern, then the other. -/
  | seq (a b : Pattern)
  /-- Either pattern, the first preferred. -/
  | alt (a b : Pattern)
  /-- The pattern at least `low` times, and at most `high` times if there is such a bound. A greedy
  one prefers another turn to none. -/
  | rep (greedy : Bool) (low : Nat) (high : Option Nat) (a : Pattern)
  /-- The pattern as the group with a number. -/
  | group (number : Nat) (a : Pattern)
deriving DecidableEq

namespace Pattern

/-- Whether a pattern is known to match the empty text only. -/
def isVoid : Pattern → Bool
  | .empty => true
  | .literal chars => chars.isEmpty
  | .char _ => false
  | .look _ => true
  | .seq a b => a.isVoid && b.isVoid
  | .alt a b => a.isVoid && b.isVoid
  | .rep _ _ high a => high.isSome && a.isVoid
  | .group _ a => a.isVoid

/-- How many characters a match takes up at least; unknown if some part reads a character of the
empty set. -/
def minLength : Pattern → Option Nat
  | .empty => some 0
  | .literal chars => some chars.length
  | .char set => if set.isEmpty then none else some 1
  | .look _ => some 0
  | .seq a b => do return (← a.minLength) + (← b.minLength)
  | .alt a b => do return min (← a.minLength) (← b.minLength)
  | .rep _ low _ a => a.minLength.map (low * ·)
  | .group _ a => a.minLength

/-- Whether every match is known to read a character. -/
def reads (p : Pattern) : Bool := p.minLength.any (0 < ·)

/-- The number of nodes of a pattern. -/
def nodes : Pattern → Nat
  | .empty => 1
  | .literal _ => 1
  | .char _ => 1
  | .look _ => 1
  | .seq a b => a.nodes + b.nodes + 1
  | .alt a b => a.nodes + b.nodes + 1
  | .rep _ _ _ a => a.nodes + 1
  | .group _ a => a.nodes + 1

/-- One character of a set; a set with just one character is a literal. -/
def oneIn (set : CharSet) : Pattern :=
  match set.single? with
  | some c => .literal [c]
  | none => .char set

/-! ## Sequence -/

/-- The parts of a sequence. -/
def parts : Pattern → List Pattern
  | .empty => []
  | .seq a b => a.parts ++ b.parts
  | p => [p]

/-- The sequence with the given parts. -/
def ofParts : List Pattern → Pattern
  | [] => .empty
  | [p] => p
  | p :: rest => .seq p (ofParts rest)

/-- The parts of a sequence, with literals that follow each other put together. -/
def joinLiterals : List Pattern → List Pattern
  | [] => []
  | .literal chars :: rest =>
    match joinLiterals rest with
    | .literal more :: rest => .literal (chars ++ more) :: rest
    | rest => .literal chars :: rest
  | p :: rest => p :: joinLiterals rest

/-- The patterns one after the other. -/
def sequence (ps : List Pattern) : Pattern := ofParts (joinLiterals (ps.flatMap parts))

/-! ## Repetition -/

/-- The pattern at least `low` times, and at most `high` times if there is such a bound. What
matches the empty text only is taken once at most. -/
def repeated (greedy : Bool) (low : Nat) (high : Option Nat) (p : Pattern) : Pattern :=
  let (low, high) := if p.isVoid then (min low 1, some (min (high.getD 1) 1)) else (low, high)
  match low, high with
  | 0, some 0 => .empty
  | 1, some 1 => p
  | low, high => .rep greedy low high p

/-! ## Alternatives -/

/-- The alternatives that a pattern offers. -/
def alternatives : Pattern → List Pattern
  | .alt a b => a.alternatives ++ b.alternatives
  | p => [p]

/-- The pattern with the given alternatives; without any it never matches. -/
def ofAlternatives : List Pattern → Pattern
  | [] => .char .none
  | [p] => p
  | p :: rest => .alt p (ofAlternatives rest)

/-- The characters that patterns stand for, if each of them is a literal of one character. -/
def characters? : List Pattern → Option CharSet
  | [] => some .none
  | .literal [c] :: rest => (characters? rest).map (CharSet.single c).union
  | _ :: _ => none

/-- The characters that patterns stand for, if each of them is a set. -/
def sets? : List Pattern → Option CharSet
  | [] => some .none
  | .char set :: rest => (sets? rest).map set.union
  | _ :: _ => none

/-- The parts with which two sequences begin alike. -/
def commonParts : List Pattern → List Pattern → List Pattern
  | a :: as, b :: bs => if a = b then a :: commonParts as bs else []
  | _, _ => []

/-- The parts with which all sequences begin alike; a pattern that is no sequence has none. -/
def sharedParts : List (List Pattern) → List Pattern
  | [] => []
  | [ps] => if ps.length < 2 then [] else ps
  | ps :: rest => if ps.length < 2 then [] else commonParts ps (sharedParts rest)

/-- Any of the patterns, earlier ones preferred. What all of them begin with stands before the
alternatives, and is not tried anew for each; what is left of them is put together in the same way,
which takes no more steps than there are nodes. -/
def oneOfWithin : (fuel : Nat) → List Pattern → Pattern
  | 0, ps => ofAlternatives ps
  | fuel + 1, ps =>
    match ps.flatMap alternatives with
    | [p] => p
    | ps =>
      match (characters? ps).or (sets? ps) with
      | some set => oneIn set
      | none =>
        match sharedParts (ps.map parts) with
        | [] => ofAlternatives ps
        | shared =>
          let rests := ps.map fun p => ofParts (p.parts.drop shared.length)
          sequence (shared ++ [oneOfWithin fuel rests])

/-- Any of the patterns, earlier ones preferred. -/
def oneOf (ps : List Pattern) : Pattern :=
  oneOfWithin (ps.foldl (fun n p => n + p.nodes) 1) ps

end Pattern

end Packrat
