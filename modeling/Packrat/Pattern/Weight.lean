import Packrat.Pattern.Basic
import Packrat.Pattern.Room

/-!
# How heavy a pattern is

`Pattern.layOut` says how much room the automaton of a pattern takes up. A pattern is light enough
if that room stays within the limit in both directions of reading.
-/

namespace Packrat

namespace Pattern

/-- Whether every match is known to begin at the beginning of a text. -/
def atTextStart : Pattern → Bool
  | .empty => false
  | .literal _ => false
  | .char _ => false
  | .look assertion => assertion = .textStart
  | .seq a b => a.atTextStart || a.isVoid && b.atTextStart
  | .alt a b => a.atTextStart && b.atTextStart
  | .rep _ low _ a => 0 < low && a.atTextStart
  | .group _ a => a.atTextStart

/-- Whether every match is known to end at the end of a text. -/
def atTextEnd : Pattern → Bool
  | .empty => false
  | .literal _ => false
  | .char _ => false
  | .look assertion => assertion = .textEnd
  | .seq a b => b.atTextEnd || b.isVoid && a.atTextEnd
  | .alt a b => a.atTextEnd && b.atTextEnd
  | .rep _ low _ a => 0 < low && a.atTextEnd
  | .group _ a => a.atTextEnd

/-- The literals among which a pattern chooses, if it chooses among literals only. -/
def literals? : Pattern → Option (List (List Char))
  | .literal chars => some [chars]
  | .alt a b => do return (← a.literals?) ++ (← b.literals?)
  | _ => none

/-- The room once the alternative with a number has been laid out. The choice itself and its end
come after the second alternative; zero stands for a pattern that is no alternative. -/
def joinAlternative (number : Nat) (r : Room) : Room :=
  match number with
  | 0 => r
  | 1 => r
  | 2 => (r.withStates 2).withBranches 2
  | _ => r.withBranches 1

/-- The room after a pattern has been laid out as the alternative with a number. -/
def layOut (d : Direction) : Pattern → (number : Nat) → Room → Room
  | .empty, k, r => joinAlternative k (r.withStates 1)
  | .literal chars, k, r =>
    joinAlternative k (r.withStates (chars.flatMap fun c => Text.bytesOf c.toNat).length)
  | .char set, k, r => joinAlternative k (set.layOut d r)
  | .look _, k, r => joinAlternative k (r.withStates 1)
  | .seq a b, k, r =>
    joinAlternative k <|
      match d with
      | .forward => b.layOut d 0 (a.layOut d 0 r)
      | .backward => a.layOut d 0 (b.layOut d 0 r)
  | .alt a b, 0, r =>
    match (Pattern.alt a b).literals? with
    | some literals => r.add (literalsRoom d literals)
    | none => b.layOut d 2 (a.layOut d 1 r)
  | .alt a b, k + 1, r => b.layOut d (k + 2) (a.layOut d (k + 1) r)
  | .rep _ 0 none a, k, r =>
    joinAlternative k <|
      if a.reads then (a.layOut d 0 (r.withStates 1)).withBranches 2
      else ((a.layOut d 0 r).withStates 3).withBranches 4
  | .rep _ (n + 1) none a, k, r =>
    joinAlternative k <|
      ((Room.turns (a.layOut d 0) (n + 1) r).withStates 1).withBranches 2
  | .rep _ 0 (some 1) a, k, r =>
    joinAlternative k <| ((a.layOut d 0 (r.withStates 1)).withStates 1).withBranches 2
  | .rep _ n (some m) a, k, r =>
    joinAlternative k <|
      if n = m then Room.turns (a.layOut d 0) n r
      else
        let least := if n = 0 then r.withStates 1 else Room.turns (a.layOut d 0) n r
        Room.turns (fun r => (a.layOut d 0 (r.withStates 1)).withBranches 2) (m - n)
          (least.withStates 1)
  | .group _ a, k, r =>
    joinAlternative k <|
      match d with
      | .forward => (a.layOut d 0 (r.withStates 1)).withStates 1
      | .backward => a.layOut d 0 r

/-- The room of what stands before a pattern: the search for a place to begin, or nothing if there
is only one such place. -/
def searchRoom (fixed : Bool) : Room :=
  if fixed then Room.none.withStates 1
  else ((Room.none.withStates 3).withLinks 1).withBranches 2

/-- The room of the automaton of a pattern. The whole match is a group. -/
def room (p : Pattern) : Direction → Room
  | .forward =>
    (layOut .forward (.group 0 p) 0 (searchRoom p.atTextStart)).withStates 1
  | .backward =>
    (layOut .backward p 0 (searchRoom p.atTextEnd)).withStates 1

/-- Whether a pattern is light enough. -/
def isLight (p : Pattern) : Bool := (p.room .backward).fits && (p.room .forward).fits

end Pattern

end Packrat
