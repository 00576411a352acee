import Std.Data.TreeMap.Lemmas
import Packrat.Peg.Arena

/-!
# The state of a parse

What a parse writes down as it goes: the outcomes of rules by position and mode, the calls in
progress, and three counters. A context can be used for one parse after another; each begins by
clearing it.
-/

namespace Packrat

variable {N T : Type}

/-- The result of an operator at a position. Not to match is an ordinary outcome. -/
inductive Outcome (T : Type) where
  /-- The operator matched the tokens at `span`; what follows starts at `next`. -/
  | matched (next : Nat) (span : Span) (value : T)
  /-- The operator did not match; `position` is where it, or the operand that failed, was tried. -/
  | failed (position : Nat)

namespace Outcome

/-- The match of `length` tokens from `start` on. -/
def matchedAt (start length : Nat) (value : T) : Outcome T :=
  .matched (start + length) ⟨start, length⟩ value

/-- Whether the operator matched. -/
def isMatch : Outcome T → Bool
  | .matched _ _ _ => true
  | .failed _ => false

/-- Where what follows starts, or where it failed. -/
def next : Outcome T → Nat
  | .matched next _ _ => next
  | .failed position => position

/-- The tokens matched. -/
def span? : Outcome T → Option Span
  | .matched _ span _ => some span
  | .failed _ => none

/-- The value of the match. -/
def value? : Outcome T → Option T
  | .matched _ _ value => some value
  | .failed _ => none

/-- The outcome of a parse of `n` tokens from the outcome of the start symbol: a match that leaves
tokens over fails where they begin. -/
def complete (n : Nat) : Outcome T → Outcome T
  | .matched next span value =>
    if next = n then .matched next span value else .failed next
  | .failed position => .failed position

end Outcome

/-- Whether a match takes part in the result, or is only looked for by a predicate. -/
inductive Mode where
  | consuming
  | probing
deriving DecidableEq

/-! ## The memo table -/

/-- The outcome of the body of a rule in a mode. -/
structure MemoEntry (N T : Type) where
  name : N
  mode : Mode
  outcome : Outcome T

/-- The outcomes known so far, in a column for each position. -/
structure Memo (N T : Type) where
  columns : Std.TreeMap Nat (List (MemoEntry N T)) := ∅

namespace Memo

/-- The outcomes known at a position. -/
def column (memo : Memo N T) (position : Nat) : List (MemoEntry N T) :=
  memo.columns.getD position []

/-- The number of outcomes known. -/
def size (memo : Memo N T) : Nat :=
  memo.columns.foldl (fun count _ column => count + column.length) 0

variable [DecidableEq N]

/-- The outcome known for a rule at a position in a mode. -/
def find? (memo : Memo N T) (name : N) (position : Nat) (mode : Mode) : Option (Outcome T) :=
  ((memo.column position).find? fun e => e.mode = mode ∧ e.name = name).map (·.outcome)

/-- Writes an outcome down, in place of an earlier one. -/
def insert (memo : Memo N T) (name : N) (position : Nat) (mode : Mode) (outcome : Outcome T) :
    Memo N T :=
  let others := (memo.column position).filter fun e => ¬ (e.mode = mode ∧ e.name = name)
  ⟨memo.columns.insert position (⟨name, mode, outcome⟩ :: others)⟩

/-- Writing an outcome down changes what is known of its rule, position and mode, and nothing
else. -/
theorem find?_insert (memo : Memo N T) (name name' : N) (position position' : Nat)
    (mode mode' : Mode) (outcome : Outcome T) :
    (memo.insert name position mode outcome).find? name' position' mode' =
      if name' = name ∧ position' = position ∧ mode' = mode then some outcome
      else memo.find? name' position' mode' := by
  by_cases hp : position' = position
  · subst hp
    by_cases hk : mode = mode' ∧ name = name'
    · obtain ⟨rfl, rfl⟩ := hk
      simp [insert, find?, column]
    · have hk' : ¬ (name' = name ∧ mode' = mode) := fun ⟨h₁, h₂⟩ => hk ⟨h₂.symm, h₁.symm⟩
      have hfind : ∀ l : List (MemoEntry N T),
          (l.filter fun e => ¬ (e.mode = mode ∧ e.name = name)).find?
              (fun e => e.mode = mode' ∧ e.name = name') =
            l.find? fun e => e.mode = mode' ∧ e.name = name' := by
        intro l
        rw [List.find?_filter]
        congr 1
        funext e
        by_cases he : e.mode = mode' ∧ e.name = name'
        · have hne : ¬ (mode' = mode ∧ name' = name) := fun ⟨h₁, h₂⟩ => hk ⟨h₁.symm, h₂.symm⟩
          simp [he, hne]
        · simp [he]
      simp only [insert, find?, column, Std.TreeMap.getD_insert_self, true_and, hk', if_false]
      rw [List.find?_cons_of_neg (by simpa using hk), hfind]
  · simp [insert, find?, column, Std.TreeMap.getD_insert, hp, Ne.symm hp]

end Memo

/-! ## Contexts -/

/-- How much work a parse did. -/
structure Stats where
  /-- Calls of rules, answered in whatever way. -/
  ruleCalls : Nat := 0
  /-- Calls answered from the memo table. -/
  memoHits : Nat := 0
  /-- Calls refused because the same non-terminal was in progress at the same position. -/
  cuts : Nat := 0
deriving DecidableEq

/-- What a parse writes down. `active` has the non-terminals in progress, in a column for each
position, the innermost first. -/
structure Context (N T : Type) where
  memo : Memo N T := {}
  active : Std.TreeMap Nat (List NodeId) := ∅
  stats : Stats := {}

namespace Context

/-- The context cleared for another parse. -/
def reset (_ : Context N T) : Context N T := {}

/-- Counts a call. -/
def countCall (c : Context N T) : Context N T :=
  { c with stats := { c.stats with ruleCalls := c.stats.ruleCalls + 1 } }

/-- Counts a call answered from the memo table. -/
def countHit (c : Context N T) : Context N T :=
  { c with stats := { c.stats with memoHits := c.stats.memoHits + 1 } }

/-- Counts a call that is refused. -/
def countCut (c : Context N T) : Context N T :=
  { c with stats := { c.stats with cuts := c.stats.cuts + 1 } }

/-- The non-terminals in progress at a position. -/
def activeAt (c : Context N T) (position : Nat) : List NodeId := c.active.getD position []

/-- Marks a non-terminal as in progress. -/
def enter (c : Context N T) (id : NodeId) (position : Nat) : Context N T :=
  { c with active := c.active.insert position (id :: c.activeAt position) }

/-- Ends the progress of a non-terminal. -/
def leave (c : Context N T) (id : NodeId) (position : Nat) : Context N T :=
  { c with active := c.active.insert position ((c.activeAt position).erase id) }

/-- Entering puts the non-terminal in front at its position. -/
@[simp] theorem activeAt_enter (c : Context N T) (id : NodeId) (position other : Nat) :
    (c.enter id position).activeAt other =
      if other = position then id :: c.activeAt position else c.activeAt other := by
  by_cases h : other = position
  · simp [enter, activeAt, h]
  · simp [enter, activeAt, Std.TreeMap.getD_insert, h, Ne.symm h]

/-- Leaving takes the non-terminal away at its position. -/
@[simp] theorem activeAt_leave (c : Context N T) (id : NodeId) (position other : Nat) :
    (c.leave id position).activeAt other =
      if other = position then (c.activeAt position).erase id else c.activeAt other := by
  by_cases h : other = position
  · simp [leave, activeAt, h]
  · simp [leave, activeAt, Std.TreeMap.getD_insert, h, Ne.symm h]

/-- Writes down the outcome of the body of a rule. -/
def record [DecidableEq N] (c : Context N T) (name : N) (position : Nat) (mode : Mode)
    (outcome : Outcome T) : Context N T :=
  { c with memo := c.memo.insert name position mode outcome }

end Context

end Packrat
