import Packrat.Pattern.Basic

/-!
# Programs

A pattern is run as a program of small instructions: read a character, check an assertion, fork
into two continuations of which the first is preferred, jump, accept. `Pattern.code` lays the
instructions of a pattern out one after the other, so that running off their end is matching the
pattern.

A repetition without an upper bound is a loop. If its body always reads a character, the fork before
the body is where each turn ends; otherwise the loop has a fork of its own after the body, because
turns that read nothing would come back to the first one.
-/

namespace Packrat

/-- An instruction of a program. Reading and checking go on at the next instruction. -/
inductive Instr where
  /-- Reads one character of the set. -/
  | char (set : CharSet)
  /-- Goes on only if the assertion holds here. -/
  | look (assertion : Look)
  /-- Goes on at both places; what follows from `first` is preferred. -/
  | fork (first second : Nat)
  /-- Goes on elsewhere. -/
  | jump (target : Nat)
  /-- The text read so far is a match. -/
  | accept

/-- A program: its instructions, addressed by their index. -/
abbrev Program := Array Instr

/-- The fork that prefers `go` if it is greedy, and `leave` if it is not. -/
def Instr.choose (greedy : Bool) (go leave : Nat) : Instr :=
  if greedy then .fork go leave else .fork leave go

/-- The instructions of `n` turns of a body, one after the other. -/
def Instr.turns (body : Nat → List Instr) (size : Nat) : (n base : Nat) → List Instr
  | 0, _ => []
  | n + 1, base => body base ++ turns body size n (base + size)

/-- The instructions of at most `n` turns of a body; after each of them, or before the first,
control may go on at `leave`. -/
def Instr.optionalTurns (greedy : Bool) (leave : Nat) (body : Nat → List Instr) (size : Nat) :
    (n base : Nat) → List Instr
  | 0, _ => []
  | n + 1, base =>
    .choose greedy (base + 1) leave ::
      body (base + 1) ++ optionalTurns greedy leave body size n (base + size + 1)

namespace Pattern

/-- How many instructions a pattern takes. -/
def size : Pattern → Nat
  | .empty => 0
  | .literal chars => chars.length
  | .char _ => 1
  | .look _ => 1
  | .seq a b => a.size + b.size
  | .alt a b => a.size + b.size + 2
  | .rep _ 0 none a => a.size + 2
  | .rep _ (n + 1) none a => n * a.size + a.size + 1
  | .rep _ n (some m) a => n * a.size + (m - n) * (a.size + 1)
  | .group _ a => a.size

/-- The instructions of a pattern, laid out from the address `base` on. -/
def code : Pattern → (base : Nat) → List Instr
  | .empty, _ => []
  | .literal chars, _ => chars.map fun c => .char (.single c)
  | .char set, _ => [.char set]
  | .look assertion, _ => [.look assertion]
  | .seq a b, base => a.code base ++ b.code (base + a.size)
  | .alt a b, base =>
    let other := base + a.size + 2
    .fork (base + 1) other :: a.code (base + 1) ++ .jump (other + b.size) :: b.code other
  | .rep greedy 0 none a, base =>
    let enter := Instr.choose greedy (base + 1) (base + a.size + 2)
    enter :: a.code (base + 1) ++ [if a.reads then .jump base else enter]
  | .rep greedy (n + 1) none a, base =>
    let last := base + n * a.size
    Instr.turns a.code a.size n base ++ a.code last ++ [.choose greedy last (last + a.size + 1)]
  | .rep greedy n (some m) a, base =>
    let more := base + n * a.size
    Instr.turns a.code a.size n base ++
      Instr.optionalTurns greedy (more + (m - n) * (a.size + 1)) a.code a.size (m - n) more
  | .group _ a, base => a.code base

/-- The program of a pattern: its instructions, then acceptance. -/
def program (p : Pattern) : Program := (p.code 0 ++ [Instr.accept]).toArray

end Pattern

/-! ## Layout -/

theorem Instr.length_turns {body : Nat → List Instr} {size : Nat}
    (h : ∀ base, (body base).length = size) (n base : Nat) :
    (turns body size n base).length = n * size := by
  induction n generalizing base with
  | zero => simp [turns]
  | succ n ih => simp [turns, h, ih, Nat.succ_mul, Nat.add_comm]

theorem Instr.length_optionalTurns {body : Nat → List Instr} {size : Nat} (greedy : Bool)
    (leave : Nat) (h : ∀ base, (body base).length = size) (n base : Nat) :
    (optionalTurns greedy leave body size n base).length = n * (size + 1) := by
  induction n generalizing base with
  | zero => simp [optionalTurns]
  | succ n ih => simp [optionalTurns, h, ih, Nat.succ_mul]; omega

/-- A pattern takes as many instructions as its size says. -/
@[simp] theorem Pattern.length_code (p : Pattern) (base : Nat) : (p.code base).length = p.size := by
  induction p generalizing base with
  | empty | char | look => rfl
  | literal chars => simp [code, size]
  | seq a b iha ihb => simp [code, size, iha, ihb]
  | alt a b iha ihb => simp [code, size, iha, ihb]; omega
  | rep greedy low high a ih =>
    cases high with
    | some m => simp [code, size, Instr.length_turns ih, Instr.length_optionalTurns _ _ ih]
    | none =>
      cases low with
      | zero => simp [code, size, ih]
      | succ n => simp [code, size, ih, Instr.length_turns ih, Nat.add_assoc]
  | group number a ih => simp [code, size, ih]

end Packrat
