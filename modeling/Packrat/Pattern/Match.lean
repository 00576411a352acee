import Packrat.Pattern.Program

/-!
# Matching at a position

A program is run on a text by following all its threads at once, in order of preference. A thread
that accepts ends the threads less preferred than itself; the last acceptance seen is the preferred
match. So the work is bounded by the length of the match times the size of the program, whatever
the pattern.
-/

namespace Packrat

/-- A position in a text: how many bytes lie before it, the characters before it, the nearest first,
and the characters that follow. -/
structure Cursor where
  offset : Nat
  passed : List Char
  rest : List Char

namespace Cursor

/-- The beginning of a text. -/
def start (text : String) : Cursor := ⟨0, [], text.toList⟩

/-- The whole text. -/
def text (c : Cursor) : List Char := c.passed.reverse ++ c.rest

/-- The characters next to the position. -/
def edge (c : Cursor) : Edge := ⟨c.passed.head?, c.rest.head?⟩

/-- The position one character further; the end of a text stays where it is. -/
def next : Cursor → Cursor
  | ⟨offset, passed, []⟩ => ⟨offset, passed, []⟩
  | ⟨offset, passed, c :: rest⟩ => ⟨offset + c.utf8Size, c :: passed, rest⟩

/-- The second position lies some characters after the first, in the same text. -/
inductive Leads : Cursor → Cursor → Prop
  | refl (c : Cursor) : Leads c c
  | step {offset : Nat} {passed : List Char} {ch : Char} {rest : List Char} {d : Cursor} :
      Leads ⟨offset + ch.utf8Size, ch :: passed, rest⟩ d → Leads ⟨offset, passed, ch :: rest⟩ d

/-- The text `n` bytes after a position: the bytes left to pass and the position so far. -/
def skipBytes (n offset : Nat) (passed : List Char) : List Char → Cursor
  | [] => ⟨offset, passed, []⟩
  | c :: rest =>
    if n = 0 then ⟨offset, passed, c :: rest⟩
    else skipBytes (n - c.utf8Size) (offset + c.utf8Size) (c :: passed) rest

/-- The position `n` bytes further. -/
def advance (c : Cursor) (n : Nat) : Cursor := skipBytes n c.offset c.passed c.rest

/-- The text of the first `n` bytes, put after what has been read. -/
def takeBytes (read : String) (n : Nat) : List Char → String
  | [] => read
  | c :: rest => if n = 0 then read else takeBytes (read.push c) (n - c.utf8Size) rest

/-- The text of the next `n` bytes. -/
def lexeme (c : Cursor) (n : Nat) : String := takeBytes "" n c.rest

end Cursor

/-- A set of addresses of a program, as the bits of a number. -/
structure Marks where
  bits : Nat

namespace Marks

/-- No address is marked. -/
def none : Marks := ⟨0⟩

/-- Whether an address is marked. -/
def has (m : Marks) (pc : Nat) : Bool := m.bits.testBit pc

/-- The number whose only bit is that of an address. The bits of a machine word are shifted as such,
since most programs are short. -/
def bit (pc : Nat) : Nat := if pc < 63 then ((1 : UInt64) <<< pc.toUInt64).toNat else 1 <<< pc

/-- Marks one more address. -/
def add (m : Marks) (pc : Nat) : Marks := ⟨m.bits ||| bit pc⟩

theorem bit_eq_shiftLeft (pc : Nat) : bit pc = 1 <<< pc := by
  unfold bit
  split
  · next h =>
    have hword : pc.toUInt64.toNat % 64 = pc := by
      rw [UInt64.toNat_ofNat']
      omega
    rw [UInt64.toNat_shiftLeft, hword, UInt64.toNat_one, Nat.mod_eq_of_lt]
    rw [Nat.one_shiftLeft]
    exact Nat.pow_lt_pow_right (by decide) (by omega)
  · rfl

@[simp] theorem has_none (pc : Nat) : none.has pc = false := by simp [none, has]

@[simp] theorem has_add (m : Marks) (pc i : Nat) : (m.add pc).has i = (m.has i || pc = i) := by
  simp [add, has, bit_eq_shiftLeft, Nat.testBit_or, Nat.one_shiftLeft, Nat.testBit_two_pow]

end Marks

namespace Program

/-- The instructions that read or accept and are reached from the `pending` addresses without
reading, in order of preference. An address counts once, where it is preferred most. -/
def settle (p : Program) (edge : Edge) :
    (fuel : Nat) → (pending : List Nat) → (seen : Marks) → List Nat
  | 0, _, _ => []
  | _ + 1, [], _ => []
  | fuel + 1, pc :: rest, seen =>
    if seen.has pc then settle p edge fuel rest seen
    else
      match p[pc]? with
      | some (.fork first second) => settle p edge fuel (first :: second :: rest) (seen.add pc)
      | some (.jump target) => settle p edge fuel (target :: rest) (seen.add pc)
      | some (.look assertion) =>
        settle p edge fuel (if assertion.holds edge then (pc + 1) :: rest else rest) (seen.add pc)
      | some (.char _) => pc :: settle p edge fuel rest (seen.add pc)
      | some .accept => pc :: settle p edge fuel rest (seen.add pc)
      | none => settle p edge fuel rest (seen.add pc)

/-- The threads at a position, from the addresses that lead to it. Every address forks at most once,
which bounds the walk. -/
def threads (p : Program) (edge : Edge) (pending : List Nat) : List Nat :=
  p.settle edge (pending.length + 2 * p.size + 1) pending .none

/-- Whether one of the threads accepts. -/
def accepting (p : Program) (threads : List Nat) : Bool :=
  threads.any fun pc => match p[pc]? with
    | some .accept => true
    | _ => false

/-- Where the threads go on after a character, up to the first that accepts. -/
def read (p : Program) (c : Char) : List Nat → List Nat
  | [] => []
  | pc :: rest =>
    match p[pc]? with
    | some (.char set) => if set.holds c then (pc + 1) :: p.read c rest else p.read c rest
    | some .accept => []
    | _ => p.read c rest

/-- The length in bytes of the preferred match of the given threads, where `length` bytes have been
read and `best` is the preferred match so far. -/
def run (p : Program) (length : Nat) (best : Option Nat) (threads : List Nat) :
    List Char → Option Nat
  | [] => if p.accepting threads then some length else best
  | c :: rest =>
    let best := if p.accepting threads then some length else best
    match p.read c threads with
    | [] => best
    | pending => p.run (length + c.utf8Size) best (p.threads ⟨some c, rest.head?⟩ pending) rest

/-- The length in bytes of the preferred match that starts at a position. -/
def matchAt (p : Program) (here : Cursor) : Option Nat :=
  p.run 0 none (p.threads here.edge [0]) here.rest

/-! ## Matches end where characters end -/

variable {p : Program} {length n : Nat} {best : Option Nat} {threads : List Nat} {c : Cursor}

/-- What is best at a position was best before, or ends there. -/
theorem best_eq_some (c : Cursor)
    (h : (if p.accepting threads then some length else best) = some n) :
    best = some n ∨ ∃ d, c.Leads d ∧ d.offset + length = c.offset + n := by
  split at h
  · cases h
    exact .inr ⟨c, .refl c, rfl⟩
  · exact .inl h

/-- A run says what was best before, or takes up the characters up to a position of the text. -/
theorem run_eq_some (h : p.run length best threads c.rest = some n) :
    best = some n ∨ ∃ d, c.Leads d ∧ d.offset + length = c.offset + n := by
  obtain ⟨offset, passed, rest⟩ := c
  induction rest generalizing offset passed length best threads with
  | nil => exact best_eq_some _ h
  | cons ch rest ih =>
    rw [run] at h
    split at h
    · exact best_eq_some _ h
    · rcases ih (offset + ch.utf8Size) (ch :: passed) h with hbest | ⟨d, hd, hoffset⟩
      · exact best_eq_some _ hbest
      · refine .inr ⟨d, .step hd, ?_⟩
        dsimp only at hoffset ⊢
        omega

/-- A match ends at a position of the text. -/
theorem matchAt_ends (h : p.matchAt c = some n) : ∃ d, c.Leads d ∧ d.offset = c.offset + n := by
  rcases run_eq_some h with hnone | hends
  · cases hnone
  · exact hends

end Program

end Packrat
