/-!
# Spans

A span is a run of consecutive positions, given by where it starts and how long it is. Spans over
bytes say where a token lies in its text; spans over tokens say what an operator matched.
-/

namespace Packrat

/-- A run of `length` positions from `start` on. -/
structure Span where
  start : Nat
  length : Nat
deriving DecidableEq, Repr, Inhabited

namespace Span

/-- The span of no positions at zero. -/
def empty : Span := ⟨0, 0⟩

/-- The first position after the span. -/
def stop (s : Span) : Nat := s.start + s.length

/-- Whether the span holds no position. -/
def isEmpty (s : Span) : Bool := s.length == 0

/-- Whether a position lies in the span. -/
def covers (s : Span) (position : Nat) : Bool := s.start ≤ position && position < s.stop

/-- Whether either span starts inside the other. Non-empty spans do so exactly when they share a
position; an empty span overlaps a span that covers its start, and two empty spans never overlap. -/
def overlaps (s t : Span) : Bool := s.covers t.start || t.covers s.start

/-- The span from `start` up to `stop`; a `stop` before `start` gives the empty span at `start`. -/
def between (start stop : Nat) : Span := ⟨start, stop - start⟩

/-- The written form `START+LENGTH`. -/
def text (s : Span) : String := toString s.start ++ "+" ++ toString s.length

end Span

end Packrat
