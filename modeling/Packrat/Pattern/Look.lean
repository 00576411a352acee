import Packrat.Pattern.CharSet

/-!
# Assertions

An assertion holds or fails at a position of a text, and reads nothing. All that it may look at are
the two characters next to the position.
-/

namespace Packrat

/-- The two characters next to a position of a text; `none` at the ends of the text. -/
structure Edge where
  before : Option Char
  after : Option Char

/-- What counts as a word character. -/
inductive Alphabet where
  /-- Word characters of every script. -/
  | full
  /-- Letters, digits and the underscore of ASCII. -/
  | ascii
deriving DecidableEq

/-- Whether a character belongs to a word. -/
def Alphabet.holds : Alphabet → Char → Bool
  | .full, c => Text.isWord c
  | .ascii, c => c.isAlphanum || c == '_'

/-- What ends a line. -/
inductive LineBreak where
  /-- A line feed. -/
  | feed
  /-- A line feed, a carriage return, or a carriage return with a line feed after it. -/
  | anyBreak
deriving DecidableEq

/-- Where a position lies in respect of words. -/
inductive WordEdge where
  /-- At a beginning or an end of a word. -/
  | edge
  /-- At neither. -/
  | noEdge
  /-- At a beginning. -/
  | start
  /-- At an end. -/
  | stop
  /-- Where no word character comes before. -/
  | noneBefore
  /-- Where no word character comes after. -/
  | noneAfter
deriving DecidableEq

/-- An assertion about a position of a text. -/
inductive Look where
  | textStart
  | textEnd
  | lineStart (lines : LineBreak)
  | lineEnd (lines : LineBreak)
  | word (alphabet : Alphabet) (place : WordEdge)
deriving DecidableEq

namespace Edge

/-- Whether a word character stands before the position. -/
def wordBefore (e : Edge) (a : Alphabet) : Bool := e.before.any a.holds

/-- Whether a word character stands after the position. -/
def wordAfter (e : Edge) (a : Alphabet) : Bool := e.after.any a.holds

/-- Whether a line begins at the position. A break of two characters counts as one. -/
def startsLine (e : Edge) : LineBreak → Bool
  | .feed => e.before.all (· == '\n')
  | .anyBreak => match e.before with
    | none => true
    | some c => c == '\n' || c == '\r' && e.after != some '\n'

/-- Whether a line ends at the position. A break of two characters counts as one. -/
def endsLine (e : Edge) : LineBreak → Bool
  | .feed => e.after.all (· == '\n')
  | .anyBreak => match e.after with
    | none => true
    | some c => c == '\r' || c == '\n' && e.before != some '\r'

end Edge

/-- Whether a position lies so in respect of words. -/
def WordEdge.holds (w : WordEdge) (a : Alphabet) (e : Edge) : Bool :=
  match w with
  | .edge => e.wordBefore a != e.wordAfter a
  | .noEdge => e.wordBefore a == e.wordAfter a
  | .start => !e.wordBefore a && e.wordAfter a
  | .stop => e.wordBefore a && !e.wordAfter a
  | .noneBefore => !e.wordBefore a
  | .noneAfter => !e.wordAfter a

/-- Whether an assertion holds between two characters. -/
def Look.holds : Look → Edge → Bool
  | .textStart, e => e.before.isNone
  | .textEnd, e => e.after.isNone
  | .lineStart lines, e => e.startsLine lines
  | .lineEnd lines, e => e.endsLine lines
  | .word alphabet place, e => place.holds alphabet e

end Packrat
