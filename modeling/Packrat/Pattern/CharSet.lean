import Packrat.Text.Blank
import Packrat.Text.Digit
import Packrat.Text.Word
import Packrat.Text.Fold

/-!
# Sets of characters

What a single character of a text is compared with. A set is kept as a table of ranges, so equal
sets have equal tables; `CharSet.holds` is its meaning.
-/

namespace Packrat

/-- A set of characters. -/
structure CharSet where
  ranges : Text.Ranges
deriving DecidableEq

namespace CharSet

/-- Whether a character is in the set. -/
def holds (s : CharSet) (c : Char) : Bool := Text.Ranges.holds c.toNat s.ranges

/-- No character. -/
def none : CharSet := ⟨[]⟩

/-- Every character. -/
def any : CharSet := ⟨Text.Ranges.scalars⟩

/-- One character. -/
def single (c : Char) : CharSet := ⟨[(c.toNat, c.toNat)]⟩

/-- The characters from `low` to `high`. -/
def range (low high : Char) : CharSet :=
  ⟨Text.Ranges.inter Text.Ranges.scalars [(low.toNat, high.toNat)]⟩

/-- White space. -/
def blank : CharSet := ⟨Text.blankRanges⟩

/-- The decimal digits of every script. -/
def digit : CharSet := ⟨Text.digitRanges⟩

/-- Word characters. -/
def word : CharSet := ⟨Text.wordRanges⟩

/-- What is in either set. -/
def union (a b : CharSet) : CharSet := ⟨a.ranges.union b.ranges⟩

/-- What is in both sets. -/
def inter (a b : CharSet) : CharSet := ⟨a.ranges.inter b.ranges⟩

/-- What is not in the set. -/
def compl (a : CharSet) : CharSet := ⟨a.ranges.compl⟩

/-- What is in the first set and not in the second. -/
def diff (a b : CharSet) : CharSet := a.inter b.compl

/-- What is in exactly one of the sets. -/
def symmDiff (a b : CharSet) : CharSet := (a.diff b).union (b.diff a)

/-- What is in the set, or differs from a member of it in case only. -/
def anyCase (a : CharSet) : CharSet := ⟨a.ranges.anyCase Text.caseRuns⟩

/-- What is in the set, or is an ASCII letter that differs from a member of it in case only. -/
def asciiAnyCase (a : CharSet) : CharSet := ⟨a.ranges.anyCase Text.asciiCaseRuns⟩

/-- Whether no character is in the set. -/
def isEmpty (a : CharSet) : Bool := a.ranges.isEmpty

/-- The character of a set with just one. -/
def single? (a : CharSet) : Option Char :=
  match a.ranges with
  | [(low, high)] => if low = high then some (Char.ofNat low) else Option.none
  | _ => Option.none

/-- Whether all characters of the set are ASCII. -/
def isAscii (a : CharSet) : Bool := a.ranges.all (·.2 < 128)

/-- Every character but the line feed. -/
def notFeed : CharSet := (single '\n').compl

/-- Every character but the line feed and the carriage return. -/
def notBreak : CharSet := ((single '\n').union (single '\r')).compl

/-- The characters in the given ranges. -/
def ofRanges : List (Char × Char) → CharSet
  | [] => none
  | (low, high) :: rest => (ofRanges rest).union (range low high)

/-- The sets of ASCII characters that have a name. -/
def named? (name : String) : Option CharSet :=
  match name with
  | "alnum" => some (ofRanges [('0', '9'), ('A', 'Z'), ('a', 'z')])
  | "alpha" => some (ofRanges [('A', 'Z'), ('a', 'z')])
  | "ascii" => some (ofRanges [('\x00', '\x7f')])
  | "blank" => some (ofRanges [('\t', '\t'), (' ', ' ')])
  | "cntrl" => some (ofRanges [('\x00', '\x1f'), ('\x7f', '\x7f')])
  | "digit" => some (ofRanges [('0', '9')])
  | "graph" => some (ofRanges [('!', '~')])
  | "lower" => some (ofRanges [('a', 'z')])
  | "print" => some (ofRanges [(' ', '~')])
  | "punct" => some (ofRanges [('!', '/'), (':', '@'), ('[', '\x60'), ('\x7b', '~')])
  | "space" => some (ofRanges [('\t', '\r'), (' ', ' ')])
  | "upper" => some (ofRanges [('A', 'Z')])
  | "word" => some (ofRanges [('0', '9'), ('A', 'Z'), ('_', '_'), ('a', 'z')])
  | "xdigit" => some (ofRanges [('0', '9'), ('A', 'F'), ('a', 'f')])
  | _ => Option.none

/-- The ASCII digits. -/
def asciiDigit : CharSet := range '0' '9'

/-- The white space of ASCII. -/
def asciiBlank : CharSet := ofRanges [('\t', '\r'), (' ', ' ')]

/-- The word characters of ASCII. -/
def asciiWord : CharSet := ofRanges [('0', '9'), ('A', 'Z'), ('_', '_'), ('a', 'z')]

end CharSet

end Packrat
