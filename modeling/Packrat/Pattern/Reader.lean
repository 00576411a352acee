import Packrat.Pattern.Bracket
import Packrat.Text.Letter

/-!
# Reading patterns

`Pattern.read?` reads the usual written form of patterns: characters, `.`, escapes, bracketed
classes, groups with or without a name or settings, alternatives, repetition with `*`, `+`, `?` and
counts, and the assertions `^` and `$`. Text that is not well formed, a count that is reversed, an
operator without an operand, a group that looks around, and nesting beyond 250 levels are refused.

Groups are read with a stack of the levels that enclose the current one. Settings hold up to the end
of the group in which they stand, later alternatives included.
-/

namespace Packrat.Pattern

/-- A part of a pattern with how deep it nests. -/
structure Piece where
  pattern : Pattern
  height : Nat := 0

/-- What stands in a sequence: a part of the pattern, or a change of the settings. -/
inductive Item where
  | piece (p : Piece)
  | settings

/-- The part that an item contributes. -/
def Item.toPiece : Item → Piece
  | .piece p => p
  | .settings => ⟨.empty, 0⟩

/-- Parts joined by `join`; more than one of them count as one level of nesting. -/
def Piece.joinAll (join : List Pattern → Pattern) (pieces : List Piece) : Piece :=
  let height := (pieces.map (·.height)).foldl max 0
  ⟨join (pieces.map (·.pattern)), if pieces.length < 2 then height else height + 1⟩

/-- A group in reading: its settings, its number if it has one, the alternatives that are complete
and the items of the one in reading, the last of each first. -/
structure Level where
  flags : Flags
  number : Option Nat := none
  alternatives : List Piece := []
  items : List Item := []

/-- The sequence of the items read since the last bar. -/
def Level.sequence (level : Level) : Piece :=
  Piece.joinAll Pattern.sequence (level.items.reverse.map Item.toPiece)

/-- The level after a bar. -/
def Level.bar (level : Level) : Level :=
  { level with alternatives := level.sequence :: level.alternatives, items := [] }

/-- All alternatives of the level. -/
def Level.close (level : Level) : Piece :=
  Piece.joinAll Pattern.oneOf (level.sequence :: level.alternatives).reverse

/-- The level as a group, which is one more level of nesting. -/
def Level.toGroup (level : Level) : Piece :=
  let inner := level.close
  match level.number with
  | none => ⟨inner.pattern, inner.height + 1⟩
  | some n => ⟨.group n inner.pattern, inner.height + 1⟩

/-- The level with one more part. -/
def Level.push (level : Level) (piece : Piece) : Level :=
  { level with items := .piece piece :: level.items }

/-- The state of reading: the level in reading, the levels around it from the inside out, the number
of numbered groups so far, and the names of groups so far. -/
structure State where
  level : Level
  outer : List Level := []
  groups : Nat := 0
  names : List (List Char) := []

/-- The state with one more part. -/
def State.push (s : State) (piece : Piece) : State := { s with level := s.level.push piece }

/-! ## Repetition -/

/-- Reads a `?` that swaps the preference of a repetition. -/
def readGreed (flags : Flags) (text : List Char) : Bool × List Char :=
  match text with
  | '?' :: rest => (flags.swapGreed, rest)
  | _ => (!flags.swapGreed, text)

/-- Repeats the last part read; there must be one. -/
def State.repeatLast (s : State) (greedy : Bool) (low : Nat) (high : Option Nat) : Option State :=
  match s.level.items with
  | .piece p :: rest =>
    let repeated : Piece := ⟨p.pattern.repeated greedy low high, p.height + 1⟩
    some { s with level := { s.level with items := .piece repeated :: rest } }
  | _ => none

/-- Counts are below this bound. -/
def countBound : Nat := 0x100000000

/-- Reads the digits of a count. -/
def readDigits (flags : Flags) : (fuel : Nat) → (value : Option Nat) → List Char →
    Option Nat × List Char
  | 0, value, text => (value, text)
  | _ + 1, value, [] => (value, [])
  | fuel + 1, value, c :: rest =>
    if c.isDigit then
      readDigits flags fuel (some (10 * value.getD 0 + (c.toNat - '0'.toNat))) (flags.skip rest)
    else (value, c :: rest)

/-- Reads a count with white space around it; there may be none. -/
def readCount (flags : Flags) (text : List Char) : Option Nat × List Char :=
  let text := text.dropWhile Text.isBlank
  let (value, rest) := readDigits flags (text.length + 1) none text
  (value, flags.skip (rest.dropWhile Text.isBlank))

/-- A count that is small enough. -/
def boundedCount? (count : Option Nat) : Option Nat :=
  count.filter (· < countBound)

/-- Reads the counts of a repetition after the opening brace, up to the closing one. -/
def readCounts (flags : Flags) (text : List Char) : Option (Nat × Option Nat × List Char) := do
  let (first, rest) := readCount flags (flags.skip text)
  let low ← boundedCount? first
  match rest with
  | '\x7d' :: rest => return (low, some low, flags.skip rest)
  | ',' :: rest =>
    match flags.skip rest with
    | '\x7d' :: rest => return (low, none, flags.skip rest)
    | rest =>
      let (second, rest) := readCount flags rest
      let high ← boundedCount? second
      match rest with
      | '\x7d' :: rest => if low ≤ high then return (low, some high, flags.skip rest) else none
      | _ => none
  | _ => none

/-! ## Groups -/

/-- Reads the name of a group up to the closing angle bracket: a letter or an underscore, then
letters, numbers, underscores, dots and square brackets. -/
def readGroupName (text : List Char) : Option (List Char × List Char) :=
  let name := text.takeWhile (· ≠ '>')
  match name, text.dropWhile (· ≠ '>') with
  | first :: more, '>' :: rest =>
    if (Text.isLetter first || first = '_') &&
        more.all fun c => Text.isLetter c || Text.isNumber c || "_.[]".toList.contains c
    then some (name, rest) else none
  | _, _ => none

/-- Reads settings up to a colon or a closing parenthesis. `seen` holds the letters so far, and
`dangling` says that the last of them was the hyphen that switches off. -/
def readFlags (flags : Flags) (seen : List Char) (dangling : Bool) :
    List Char → Option (Flags × List Char × Char × List Char)
  | [] => none
  | c :: rest =>
    if c = ':' || c = ')' then
      if dangling then none else some (flags, seen, c, rest)
    else if seen.contains c then none
    else if c = '-' then readFlags flags (c :: seen) true rest
    else
      match flags.set? c (!seen.contains '-') with
      | none => none
      | some flags => readFlags flags (c :: seen) false rest

/-- Begins a group under the given settings. -/
def State.openGroup (s : State) (flags : Flags) : State :=
  { s with level := { flags }, outer := s.level :: s.outer }

/-- Begins a group with a number. -/
def State.openNumbered (s : State) : State :=
  { s with
    level := { flags := s.level.flags, number := some (s.groups + 1) }
    outer := s.level :: s.outer
    groups := s.groups + 1 }

/-- Begins a group with a name that no other group has. -/
def State.openNamed (s : State) (text : List Char) : Option (State × List Char) := do
  let (name, rest) ← readGroupName text
  if s.names.contains name then none
  else return ({ s.openNumbered with names := name :: s.names }, rest)

/-- Reads the beginning of a group after its parenthesis, or a change of the settings. -/
def State.readGroup (s : State) (text : List Char) : Option (State × List Char) :=
  match s.level.flags.skip text with
  | '?' :: '=' :: _ => none
  | '?' :: '!' :: _ => none
  | '?' :: '<' :: '=' :: _ => none
  | '?' :: '<' :: '!' :: _ => none
  | '?' :: 'P' :: '<' :: rest => s.openNamed rest
  | '?' :: '<' :: rest => s.openNamed rest
  | '?' :: rest =>
    match readFlags s.level.flags [] false rest with
    | none => none
    | some (flags, seen, stop, rest) =>
      if stop = ':' then some (s.openGroup flags, rest)
      else if seen.isEmpty then none
      else
        let level := { s.level with flags, items := .settings :: s.level.items }
        some ({ s with level }, rest)
  | rest => some (s.openNumbered, rest)

/-- Ends the group in reading. -/
def State.closeGroup (s : State) : Option State :=
  match s.outer with
  | [] => none
  | level :: outer => some { s with level := level.push s.level.toGroup, outer }

/-! ## Whole patterns -/

/-- The part that an escape stands for outside brackets. -/
def Escape.toPattern (flags : Flags) : Escape → Pattern
  | .literal c => oneIn (flags.applyTo (.single c))
  | .set s => oneIn s
  | .look assertion => .look assertion

/-- Reads a part of a pattern that is no operator. -/
def readPrimitive (flags : Flags) : List Char → Option (Piece × List Char)
  | [] => none
  | '\\' :: rest => (readEscape flags rest).map fun (e, rest) => (⟨e.toPattern flags, 0⟩, rest)
  | '[' :: rest => (readClass flags rest).map fun (c, rest) => (⟨oneIn c.set, c.height⟩, rest)
  | '.' :: rest => flags.dot?.map fun set => (⟨oneIn set, 0⟩, rest)
  | '^' :: rest =>
    some (⟨.look (if flags.multiLine then .lineStart flags.lines else .textStart), 0⟩, rest)
  | '$' :: rest =>
    some (⟨.look (if flags.multiLine then .lineEnd flags.lines else .textEnd), 0⟩, rest)
  | c :: rest => some (⟨oneIn (flags.applyTo (.single c)), 0⟩, rest)

/-- Reads one sign and what belongs to it. -/
def State.step (s : State) (text : List Char) : Option (State × List Char) :=
  let flags := s.level.flags
  match text with
  | '(' :: rest => s.readGroup rest
  | ')' :: rest => s.closeGroup.map (·, rest)
  | '|' :: rest => some ({ s with level := s.level.bar }, rest)
  | '*' :: rest =>
    let (greedy, rest) := readGreed flags rest
    (s.repeatLast greedy 0 none).map (·, rest)
  | '+' :: rest =>
    let (greedy, rest) := readGreed flags rest
    (s.repeatLast greedy 1 none).map (·, rest)
  | '?' :: rest =>
    let (greedy, rest) := readGreed flags rest
    (s.repeatLast greedy 0 (some 1)).map (·, rest)
  | '\x7b' :: rest =>
    match readCounts flags rest with
    | none => none
    | some (low, high, rest) =>
      let (greedy, rest) := readGreed flags rest
      (s.repeatLast greedy low high).map (·, rest)
  | text => (readPrimitive flags text).map fun (piece, rest) => (s.push piece, rest)

/-- Reads to the end of the text. Each step takes at least one character, which bounds their
number. -/
def State.readAll : (fuel : Nat) → State → List Char → Option State
  | 0, _, _ => none
  | fuel + 1, s, text =>
    match s.level.flags.skip text with
    | [] => some s
    | text =>
      match s.step text with
      | none => none
      | some (s, rest) => readAll fuel s rest

/-- How deep a pattern may nest. -/
def heightLimit : Nat := 250

/-- The pattern of a written form, if it is well formed. -/
def read? (source : String) : Option Pattern := do
  let text := source.toList
  let s ← State.readAll (text.length + 1) { level := { flags := {} } } text
  if s.outer.isEmpty then
    let piece := s.level.close
    if piece.height ≤ heightLimit then some piece.pattern else none
  else none

end Packrat.Pattern
