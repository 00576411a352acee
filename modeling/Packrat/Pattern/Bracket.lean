import Packrat.Pattern.Basic
import Packrat.Text.PropertyValue

/-!
# Reading escapes and bracketed classes

The part of the written form of patterns below the level of a single character: flags, escapes and
classes between brackets. Every function takes the text that is left and gives back what it read
with the text after it, or nothing if the text is not well formed.
-/

namespace Packrat.Pattern

/-- The settings under which a part of a pattern is read. -/
structure Flags where
  /-- Letters stand for all their case variants. -/
  anyCase : Bool := false
  /-- `^` and `$` hold at the ends of lines. -/
  multiLine : Bool := false
  /-- `.` includes the line feed. -/
  dotAll : Bool := false
  /-- Repetition prefers fewer turns, and a `?` after it more. -/
  swapGreed : Bool := false
  /-- White space between the signs of a pattern means nothing, and `#` begins a comment. -/
  spaced : Bool := false
  /-- What ends a line. -/
  lines : LineBreak := .feed
  /-- What counts as a word character, and as a letter, a digit or white space. -/
  alphabet : Alphabet := .full

/-- Switches the setting with the given letter. -/
def Flags.set? (flags : Flags) (letter : Char) (on : Bool) : Option Flags :=
  match letter with
  | 'i' => some { flags with anyCase := on }
  | 'm' => some { flags with multiLine := on }
  | 's' => some { flags with dotAll := on }
  | 'U' => some { flags with swapGreed := on }
  | 'x' => some { flags with spaced := on }
  | 'R' => some { flags with lines := if on then .anyBreak else .feed }
  | 'u' => some { flags with alphabet := if on then .full else .ascii }
  | _ => none

/-- A set of characters as it is meant under the settings. -/
def Flags.applyTo (flags : Flags) (set : CharSet) : CharSet :=
  match flags.anyCase, flags.alphabet with
  | false, _ => set
  | true, .full => set.anyCase
  | true, .ascii => set.asciiAnyCase

/-- The set, or all that is not in it. Where only ASCII counts, there is no such set, since it would
hold characters beyond ASCII. -/
def Flags.negate? (flags : Flags) (negated : Bool) (set : CharSet) : Option CharSet :=
  match negated, flags.alphabet with
  | false, _ => some set
  | true, .full => some set.compl
  | true, .ascii => none

/-- One set or the other, as the settings say what counts as a character. -/
def Flags.choose (flags : Flags) (full ascii : CharSet) : CharSet :=
  match flags.alphabet with
  | .full => full
  | .ascii => ascii

/-- What `.` stands for; there is no such set where only ASCII counts. -/
def Flags.dot? (flags : Flags) : Option CharSet :=
  match flags.alphabet, flags.dotAll, flags.lines with
  | .ascii, _, _ => none
  | .full, true, _ => some .any
  | .full, false, .feed => some .notFeed
  | .full, false, .anyBreak => some .notBreak

/-! ## White space and numbers -/

/-- The text after white space and comments; a comment runs to the end of its line. -/
def skipBlanks (comment : Bool) : List Char → List Char
  | [] => []
  | c :: rest =>
    if comment then skipBlanks (c ≠ '\n') rest
    else if Text.isBlank c then skipBlanks false rest
    else if c = '#' then skipBlanks true rest
    else c :: rest

/-- The text that is left once white space is skipped where the settings say so. -/
def Flags.skip (flags : Flags) (text : List Char) : List Char :=
  if flags.spaced then skipBlanks false text else text

/-- The sign that comes next, as it is seen ahead: what comes after white space and, if that is a
`#`, after more white space, be it inside a comment. -/
def Flags.peek? (flags : Flags) (text : List Char) : Option Char :=
  if flags.spaced then
    match text.dropWhile Text.isBlank with
    | '#' :: rest => (rest.dropWhile Text.isBlank).head?
    | rest => rest.head?
  else text.head?

/-- The value of a hexadecimal digit. -/
def hexValue? (c : Char) : Option Nat :=
  if '0' ≤ c ∧ c ≤ '9' then some (c.toNat - '0'.toNat)
  else if 'a' ≤ c ∧ c ≤ 'f' then some (c.toNat - 'a'.toNat + 10)
  else if 'A' ≤ c ∧ c ≤ 'F' then some (c.toNat - 'A'.toNat + 10)
  else none

/-- The character with a code point, if there is one. -/
def scalar? (point : Nat) : Option Char :=
  if point.isValidChar then some (Char.ofNat point) else none

/-- Reads exactly `count` hexadecimal digits after the value read so far. -/
def readHexDigits (flags : Flags) : (count value : Nat) → List Char → Option (Nat × List Char)
  | 0, value, text => some (value, text)
  | count + 1, value, c :: rest => do
    let digit ← hexValue? c
    readHexDigits flags count (16 * value + digit) (flags.skip rest)
  | _ + 1, _, [] => none

/-- Reads hexadecimal digits up to a closing brace, at least one of them. -/
def readHexBraced (flags : Flags) : (fuel : Nat) → (value : Option Nat) → List Char →
    Option (Nat × List Char)
  | 0, _, _ => none
  | _ + 1, _, [] => none
  | fuel + 1, value, c :: rest =>
    if c = '\x7d' then value.map (·, flags.skip rest)
    else do
      let digit ← hexValue? c
      readHexBraced flags fuel (some (16 * value.getD 0 + digit)) (flags.skip rest)

/-! ## Escapes -/

/-- What a backslash and the signs after it stand for. -/
inductive Escape where
  | literal (c : Char)
  | set (s : CharSet)
  | look (assertion : Look)

/-- The signs with a meaning of their own, which a backslash takes away. -/
def isSign (c : Char) : Bool :=
  "\\.+*?()|[]\x7b\x7d^$#&-~".toList.contains c

/-- Whether a backslash before the character means the character itself: so it is with every ASCII
character but letters, digits and the angle brackets. -/
def isEscapable (c : Char) : Bool :=
  isSign c || (c.toNat < 128 && !c.isAlphanum && c ≠ '<' && c ≠ '>')

/-- The assertions about words that are named between braces after `\b`. -/
def namedEdge? (name : String) : Option WordEdge :=
  match name with
  | "start" => some .start
  | "end" => some .stop
  | "start-half" => some .noneBefore
  | "end-half" => some .noneAfter
  | _ => none

/-- An assertion about words under the settings. -/
def Flags.word (flags : Flags) (place : WordEdge) : Escape := .look (.word flags.alphabet place)

/-- Whether a character may stand in the name of an assertion about words. -/
def isEdgeLetter (c : Char) : Bool := c.isAlpha || c = '-'

/-- Reads the name of an assertion about words up to a closing brace. -/
def readEdgeName (flags : Flags) : (fuel : Nat) → (name : List Char) → List Char →
    Option (WordEdge × List Char)
  | 0, _, _ => none
  | _ + 1, _, [] => none
  | fuel + 1, name, c :: rest =>
    if isEdgeLetter c then readEdgeName flags fuel (c :: name) (flags.skip rest)
    else if c = '\x7d' then (namedEdge? (String.ofList name.reverse)).map (·, rest)
    else none

/-- Reads what follows `\b`: a named assertion between braces, or nothing. A brace that holds no
name is left for a counted repetition. -/
def readWordEdge (flags : Flags) (text : List Char) : Option (Escape × List Char) :=
  match text with
  | '\x7b' :: rest =>
    let inner := flags.skip rest
    match inner with
    | [] => none
    | c :: _ =>
      if isEdgeLetter c then
        (readEdgeName flags (inner.length + 1) [] inner).map fun (e, rest) => (flags.word e, rest)
      else some (flags.word .edge, text)
  | _ => some (flags.word .edge, text)

/-- Whether a character may be given by its number in two digits. Where only ASCII counts, such a
number is that of a byte, and a byte beyond ASCII is no character. -/
def Flags.allowsByte (flags : Flags) (digits point : Nat) : Bool :=
  match flags.alphabet with
  | .full => true
  | .ascii => digits ≠ 2 || point < 128

/-- Reads the digits of a code point after the letter that says how many there are. -/
def readCodePoint (flags : Flags) (digits : Nat) (text : List Char) :
    Option (Escape × List Char) :=
  match flags.skip text with
  | '\x7b' :: rest => do
    let (point, rest) ← readHexBraced flags (rest.length + 1) none (flags.skip rest)
    return (.literal (← scalar? point), rest)
  | text => do
    let (point, rest) ← readHexDigits flags digits 0 text
    let c ← scalar? point
    if flags.allowsByte digits point then return (.literal c, rest) else none

/-- The signs up to a closing brace, and the text after it. -/
def readBraced (flags : Flags) : (fuel : Nat) → List Char → Option (List Char × List Char)
  | 0, _ => none
  | _ + 1, [] => none
  | fuel + 1, c :: rest =>
    if c = '\x7d' then some ([], rest)
    else (readBraced flags fuel (flags.skip rest)).map fun (name, rest) => (c :: name, rest)

/-- The text before the first place where one of the signs stands, and the text after it. -/
def splitAt? (isSign : Char → Bool) : List Char → Option (List Char × List Char)
  | [] => none
  | c :: rest =>
    if isSign c then some ([], rest)
    else (splitAt? isSign rest).map fun (before, after) => (c :: before, after)

/-- The text before the first `!=`, and the text after it. -/
def splitAtUnequal? : List Char → Option (List Char × List Char)
  | '!' :: '=' :: rest => some ([], rest)
  | [] => none
  | c :: rest => (splitAtUnequal? rest).map fun (before, after) => (c :: before, after)

/-- What is written of a property: its name, and perhaps a value with `:`, `=` or `!=` between
them. The last of these means all other values. -/
structure PropertyText where
  name : List Char
  value : Option (List Char) := none
  otherThan : Bool := false

/-- The parts of the text of a property. -/
def PropertyText.ofText (text : List Char) : PropertyText :=
  match splitAtUnequal? text with
  | some (name, value) => ⟨name, some value, true⟩
  | none =>
    match (splitAt? (· = ':') text).or (splitAt? (· = '=') text) with
    | some (name, value) => ⟨name, some value, false⟩
    | none => ⟨text, none, false⟩

/-- The characters that the name of a property stands for, or for which it has the value. -/
def PropertyText.set? (p : PropertyText) : Option CharSet :=
  let ranges := match p.value with
    | some value => Text.propertyValue? (Text.plainName p.name) (Text.plainName value)
    | none => Text.property? (Text.plainName p.name)
  ranges.map (⟨·⟩)

/-- Reads a property: a letter, or a name between braces. There are none where only ASCII counts. -/
def readProperty (flags : Flags) (negated : Bool) (text : List Char) :
    Option (Escape × List Char) := do
  let (written, rest) ← match flags.skip text with
    | [] => none
    | '\\' :: _ => none
    | '\x7b' :: rest =>
      (readBraced flags (rest.length + 1) (flags.skip rest)).map fun (inner, rest) =>
        (PropertyText.ofText inner, rest)
    | c :: rest => some (⟨[c], none, false⟩, rest)
  let set ← written.set?
  match flags.alphabet with
  | .full =>
    return (.set (← flags.negate? (negated != written.otherThan) (flags.applyTo set)), rest)
  | .ascii => none

/-- The escape for a set, or for all that is not in it. -/
def Flags.setEscape (flags : Flags) (negated : Bool) (full ascii : CharSet) (rest : List Char) :
    Option (Escape × List Char) :=
  (flags.negate? negated (flags.choose full ascii)).map (.set ·, rest)

/-- Reads what follows a backslash. -/
def readEscape (flags : Flags) : List Char → Option (Escape × List Char)
  | [] => none
  | 'x' :: rest => readCodePoint flags 2 rest
  | 'u' :: rest => readCodePoint flags 4 rest
  | 'U' :: rest => readCodePoint flags 8 rest
  | 'd' :: rest => flags.setEscape false .digit .asciiDigit rest
  | 'D' :: rest => flags.setEscape true .digit .asciiDigit rest
  | 's' :: rest => flags.setEscape false .blank .asciiBlank rest
  | 'S' :: rest => flags.setEscape true .blank .asciiBlank rest
  | 'w' :: rest => flags.setEscape false .word .asciiWord rest
  | 'W' :: rest => flags.setEscape true .word .asciiWord rest
  | 'p' :: rest => readProperty flags false rest
  | 'P' :: rest => readProperty flags true rest
  | 'a' :: rest => some (.literal '\x07', rest)
  | 'f' :: rest => some (.literal '\x0c', rest)
  | 't' :: rest => some (.literal '\t', rest)
  | 'n' :: rest => some (.literal '\n', rest)
  | 'r' :: rest => some (.literal '\r', rest)
  | 'v' :: rest => some (.literal '\x0b', rest)
  | 'A' :: rest => some (.look .textStart, rest)
  | 'z' :: rest => some (.look .textEnd, rest)
  | 'b' :: rest => readWordEdge flags rest
  | 'B' :: rest => some (flags.word .noEdge, rest)
  | '<' :: rest => some (flags.word .start, rest)
  | '>' :: rest => some (flags.word .stop, rest)
  | c :: rest => if isEscapable c then some (.literal c, rest) else none

/-! ## Bracketed classes -/

/-- A set of characters with how deep its brackets and operations nest. -/
structure Class where
  set : CharSet
  height : Nat := 0

/-- The operations between parts of a bracketed class. -/
inductive ClassOp where
  | inter
  | diff
  | symmDiff

/-- The set that an operation makes of two. -/
def ClassOp.apply : ClassOp → CharSet → CharSet → CharSet
  | .inter => .inter
  | .diff => .diff
  | .symmDiff => .symmDiff

/-- The items of a bracketed class read so far. -/
structure Items where
  set : CharSet := .none
  count : Nat := 0
  height : Nat := 0

/-- One more item. -/
def Items.push (items : Items) (item : Class) : Items :=
  ⟨items.set.union item.set, items.count + 1, max items.height item.height⟩

/-- The class of all items; several of them count as one level of nesting. -/
def Items.toClass (items : Items) : Class :=
  ⟨items.set, if items.count < 2 then items.height else items.height + 1⟩

/-- A bracketed class in reading: whether it is negated, what stands before the last operation, and
the items after it. -/
structure Bracket where
  negated : Bool
  left : Option (ClassOp × Class) := none
  items : Items := {}

/-- The class before an operation that is read next, or before the closing bracket. -/
def Bracket.join (bracket : Bracket) (flags : Flags) : Class :=
  let right := bracket.items.toClass
  match bracket.left with
  | none => right
  | some (op, left) =>
    ⟨op.apply (flags.applyTo left.set) (flags.applyTo right.set), max left.height right.height + 1⟩

/-- One more operation. -/
def Bracket.operate (bracket : Bracket) (flags : Flags) (op : ClassOp) : Bracket :=
  { bracket with left := some (op, bracket.join flags), items := {} }

/-- One more item. -/
def Bracket.push (bracket : Bracket) (item : Class) : Bracket :=
  { bracket with items := bracket.items.push item }

/-- The whole class. Case variants join before the class is negated. -/
def Bracket.close? (bracket : Bracket) (flags : Flags) : Option Class := do
  let inner := bracket.join flags
  return ⟨← flags.negate? bracket.negated (flags.applyTo inner.set), inner.height + 1⟩

/-- Reads hyphens at the beginning of a class, which stand for themselves. -/
def readHyphens (flags : Flags) : (fuel : Nat) → Items → List Char → Items × List Char
  | 0, items, text => (items, text)
  | fuel + 1, items, text =>
    match text with
    | '-' :: rest => readHyphens flags fuel (items.push ⟨.single '-', 0⟩) (flags.skip rest)
    | _ => (items, text)

/-- Reads the beginning of a class after its opening bracket: a negation, then hyphens or a closing
bracket that stand for themselves. -/
def openBracket (flags : Flags) (text : List Char) : Bracket × List Char :=
  let text := flags.skip text
  let (negated, text) := match text with
    | '^' :: rest => (true, flags.skip rest)
    | _ => (false, text)
  let (items, text) := readHyphens flags (text.length + 1) {} text
  match items.count, text with
  | 0, ']' :: rest => (⟨negated, none, items.push ⟨.single ']', 0⟩⟩, flags.skip rest)
  | _, _ => (⟨negated, none, items⟩, text)

/-- Reads one item of a class: an escape or a character. -/
def readItem (flags : Flags) : List Char → Option (Escape × List Char)
  | [] => none
  | '\\' :: rest => readEscape flags rest
  | c :: rest => some (.literal c, rest)

/-- Whether a character may stand in a class. -/
def Flags.allows (flags : Flags) (c : Char) : Bool :=
  match flags.alphabet with
  | .full => true
  | .ascii => c.toNat < 128

/-- The set that an item stands for by itself; an assertion has no place in a class. -/
def Escape.toSet? (flags : Flags) : Escape → Option CharSet
  | .literal c => if flags.allows c then some (.single c) else none
  | .set s => some s
  | .look _ => none

/-- The set of the characters between two items, which have to be characters. -/
def rangeSet? (flags : Flags) : Escape → Escape → Option CharSet
  | .literal low, .literal high =>
    if low ≤ high && flags.allows low && flags.allows high then some (.range low high) else none
  | _, _ => none

/-- Reads an item of a class, or a range between two characters. A hyphen that is the last sign, or
has another one after it, stands for itself. -/
def readRange (flags : Flags) (text : List Char) : Option (CharSet × List Char) := do
  let (first, rest) ← readItem flags text
  let rest := flags.skip rest
  match rest with
  | '-' :: after =>
    match flags.peek? after with
    | some ']' => return (← first.toSet? flags, rest)
    | some '-' => return (← first.toSet? flags, rest)
    | _ =>
      let (last, rest) ← readItem flags (flags.skip after)
      return (← rangeSet? flags first last, rest)
  | _ => return (← first.toSet? flags, rest)

/-- Reads a class with a name, `[:name:]` or `[:^name:]`, after its opening bracket. It fails if
there is no such class, and gives nothing if the class has no meaning under the settings. -/
def readNamed? (flags : Flags) (text : List Char) : Option (Option CharSet × List Char) :=
  match text with
  | ':' :: rest =>
    let (negated, rest) := match rest with
      | '^' :: rest => (true, rest)
      | _ => (false, rest)
    let name := rest.takeWhile (· ≠ ':')
    match rest.dropWhile (· ≠ ':') with
    | ':' :: ']' :: after =>
      (CharSet.named? (String.ofList name)).map fun set =>
        (flags.negate? negated (flags.applyTo set), after)
    | _ => none
  | _ => none

/-- Reads a class up to its closing bracket. -/
def readBracket (flags : Flags) : (fuel : Nat) → Bracket → List Char → Option (Class × List Char)
  | 0, _, _ => none
  | fuel + 1, bracket, text =>
    match flags.skip text with
    | [] => none
    | '[' :: rest =>
      match readNamed? flags rest with
      | some (none, _) => none
      | some (some set, rest) => readBracket flags fuel (bracket.push ⟨set, 0⟩) rest
      | none =>
        let (inner, rest) := openBracket flags rest
        match readBracket flags fuel inner rest with
        | none => none
        | some (cls, rest) => readBracket flags fuel (bracket.push cls) rest
    | ']' :: rest => (bracket.close? flags).map (·, rest)
    | '&' :: '&' :: rest => readBracket flags fuel (bracket.operate flags .inter) rest
    | '-' :: '-' :: rest => readBracket flags fuel (bracket.operate flags .diff) rest
    | '~' :: '~' :: rest => readBracket flags fuel (bracket.operate flags .symmDiff) rest
    | text =>
      match readRange flags text with
      | none => none
      | some (set, rest) => readBracket flags fuel (bracket.push ⟨set, 0⟩) rest

/-- Reads a class after its opening bracket. -/
def readClass (flags : Flags) (text : List Char) : Option (Class × List Char) :=
  let (bracket, rest) := openBracket flags text
  readBracket flags (rest.length + 1) bracket rest

end Packrat.Pattern
