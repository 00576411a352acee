import Packrat.Text.Ranges

/-!
# Named tables

A set of characters with the names it goes by. The ranges are written as text, in hexadecimal and
with blanks or new lines between them: `41-5a` is a range and `5f` a single code point. Names are
written in lower case, without blanks, hyphens and underscores, and are compared in that form.
-/

namespace Packrat.Text

/-- A reading of ranges from text: the ranges so far, the last one first, the beginning of the range
in reading if a hyphen has been passed, and the number in reading if there is one. -/
structure RangeReading where
  ranges : Ranges := []
  low : Option Nat := none
  value : Option Nat := none

namespace RangeReading

/-- The reading once a range has ended. -/
def close (r : RangeReading) : RangeReading :=
  match r.value with
  | none => r
  | some high => ⟨(r.low.getD high, high) :: r.ranges, none, none⟩

/-- The reading with one more digit of a number. -/
def push (r : RangeReading) (digit : Nat) : RangeReading :=
  { r with value := some (16 * r.value.getD 0 + digit) }

/-- The reading after one more character. -/
def next (r : RangeReading) (c : Char) : RangeReading :=
  if c = ' ' || c = '\n' then r.close
  else if c = '-' then { r with low := r.value, value := none }
  else if c.isDigit then r.push (c.toNat - '0'.toNat)
  else r.push (c.toNat - 'a'.toNat + 10)

end RangeReading

/-- The ranges that a text describes. -/
def Ranges.ofText (text : String) : Ranges :=
  (text.toList.foldl RangeReading.next {}).close.ranges.reverse

/-- A set of characters with its names. -/
structure Table where
  names : List String
  text : String

/-- The table that goes by a name. -/
def Table.find? (tables : List Table) (name : String) : Option Ranges :=
  (tables.find? (·.names.contains name)).map (Ranges.ofText ·.text)

/-- Whether a character is left out when names are compared. -/
def isNameBlank (c : Char) : Bool := c = ' ' || c = '_' || c = '-' || 128 ≤ c.toNat

/-- The form in which names are compared: without blanks, hyphens, underscores and the word `is` at
the beginning, and in lower case. The name `isc` keeps that word, or else it would be mistaken for
`c`. -/
def plainName (name : List Char) : String :=
  let plain (name : List Char) := (name.filter (!isNameBlank ·)).map Char.toLower
  match name with
  | a :: b :: rest =>
    if a.toLower = 'i' && b.toLower = 's' then
      match plain rest with
      | ['c'] => "isc"
      | rest => String.ofList rest
    else String.ofList (plain name)
  | _ => String.ofList (plain name)

end Packrat.Text
