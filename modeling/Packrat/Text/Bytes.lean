import Packrat.Text.Ranges

/-!
# Ranges of bytes

The characters of a range take up one to four bytes each. A range is cut into blocks so that the
characters of a block are just those whose first byte lies in one range, whose second byte lies in
another, and so on; such a list of ranges is a path.
-/

namespace Packrat.Text

/-- The bytes of a code point. -/
def bytesOf (point : Nat) : List Nat :=
  if point < 0x80 then [point]
  else if point < 0x800 then [0xc0 + point / 0x40, 0x80 + point % 0x40]
  else if point < 0x10000 then
    [0xe0 + point / 0x1000, 0x80 + point / 0x40 % 0x40, 0x80 + point % 0x40]
  else
    [0xf0 + point / 0x40000, 0x80 + point / 0x1000 % 0x40, 0x80 + point / 0x40 % 0x40,
      0x80 + point % 0x40]

/-- The last point before the place where a range has to be cut so that its bytes do not interfere:
where a point takes one byte more, or at a multiple of `64`, `64 ^ 2` or `64 ^ 3` if the range
begins or ends inside a block of that size and does not lie in it as a whole. -/
def cut? (low high : Nat) : Option Nat :=
  match [0x7f, 0x7ff, 0xffff].find? fun last => low ≤ last && last < high with
  | some last => some last
  | none =>
    if high < 0x80 then none
    else
      [0x40, 0x1000, 0x40000].findSome? fun size =>
        if low / size = high / size then none
        else if low % size ≠ 0 then some (low / size * size + size - 1)
        else if high % size ≠ size - 1 then some (high / size * size - 1)
        else none

/-- The paths of a range. A range is cut a bounded number of times: at most at three lengths, and
twice for each size of blocks. -/
def bytePaths : (fuel low high : Nat) → List (List (Nat × Nat))
  | 0, low, high => [(bytesOf low).zip (bytesOf high)]
  | fuel + 1, low, high =>
    match cut? low high with
    | none => [(bytesOf low).zip (bytesOf high)]
    | some last => bytePaths fuel low last ++ bytePaths fuel (last + 1) high

/-- The paths of a table. -/
def Ranges.bytePaths (table : Ranges) : List (List (Nat × Nat)) :=
  table.flatMap fun (low, high) => Text.bytePaths 16 low high

end Packrat.Text
