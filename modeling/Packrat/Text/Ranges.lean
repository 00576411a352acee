/-!
# Tables of code points

A set of characters is written down as an ascending list of closed ranges of code points, with a gap
after each of them. The character classes of this library that reach beyond ASCII are such tables,
and the operations of sets are carried out on them.
-/

namespace Packrat.Text

/-- Ascending, disjoint, closed ranges of code points. -/
abbrev Ranges := List (Nat × Nat)

namespace Ranges

/-- Whether a code point lies in a table. The ranges ascend, so the walk ends at the first one that
begins beyond the point. -/
def holds (point : Nat) : Ranges → Bool
  | [] => false
  | (low, high) :: rest =>
    if point < low then false
    else if point ≤ high then true
    else holds point rest

/-- The table with one more range; those that overlap or touch it are taken up into it. -/
def insert (low high : Nat) : Ranges → Ranges
  | [] => [(low, high)]
  | (l, h) :: rest =>
    if high + 1 < l then (low, high) :: (l, h) :: rest
    else if h + 1 < low then (l, h) :: insert low high rest
    else insert (min low l) (max high h) rest

/-- What lies in either table. -/
def union (a b : Ranges) : Ranges := b.foldr (fun r table => insert r.1 r.2 table) a

/-- What two ranges have in common. -/
def overlap? (a b : Nat × Nat) : Option (Nat × Nat) :=
  if max a.1 b.1 ≤ min a.2 b.2 then some (max a.1 b.1, min a.2 b.2) else none

/-- What lies in both tables. -/
def inter (a b : Ranges) : Ranges := a.flatMap fun r => b.filterMap (overlap? r)

/-- The last code point. -/
def lastPoint : Nat := 0x10ffff

/-- The code points of characters: all but the surrogates. -/
def scalars : Ranges := [(0, 0xd7ff), (0xe000, lastPoint)]

/-- The gaps of a table from `start` on. -/
def gaps (start : Nat) : Ranges → Ranges
  | [] => [(start, lastPoint)]
  | (low, high) :: rest =>
    if start < low then (start, low - 1) :: gaps (high + 1) rest else gaps (high + 1) rest

/-- The characters that do not lie in a table. -/
def compl (table : Ranges) : Ranges := inter scalars (gaps 0 table)

end Ranges

end Packrat.Text
