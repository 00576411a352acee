import Packrat.Text.Ranges

/-!
# White space

The characters with the Unicode property `White_Space`. They separate the words of grammar text and
are what `\s` stands for in a pattern.
-/

namespace Packrat.Text

/-- The code points with the property `White_Space`. -/
def blankRanges : Ranges :=
  [(0x9, 0xd), (0x20, 0x20), (0x85, 0x85), (0xa0, 0xa0), (0x1680, 0x1680), (0x2000, 0x200a),
   (0x2028, 0x2029), (0x202f, 0x202f), (0x205f, 0x205f), (0x3000, 0x3000)]

/-- Whether a character is white space. -/
def isBlank (c : Char) : Bool := Ranges.holds c.toNat blankRanges

/-- Whether a text holds nothing but white space. -/
def allBlank (text : String) : Bool := text.toList.all isBlank

end Packrat.Text
