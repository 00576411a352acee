import Packrat.Span
import Packrat.Text.Quoted

/-!
# Tokens

A token is a tagged piece of a text: its tag, the bytes it takes up and the characters in them.
-/

namespace Packrat

/-- A tagged piece of a text. -/
structure Token (K : Type) where
  tag : K
  span : Span
  text : String
deriving DecidableEq

namespace Token

variable {K : Type}

/-- The characters in `take` bytes after the first `skip` bytes, put after what has been read; there
are none if an end falls inside a character or beyond the text. -/
def slice? (read : String) : (skip take : Nat) → List Char → Option String
  | 0, 0, _ => some read
  | 0, _ + 1, [] => none
  | 0, take + 1, c :: rest =>
    if c.utf8Size ≤ take + 1 then slice? (read.push c) 0 (take + 1 - c.utf8Size) rest else none
  | _ + 1, _, [] => none
  | skip + 1, take, c :: rest =>
    if c.utf8Size ≤ skip + 1 then slice? read (skip + 1 - c.utf8Size) take rest else none

/-- The token that takes up the given bytes of a source. Its text is empty if an end of the span
falls inside a character. -/
def cut (source : String) (tag : K) (span : Span) : Token K :=
  ⟨tag, span, (slice? "" span.start span.length source.toList).getD ""⟩

/-- The written form `TAG@START+LENGTH "text"`. -/
def written [ToString K] (t : Token K) : String :=
  toString t.tag ++ "@" ++ t.span.text ++ " " ++ Text.quote t.text

end Token

end Packrat
