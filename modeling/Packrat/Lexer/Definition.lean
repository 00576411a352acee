import Packrat.Span
import Packrat.Pattern.Match
import Packrat.Pattern.Reader
import Packrat.Pattern.Weight

/-!
# Definitions of tokens

A definition pairs a tag with what recognises it; a tokenizer is a list of definitions in order of
priority. `Definition.find` searches a text for the first match of a definition.

What recognises is a matcher: it says of a position of a text whether there is a match and how long
it is. The program of a pattern is one (`Program.matcher`), but nothing else is asked of a matcher
than that its matches end at positions of the text.
-/

namespace Packrat

/-- What recognises a token: how many bytes the match at a position takes up, if there is one. All
of the text may be looked at, before the position and behind it. A match ends at a position. -/
structure Matcher where
  matchAt : Cursor → Option Nat
  ends : ∀ {c n}, matchAt c = some n → ∃ d, c.Leads d ∧ d.offset = c.offset + n

/-- A program recognises what it matches. -/
def Program.matcher (p : Program) : Matcher := ⟨p.matchAt, p.matchAt_ends⟩

/-- A tag with what recognises it, as it was written and as it is run. -/
structure Definition (K : Type) where
  tag : K
  source : String
  matcher : Matcher

/-- A match of a pattern: where it starts and how many bytes it takes up. -/
structure Hit where
  start : Cursor
  length : Nat

namespace Hit

/-- The bytes that the match takes up. -/
def span (h : Hit) : Span := ⟨h.start.offset, h.length⟩

/-- Where a search goes on after the match: at its end, or one character past its start if it took
up nothing. -/
def resume (h : Hit) : Cursor := if h.length = 0 then h.start.next else h.start.advance h.length

end Hit

/-- The first match at or after a position of a text. -/
def Matcher.searchFrom (m : Matcher) (offset : Nat) (passed : List Char) :
    List Char → Option Hit
  | [] => (m.matchAt ⟨offset, passed, []⟩).map (⟨⟨offset, passed, []⟩, ·⟩)
  | c :: rest =>
    match m.matchAt ⟨offset, passed, c :: rest⟩ with
    | some length => some ⟨⟨offset, passed, c :: rest⟩, length⟩
    | none => m.searchFrom (offset + c.utf8Size) (c :: passed) rest

/-- Why a list of definitions makes no tokenizer. -/
inductive LexerError (K : Type) where
  | noDefinitions
  | invalidPattern (tag : K)

/-- What there is to say about an error; the wording for a pattern is left to its reader. -/
def LexerError.message? {K : Type} : LexerError K → Option String
  | .noDefinitions => some "expected at least one token definition"
  | .invalidPattern _ => none

/-- Definitions in order of priority, at least one. -/
structure Tokenizer (K : Type) where
  definitions : List (Definition K)
  nonempty : definitions ≠ []

variable {K : Type}

namespace Definition

/-- The definition of a tag by a pattern. -/
def ofPattern (tag : K) (source : String) (pattern : Pattern) : Definition K :=
  ⟨tag, source, pattern.program.matcher⟩

/-- The definition of a tag by the written form of a pattern, which must not be too heavy. -/
def read (tag : K) (source : String) : Except (LexerError K) (Definition K) :=
  match (Pattern.read? source).filter Pattern.isLight with
  | some pattern => .ok (ofPattern tag source pattern)
  | none => .error (.invalidPattern tag)

/-- The first match of the definition at or after a position. -/
def find (d : Definition K) (c : Cursor) : Option Hit :=
  d.matcher.searchFrom c.offset c.passed c.rest

end Definition

namespace Tokenizer

/-- The tokenizer with the given definitions; there has to be one. -/
def ofDefinitions : List (Definition K) → Except (LexerError K) (Tokenizer K)
  | [] => .error .noDefinitions
  | d :: rest => .ok ⟨d :: rest, by simp⟩

/-- Reads definitions in order, up to the first that is no pattern. -/
def readAll : List (K × String) → Except (LexerError K) (List (Definition K))
  | [] => .ok []
  | (tag, source) :: rest =>
    match Definition.read tag source with
    | .error e => .error e
    | .ok d =>
      match readAll rest with
      | .error e => .error e
      | .ok ds => .ok (d :: ds)

/-- The tokenizer with the given tags and written patterns. An invalid pattern is reported before
the want of definitions. -/
def ofPatterns (patterns : List (K × String)) : Except (LexerError K) (Tokenizer K) :=
  match readAll patterns with
  | .error e => .error e
  | .ok ds => ofDefinitions ds

end Tokenizer

end Packrat
