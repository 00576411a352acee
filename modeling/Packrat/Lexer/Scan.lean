import Packrat.Lexer.Definition
import Packrat.Lexer.Token
import Packrat.Text.Listing

/-!
# Scanning

A tokenizer cuts a text into tokens. At each step every definition reports its first match at or
after the position; the match that starts earliest wins, and of those that start together the one of
the definition listed first. The scan goes on where the winner ends, or one character past its start
if it took up nothing.

A match that did not win stays good until the position passes its start, so `Tokenizer.scan` keeps
it and searches again only for the definitions whose match is used up. `Tokenizer.plainScan` says
the same without keeping anything. What no token covers are the gaps.
-/

namespace Packrat

/-- The match that starts earliest, the first of those that start together, with its place in the
list and its label. -/
def earliest {α : Type} : List (α × Option Hit) → Option (Nat × α × Hit)
  | [] => none
  | (a, hit?) :: rest =>
    match hit?, earliest rest with
    | none, none => none
    | none, some (i, b, other) => some (i + 1, b, other)
    | some hit, none => some (0, a, hit)
    | some hit, some (i, b, other) =>
      if other.start.offset < hit.start.offset then some (i + 1, b, other) else some (0, a, hit)

/-- What is known of the next match of a definition. -/
inductive Pending where
  /-- Nothing: it has not been searched for, or has been used up. -/
  | stale
  /-- It is this one, as long as the scan has not passed its start. -/
  | found (hit : Hit)
  /-- There is none from the last search on. -/
  | exhausted

/-- What a search has found. -/
def Pending.ofHit? : Option Hit → Pending
  | none => .exhausted
  | some hit => .found hit

/-- The match that is known. -/
def Pending.hit? : Pending → Option Hit
  | .found hit => some hit
  | _ => none

variable {K : Type}

/-- A definition with what is known of its next match. -/
structure Lane (K : Type) where
  definition : Definition K
  pending : Pending

namespace Lane

/-- The lane with its next match at or after a position known. -/
def refresh (c : Cursor) (lane : Lane K) : Lane K :=
  match lane.pending with
  | .exhausted => lane
  | .stale => { lane with pending := .ofHit? (lane.definition.find c) }
  | .found hit =>
    if c.offset ≤ hit.start.offset then lane
    else { lane with pending := .ofHit? (lane.definition.find c) }

/-- The lane once its match is used up. -/
def use (lane : Lane K) : Lane K := { lane with pending := .stale }

/-- The tag of the lane with the match that is known. -/
def candidate (lane : Lane K) : K × Option Hit := (lane.definition.tag, lane.pending.hit?)

end Lane

/-- The token of a match. -/
def Hit.token (hit : Hit) (tag : K) : Token K := ⟨tag, hit.span, hit.start.lexeme hit.length⟩

namespace Tokenizer

/-- The tokens from a position on, put after those found so far, with the matches known in each
lane. -/
def scanFrom : (fuel : Nat) → List (Lane K) → Cursor → Array (Token K) → Array (Token K)
  | 0, _, _, tokens => tokens
  | fuel + 1, lanes, cursor, tokens =>
    let lanes := lanes.map (Lane.refresh cursor)
    match earliest (lanes.map Lane.candidate) with
    | none => tokens
    | some (i, tag, hit) =>
      let tokens := tokens.push (hit.token tag)
      let next := hit.resume
      if next.rest.isEmpty then tokens
      else scanFrom fuel (lanes.modify i Lane.use) next tokens

/-- The tokens of a text. Every step but the last passes a character, which bounds their number. -/
def scan (t : Tokenizer K) (text : String) : Array (Token K) :=
  let cursor := Cursor.start text
  scanFrom (cursor.rest.length + 1) (t.definitions.map (⟨·, .stale⟩)) cursor #[]

/-- The tokens from a position on, put after those found so far, every definition searched afresh
at every step. -/
def plainScanFrom (definitions : List (Definition K)) :
    (fuel : Nat) → Cursor → Array (Token K) → Array (Token K)
  | 0, _, tokens => tokens
  | fuel + 1, cursor, tokens =>
    match earliest (definitions.map fun d => (d.tag, d.find cursor)) with
    | none => tokens
    | some (_, tag, hit) =>
      let tokens := tokens.push (hit.token tag)
      let next := hit.resume
      if next.rest.isEmpty then tokens else plainScanFrom definitions fuel next tokens

/-- The tokens of a text by a scan that keeps nothing from one step to the next. -/
def plainScan (t : Tokenizer K) (text : String) : Array (Token K) :=
  let cursor := Cursor.start text
  plainScanFrom t.definitions (cursor.rest.length + 1) cursor #[]

end Tokenizer

/-- The parts of `covered..total` that none of the spans covers, the spans being in order of their
starts. -/
def gapsFrom (total covered : Nat) : List Span → List Span
  | [] => if covered < total then [.between covered total] else []
  | s :: rest =>
    if covered < s.start then
      .between covered s.start :: gapsFrom total (max covered s.stop) rest
    else gapsFrom total (max covered s.stop) rest

/-- The tokens of a text and the spans that none of them covers. -/
structure Scan (K : Type) where
  tokens : Array (Token K)
  gaps : List Span

/-- Cuts a text into tokens and gaps. -/
def Tokenizer.tokenize (t : Tokenizer K) (text : String) : Scan K :=
  let tokens := t.scan text
  ⟨tokens, gapsFrom text.utf8ByteSize 0 (tokens.toList.map (·.span))⟩

namespace Scan

/-- Whether the tokens cover the text. -/
def succeeded (s : Scan K) : Bool := s.gaps.isEmpty

/-- The tokens that do not carry a tag. -/
def without [DecidableEq K] (s : Scan K) (tag : K) : Array (Token K) :=
  s.tokens.filter (·.tag ≠ tag)

/-- The written form of a scan. -/
def written [ToString K] (s : Scan K) : String :=
  Text.record "TokenizationResult"
    [("tokens", Text.listing (s.tokens.toList.map Token.written)),
     ("unmatched", Text.listing (s.gaps.map Span.text))]

end Scan

end Packrat
