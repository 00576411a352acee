import Packrat.Text.Bytes
import Packrat.Pattern.CharSet

/-!
# Room of an automaton

Counted repetition lets a short pattern stand for a very long one, so patterns are weighed by the
automaton over bytes that they stand for. The automaton is not laid out: what counts is how many
states it has and how much room they take up. Every state takes up thirty-two bytes, a branch of a
choice four more, and a link by a range of bytes eight more where a state may have several.

A set of characters beyond ASCII is a tree of ranges of bytes. States of such a tree that lead to
the same place by the same ranges are laid out once as far as they are remembered. The memory has a
fixed number of places; a state that falls on a place already taken drives out the one before it.
-/

namespace Packrat

/-- The room that an automaton takes up: the number of its states, which are numbered in order, and
the bytes that they take up besides their own. -/
structure Room where
  states : Nat
  extra : Nat
deriving DecidableEq

namespace Room

/-- The room of a state. -/
def perState : Nat := 32

/-- The room of a branch of a choice. -/
def perBranch : Nat := 4

/-- The room of a link by a range of bytes. -/
def perLink : Nat := 8

/-- The most that an automaton may take up: ten mebibytes. -/
def limit : Nat := 10 * 1024 * 1024

/-- No room. -/
def none : Room := ⟨0, 0⟩

/-- The room in bytes. -/
def bytes (r : Room) : Nat := perState * r.states + r.extra

/-- Whether the room is within the limit. -/
def fits (r : Room) : Bool := r.bytes ≤ limit

/-- The room with more states. -/
def withStates (r : Room) (n : Nat) : Room := { r with states := r.states + n }

/-- The room with more branches. -/
def withBranches (r : Room) (n : Nat) : Room := { r with extra := r.extra + perBranch * n }

/-- The room with more links. -/
def withLinks (r : Room) (n : Nat) : Room := { r with extra := r.extra + perLink * n }

/-- What two rooms take up together. -/
def add (r s : Room) : Room := ⟨r.states + s.states, r.extra + s.extra⟩

/-- The room after `n` turns of laying something out, or after the first of them that goes beyond
the limit. -/
def turns (layOut : Room → Room) : (n : Nat) → Room → Room
  | 0, r => r
  | n + 1, r => if r.fits then turns layOut n (layOut r) else r

end Room

/-- In which direction the automaton reads a text. It reads forward to find the end of a match, and
backward from there to find the beginning. -/
inductive Direction where
  | forward
  | backward
deriving DecidableEq

/-! ## Memory of states -/

/-- Memory of the states laid out so far, each with the numbers that describe it, in a fixed number
of places. -/
structure Recall where
  places : Array (Option (List Nat × Nat))

namespace Recall

/-- Memory with a number of places, all free. -/
def new (places : Nat) : Recall := ⟨Array.replicate places none⟩

/-- One more number mixed into a word. -/
def mix (word : UInt64) (n : Nat) : UInt64 := (word ^^^ n.toUInt64) * 1099511628211

/-- The place of a state with the given description. -/
def place (m : Recall) (key : List Nat) : Nat :=
  (key.foldl mix 14695981039346656037 % m.places.size.toUInt64).toNat

/-- The number of the state with the given description, if it is remembered. -/
def find? (m : Recall) (key : List Nat) : Option Nat :=
  match (m.places[m.place key]?).join with
  | some (known, state) => if known = key then some state else none
  | none => none

/-- Remembers a state. -/
def insert (m : Recall) (key : List Nat) (state : Nat) : Recall :=
  ⟨m.places.setIfInBounds (m.place key) (some (key, state))⟩

end Recall

/-- The room of an automaton in which states are remembered. -/
structure Layout where
  room : Room
  known : Recall

/-- The number of the state with the given description, laid out unless it is remembered. -/
def Layout.state (l : Layout) (key : List Nat) (links : Nat) : Nat × Layout :=
  match l.known.find? key with
  | some state => (state, l)
  | none =>
    (l.room.states,
      ⟨(l.room.withStates 1).withLinks links, l.known.insert key l.room.states⟩)

/-! ## Sets of characters -/

namespace Layout

/-- Lays out a path that is read backward: a state for each range of bytes, each leading to the
state of the byte before it and the first to `target`. What is remembered are the ranges together
with where they lead to. -/
def backward (l : Layout) (target : Nat) : (path : List (Nat × Nat)) → Layout
  | [] => { l with room := l.room.withBranches 1 }
  | (low, high) :: path =>
    let (state, l) := l.state [target, low, high] 0
    l.backward state path

/-- Lays out the tree of paths that are read forward, down to a depth, and gives back the number of
its root: paths with the same first range share the link by that range. What is remembered are all
links of a state. -/
def forward (target : Nat) : (depth : Nat) → (paths : List (List (Nat × Nat))) → Layout →
    Nat × Layout
  | 0, _, l => (target, l)
  | depth + 1, paths, l =>
    let blocks := (paths.filter (!·.isEmpty)).splitBy fun a b => a.head? == b.head?
    if blocks.isEmpty then (target, l)
    else
      let (key, l) := blocks.foldl (fun (key, l) block =>
        let (next, l) := forward target depth (block.map List.tail) l
        let (low, high) := (block.head?.bind List.head?).getD (0, 0)
        (next :: high :: low :: key, l)) ([], l)
      l.state key.reverse blocks.length

end Layout

/-- The room after a set of characters has been laid out. The sets of ASCII characters have two
states. -/
def CharSet.layOut (d : Direction) (set : CharSet) (r : Room) : Room :=
  if set.isAscii then (r.withStates 2).withLinks set.ranges.length
  else
    let paths := set.ranges.bytePaths
    match d with
    | .forward =>
      (Layout.forward r.states 4 paths ⟨r.withStates 1, .new 10000⟩).2.room
    | .backward =>
      (paths.foldl (Layout.backward · (r.states + 1) ·) ⟨r.withStates 2, .new 1000⟩).room

/-! ## Literals among which one is chosen -/

/-- The words at a node of a tree of words, parted where a word ends at the node. Words that end
there before any other word begins count once. -/
def wordBlocks (words : List (List Nat)) : List (List (List Nat)) :=
  match words with
  | [] :: rest => [] :: blocks (rest.dropWhile List.isEmpty)
  | words => blocks words
where
  /-- The words between those that end. -/
  blocks : List (List Nat) → List (List (List Nat))
    | [] => [[]]
    | [] :: rest => [] :: blocks rest
    | word :: rest =>
      match blocks rest with
      | [] => [[word]]
      | block :: more => (word :: block) :: more

/-- The room of a tree of words below a node, down to a depth. A node at which words go on is a
choice among its blocks, and each block a state with a link for each byte with which its words go
on; a state with just one link takes up no room for it. -/
def wordRoom : (depth : Nat) → (words : List (List Nat)) → Room
  | 0, _ => .none
  | depth + 1, words =>
    if words.all List.isEmpty then .none
    else
      let blocks := wordBlocks words
      let full := blocks.filter (!·.isEmpty)
      let node := ⟨1 + full.length, Room.perBranch * (full.length + (blocks.length - 1))⟩
      full.foldl (fun room block =>
        let firsts := (block.filterMap List.head?).eraseDups
        let room := if firsts.length = 1 then room else room.withLinks firsts.length
        firsts.foldl (fun room first =>
          room.add (wordRoom depth (block.filterMap fun word =>
            if word.head? = some first then some word.tail else none))) room) node

/-- The room of a choice among literals: the tree of their bytes, which are read in the order of the
direction, and its end. -/
def literalsRoom (d : Direction) (literals : List (List Char)) : Room :=
  let words := literals.map fun chars =>
    let bytes := chars.flatMap fun c => Text.bytesOf c.toNat
    match d with
    | .forward => bytes
    | .backward => bytes.reverse
  (wordRoom ((words.map List.length).foldl max 0) words).withStates 1

end Packrat
