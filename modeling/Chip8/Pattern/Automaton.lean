import Chip8.Pattern.Bytes
import Std.Data.HashMap

/-!
The room that an automaton takes.

States are numbered in the order in which they are made. Each takes a fixed number of bytes, and
those with a list of transitions or of alternatives take more for each entry. A state that is a
choice gets one more alternative when something is attached to it.

The states for characters of several bytes are shared within a set. What has been made is remembered
in a table with a fixed number of slots; two states whose slots collide push each other out, and a
state that has been pushed out is made again.
-/
namespace Chip8

/-- How many states there are, and how many bytes their lists take. -/
structure Tally where
  states : Nat := 0
  listBytes : Nat := 0
  deriving DecidableEq, Repr

namespace Tally

/-- Number of bytes that a state takes. -/
def stateBytes : Nat := 32

/-- Number of bytes that a transition in a list takes. -/
def transitionBytes : Nat := 8

/-- Number of bytes that an alternative in a list takes. -/
def alternativeBytes : Nat := 4

def bytes (tally : Tally) : Nat := stateBytes * tally.states + tally.listBytes

def withStates (tally : Tally) (count : Nat) : Tally :=
  { tally with states := tally.states + count }

def withTransitions (tally : Tally) (count : Nat) : Tally :=
  { tally with listBytes := tally.listBytes + count * transitionBytes }

def withAlternatives (tally : Tally) (count : Nat) : Tally :=
  { tally with listBytes := tally.listBytes + count * alternativeBytes }

end Tally

/-- The states made so far, and whether the last of a part is a choice. -/
structure Built where
  tally : Tally
  endsInChoice : Bool := false
  deriving DecidableEq, Repr

namespace Built

/-- The states after something has been attached to the end of a part. -/
def attached (built : Built) : Tally :=
  if built.endsInChoice then built.tally.withAlternatives 1 else built.tally

end Built

/-! ### Tables -/

/-- What is remembered: the latest key and state of each slot. -/
abbrev SlotTable (κ : Type) := Std.HashMap Nat (κ × Nat)

namespace SlotTable

def mixed (numbers : List Nat) : UInt64 :=
  numbers.foldl (fun mix number => (mix ^^^ UInt64.ofNat number) * 1099511628211)
    14695981039346656037

/-- The state remembered under a key, if its slot still holds it. -/
def find? {κ : Type} [DecidableEq κ] (table : SlotTable κ) (slot : Nat) (key : κ) : Option Nat :=
  match table.get? slot with
  | some (held, state) => if held = key then some state else none
  | none => none

end SlotTable

/-! ### Sets read backward -/

/-- The blocks of a set read backward: a transition to what follows, over a range of bytes. -/
structure BackwardLink where
  follower : Nat
  range : ByteRange
  deriving DecidableEq, Repr

namespace BackwardLink

def slots : Nat := 1000

def slot (link : BackwardLink) : Nat :=
  (SlotTable.mixed [link.follower, link.range.low, link.range.high]).toNat % slots

/-- Makes the states for a block, from the state that ends the set. -/
def build : List ByteRange → (follower : Nat) → Tally × SlotTable BackwardLink →
    Tally × SlotTable BackwardLink
  | [], _, made => made
  | range :: rest, follower, (tally, table) =>
    let link : BackwardLink := ⟨follower, range⟩
    match table.find? link.slot link with
    | some state => build rest state (tally, table)
    | none =>
      build rest tally.states (tally.withStates 1, table.insert link.slot (link, tally.states))

end BackwardLink

/-- Makes the states for a set read backward: a choice, an end, and the blocks between them. -/
def CharSet.buildBackward (set : CharSet) (tally : Tally) : Tally :=
  let stop := tally.states + 1
  let (tally, _) := set.blocks.foldl
    (fun made block =>
      let (tally, table) := BackwardLink.build block stop made
      (tally.withAlternatives 1, table))
    (tally.withStates 2, ∅)
  tally

/-! ### Sets read forward -/

/-- A transition to a state, over a range of bytes. -/
structure ForwardLink where
  range : ByteRange
  follower : Nat
  deriving DecidableEq, Repr

/-- A state in the making: its transitions, and the range of the one whose goal is still open. -/
structure Draft where
  links : List ForwardLink := []
  openRange : Option ByteRange := none
  deriving DecidableEq, Repr

namespace Draft

def slots : Nat := 10000

def slot (links : List ForwardLink) : Nat :=
  let numbers := links.flatMap fun link => [link.range.low, link.range.high, link.follower]
  (SlotTable.mixed numbers).toNat % slots

/-- Gives the open transition a goal. -/
def closed (draft : Draft) (follower : Nat) : Draft where
  links := draft.links ++ draft.openRange.toList.map fun range => ⟨range, follower⟩

/-- The states made and remembered. -/
abbrev Made := Tally × SlotTable (List ForwardLink)

/-- Makes the state with some transitions, unless there is one already, and answers it. -/
def finish (links : List ForwardLink) : Made → Nat × Made
  | (tally, table) =>
    match table.find? (slot links) links with
    | some state => (state, tally, table)
    | none =>
      (tally.states, (tally.withStates 1).withTransitions links.length,
        table.insert (slot links) (links, tally.states))

/-- Makes the states of drafts, each of which leads to the next and the last to `stop`; answers the
first. -/
def finishAll (stop : Nat) : List Draft → Made → Nat × Made
  | [], made => (stop, made)
  | draft :: rest, made =>
    let (follower, made) := finishAll stop rest made
    finish (draft.closed follower).links made

/-- The drafts for the rest of a block, which the last draft that stays leads to. -/
def opened : Draft → List ByteRange → List Draft
  | draft, [] => [draft]
  | draft, range :: rest =>
    { draft with openRange := some range } :: rest.map fun range => { openRange := some range }

/-- Adds a block to the drafts. Those that lead over the same ranges stay; the states of the others
are made. -/
def add (stop : Nat) : List Draft → List ByteRange → Made → List Draft × Made
  | draft :: rest, range :: ranges, made =>
    if draft.openRange = some range then
      let (drafts, made) := add stop rest ranges made
      (draft :: drafts, made)
    else
      let (follower, made) := finishAll stop rest made
      (opened (draft.closed follower) (range :: ranges), made)
  | drafts, _, made => (drafts, made)

end Draft

/-- Makes the states for a set read forward: an end, and the blocks before it. -/
def CharSet.buildForward (set : CharSet) (tally : Tally) : Tally :=
  let stop := tally.states
  let made : Draft.Made := (tally.withStates 1, ∅)
  let (drafts, made) := set.blocks.foldl
    (fun (drafts, made) block => Draft.add stop drafts block made) ([{}], made)
  (Draft.finishAll stop drafts made).2.1

/-- Makes the states for a set. Those of ASCII characters are transitions of one state. -/
def CharSet.build (set : CharSet) (backward : Bool) (tally : Tally) : Tally :=
  if set.isPlain then (tally.withStates 2).withTransitions set.ranges.length
  else if backward then set.buildBackward tally
  else set.buildForward tally

end Chip8
