import Chip8.Pattern.Automaton
import Chip8.Pattern.Normal

/-!
The size of the automaton for a pattern.

An automaton reads a text forward or backward; a pattern that is read backward keeps no group apart.
The parts of a pattern are built in order. A repetition is a copy of its body for each pass that it
counts, so building ends as soon as there is more than is allowed.
-/
namespace Chip8.Pattern

def maxBytes : Nat := 10485760

/-! ### Choices between literals -/

/-- What a state of a tree of literals stands for: the literals that go on from there, in order,
with an empty one for each that ends there. -/
abbrev Endings := List (List Nat)

/-- The first bytes of literals, each once. -/
def firstBytes (endings : Endings) : List Nat := (endings.filterMap List.head?).eraseDups

/-- Cuts literals where one ends. The ends before any literal that goes on count as one. -/
def chunks (endings : Endings) : List Endings :=
  match endings with
  | [] :: rest => [] :: cut (rest.dropWhile List.isEmpty)
  | endings => cut endings
where
  cut : Endings → List Endings
    | [] => [[]]
    | [] :: rest => [] :: cut rest
    | ending :: rest =>
      match cut rest with
      | [] => [[ending]]
      | first :: others => (ending :: first) :: others

/-- Makes the states of a tree of literals that are at most `limit` bytes long. A state that leads
on is a choice between the ends and the stretches of literals between them, each of which has a
transition for every first byte. -/
def buildTree : (limit : Nat) → Endings → Tally → Tally
  | 0, _, tally => tally
  | limit + 1, endings, tally =>
    if endings.all List.isEmpty then tally
    else
      let parts := chunks endings
      let tally := parts.foldl (fun tally part =>
        let first := firstBytes part
        let tally := first.foldl (fun tally byte =>
          buildTree limit ((part.filter fun ending => ending.head? == some byte).map List.tail)
            tally) tally
        match first.length with
        | 0 => tally
        | 1 => (tally.withStates 1).withAlternatives 1
        | count => ((tally.withStates 1).withTransitions count).withAlternatives 1) tally
      (tally.withStates 1).withAlternatives (parts.length - 1)

def bytesOfText (text : List Char) : List Nat := text.flatMap fun c => CharRange.bytesOf c.toNat

/-- The bytes of a literal, in the order in which they are read. -/
def literalBytes? (backward : Bool) : Pattern → Option (List Nat)
  | literal text =>
    some (if backward then (bytesOfText text).reverse else bytesOfText text)
  | _ => none

/-- Makes the states of a choice between literals. -/
def buildLiterals (literals : List (List Nat)) (tally : Tally) : Tally :=
  let limit := (literals.map List.length).foldl max 0
  buildTree (limit + 1) literals (tally.withStates 1)

/-! ### Copies -/

/-- Attaches copies of a part. -/
def copies (build : Tally → Built) : (count : Nat) → Built → Built
  | 0, built => built
  | count + 1, built =>
    if maxBytes < built.tally.bytes then built else copies build count (build built.attached)

/-- Makes a part a number of times in a row; none at all is a state of its own. -/
def buildExactly (build : Tally → Built) (tally : Tally) : (count : Nat) → Built
  | 0 => ⟨tally.withStates 1, false⟩
  | count + 1 => copies build count (build tally)

/-- Attaches copies of a part that may each be passed over: a choice comes before each. -/
def optionalCopies (build : Tally → Built) : (count : Nat) → Built → Built
  | 0, built => built
  | count + 1, built =>
    if maxBytes < built.tally.bytes then built
    else
      let next := build (built.tally.withStates 1)
      let tally := if built.endsInChoice then next.tally.withAlternatives 1 else next.tally
      optionalCopies build count ⟨tally.withAlternatives 2, next.endsInChoice⟩

/-- Makes a repetition of a part. `moves` says whether every pass moves on. -/
def buildRepeated (build : Tally → Built) (moves : Bool) (tally : Tally) :
    (low : Nat) → (high : Option Nat) → Built
  | 0, some 1 =>
    let body := build (tally.withStates 1)
    ⟨(body.attached.withStates 1).withAlternatives 2, false⟩
  | 0, none =>
    if moves then
      let body := build (tally.withStates 1)
      ⟨body.attached.withAlternatives 1, true⟩
    else
      let body := build tally
      ⟨(body.attached.withStates 3).withAlternatives 4, false⟩
  | low + 1, none =>
    let before := copies build low (build tally)
    ⟨(before.attached.withStates 1).withAlternatives 1, true⟩
  | low, some high =>
    let required := buildExactly build tally low
    if high ≤ low then required
    else
      let optional := optionalCopies build (high - low)
        { required with tally := required.tally.withStates 1 }
      ⟨optional.attached, false⟩

/-! ### Patterns -/

mutual

def build (backward : Bool) : Pattern → Tally → Built
  | empty, tally => ⟨tally.withStates 1, false⟩
  | literal text, tally => ⟨tally.withStates (bytesOfText text).length, false⟩
  | one set _, tally => ⟨set.build backward tally, false⟩
  | anchor .., tally => ⟨tally.withStates 1, false⟩
  | repeated low high _ body, tally =>
    let moves := body.fewestBytes?.any (0 < ·)
    buildRepeated (fun tally => body.build backward tally) moves tally low high
  | group _ body, tally =>
    if backward then body.build backward tally
    else
      let body := body.build backward (tally.withStates 1)
      ⟨body.attached.withStates 1, false⟩
  | row items, tally =>
    if backward then buildRowBackward items tally
    else (buildRow items ⟨tally, false⟩)
  | choice branches, tally =>
    match branches.mapM (literalBytes? backward) with
    | some literals => ⟨buildLiterals literals tally, false⟩
    | none => ⟨buildBranches backward 0 branches tally, false⟩

def buildRow : List Pattern → Built → Built
  | [], built => built
  | item :: rest, built => buildRow rest (item.build false built.attached)

/-- Makes the states of patterns in a row that is read backward. -/
def buildRowBackward : List Pattern → Tally → Built
  | [], tally => ⟨tally, false⟩
  | item :: rest, tally => item.build true (buildRowBackward rest tally).attached

/-- Makes the states of the branches of a choice, of which `made` come before. The choice and its
end are made after the second. -/
def buildBranches (backward : Bool) (made : Nat) : List Pattern → Tally → Tally
  | [], tally => tally
  | branch :: rest, tally =>
    let tally := (branch.build backward tally).attached.withAlternatives 1
    let tally := if made = 1 then tally.withStates 2 else tally
    buildBranches backward (made + 1) rest tally

end

/-- Makes the whole automaton: a loop that looks for a place to start, unless there is only one; the
pattern, as a group if it is read forward; and a state for success. -/
def automaton (backward : Bool) (pattern : Pattern) : Tally :=
  let isFixed := pattern.isHeldBy (if backward then .textEnd else .textStart) backward
  let start : Tally := if isFixed then Tally.withStates {} 1
    else ((Tally.withStates {} 3).withTransitions 1).withAlternatives 2
  let body := if backward then pattern.build backward start
    else (group 0 pattern).build backward start
  body.attached.withStates 1

/-- Whether an automaton takes too much room. -/
def isTooLarge (backward : Bool) (pattern : Pattern) : Bool :=
  maxBytes < (pattern.automaton backward).bytes

end Chip8.Pattern
