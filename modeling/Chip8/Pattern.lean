import Chip8.Pattern.Anchor
import Chip8.Pattern.CharSet

namespace Chip8

/-- What a text has to look like. -/
inductive Pattern where
  | empty
  | literal (text : List Char)
  -- One character of a set. `ofBytes` tells the sets of bytes from those of characters.
  | one (set : CharSet) (ofBytes : Bool)
  -- A condition on a place. `ofScripts` says whether it speaks of the words of all scripts.
  | anchor (anchor : Anchor) (ofScripts : Bool)
  -- At least `low` times in a row, and at most `high` times if there is such a bound. A greedy
  -- repetition prefers many passes; this does not change where a pattern occurs.
  | repeated (low : Nat) (high : Option Nat) (greedy : Bool) (body : Pattern)
  | group (number : Nat) (body : Pattern)
  | row (items : List Pattern)
  | choice (branches : List Pattern)
  deriving Repr

namespace Pattern

mutual

def sameAs : Pattern → Pattern → Bool
  | empty, empty => true
  | literal text, literal text' => text == text'
  | one set ofBytes, one set' ofBytes' => set == set' && ofBytes == ofBytes'
  | anchor condition ofScripts, anchor condition' ofScripts' =>
    condition == condition' && ofScripts == ofScripts'
  | repeated low high greedy body, repeated low' high' greedy' body' =>
    low == low' && high == high' && greedy == greedy' && body.sameAs body'
  | group number body, group number' body' => number == number' && body.sameAs body'
  | row items, row items' => allSame items items'
  | choice branches, choice branches' => allSame branches branches'
  | _, _ => false

/-- Whether the patterns of two lists are built alike, one by one. -/
def allSame : List Pattern → List Pattern → Bool
  | [], [] => true
  | first :: rest, first' :: rest' => first.sameAs first' && allSame rest rest'
  | _, _ => false

end

mutual

/-- Number of parts, the pattern itself included. -/
def partCount : Pattern → Nat
  | empty | literal _ | one .. | anchor .. => 1
  | repeated _ _ _ body | group _ body => body.partCount + 1
  | row items | choice items => partCountAll items + 1

def partCountAll : List Pattern → Nat
  | [] => 0
  | first :: rest => first.partCount + partCountAll rest

end

def bytesOfCode (code : Nat) : Nat := (Char.ofNat code).utf8Size

mutual

/-- Fewest bytes of a fitting text. There are none if an empty set stands in the pattern's way, or
in the way of one of its branches. -/
def fewestBytes? : Pattern → Option Nat
  | empty | anchor .. => some 0
  | literal text => some (text.map Char.utf8Size).sum
  | one set _ => set.ranges.head?.map fun range => bytesOfCode range.low
  | repeated low _ _ body => body.fewestBytes?.map (low * ·)
  | group _ body => body.fewestBytes?
  | row items => fewestBytesOfRow? items
  | choice branches => fewestBytesOfChoice? branches

def fewestBytesOfRow? : List Pattern → Option Nat
  | [] => some 0
  | first :: rest => do return (← first.fewestBytes?) + (← fewestBytesOfRow? rest)

/-- Fewest bytes of a text that fits one of some patterns. -/
def fewestBytesOfChoice? : List Pattern → Option Nat
  | [] => none
  | [branch] => branch.fewestBytes?
  | branch :: rest => do return min (← branch.fewestBytes?) (← fewestBytesOfChoice? rest)

end

mutual

/-- Most bytes of a fitting text, if there is such a bound. -/
def mostBytes? : Pattern → Option Nat
  | empty | anchor .. => some 0
  | literal text => some (text.map Char.utf8Size).sum
  | one set _ => set.ranges.getLast?.map fun range => bytesOfCode range.high
  | repeated _ high _ body => do return (← high) * (← body.mostBytes?)
  | group _ body => body.mostBytes?
  | row items => mostBytesOfRow? items
  | choice branches => mostBytesOfChoice? branches

def mostBytesOfRow? : List Pattern → Option Nat
  | [] => some 0
  | first :: rest => do return (← first.mostBytes?) + (← mostBytesOfRow? rest)

def mostBytesOfChoice? : List Pattern → Option Nat
  | [] => none
  | [branch] => branch.mostBytes?
  | branch :: rest => do return max (← branch.mostBytes?) (← mostBytesOfChoice? rest)

end

mutual

/-- Whether a condition on the characters of all scripts occurs. -/
def needsScripts : Pattern → Bool
  | anchor _ ofScripts => ofScripts
  | repeated _ _ _ body | group _ body => body.needsScripts
  | row items | choice items => anyNeedsScripts items
  | _ => false

/-- Whether a condition on the characters of all scripts occurs in one of some patterns. -/
def anyNeedsScripts : List Pattern → Bool
  | [] => false
  | first :: rest => first.needsScripts || anyNeedsScripts rest

end

mutual

/-- Whether every fitting text has to start where a condition holds or, read backward, to end
there. -/
def isHeldBy (condition : Anchor) (backward : Bool) : Pattern → Bool
  | anchor other _ => other == condition
  | repeated low _ _ body => 0 < low && body.isHeldBy condition backward
  | group _ body => body.isHeldBy condition backward
  | row items => (holdOnRow condition backward items).1
  | choice branches => areHeldBy condition backward branches
  | _ => false

/-- Whether a row is held by a condition, and whether it fits no characters at all. It is held if an
item is, and those before it, or after it if the row is read backward, fit no characters. -/
def holdOnRow (condition : Anchor) (backward : Bool) : List Pattern → Bool × Bool
  | [] => (false, true)
  | first :: rest =>
    let (isHeld, isBare) := holdOnRow condition backward rest
    let firstIsHeld := first.isHeldBy condition backward
    let firstIsBare := first.mostBytes? == some 0
    (if backward then isHeld || (isBare && firstIsHeld)
      else firstIsHeld || (firstIsBare && isHeld), firstIsBare && isBare)

/-- Whether each of some patterns is held by a condition. -/
def areHeldBy (condition : Anchor) (backward : Bool) : List Pattern → Bool
  | [] => true
  | first :: rest =>
    first.isHeldBy condition backward && areHeldBy condition backward rest

end

end Pattern

end Chip8
