/-!
Sets of characters, kept as ranges of code points.

The ranges are in order, and none touches the next. The code points from `0xd800` to `0xdfff` are
no characters; a range may run across them.
-/
namespace Chip8

/-- The code points from `low` to `high`, both included. -/
structure CharRange where
  low : Nat
  high : Nat
  deriving DecidableEq, Repr

namespace CharRange

/-- The range between two code points in either order. -/
def between (first second : Nat) : CharRange := ⟨min first second, max first second⟩

def next (code : Nat) : Nat := if code = 0xd7ff then 0xe000 else code + 1

def previous (code : Nat) : Nat := if code = 0xe000 then 0xd7ff else code - 1

def last : Nat := 0x10ffff

def contains (range : CharRange) (c : Char) : Bool := range.low ≤ c.toNat && c.toNat ≤ range.high

def inter? (first second : CharRange) : Option CharRange :=
  let low := max first.low second.low
  let high := min first.high second.high
  if low ≤ high then some ⟨low, high⟩ else none

def without (range removed : CharRange) : List CharRange :=
  if (range.inter? removed).isNone then [range]
  else
    (if range.low < removed.low then [⟨range.low, previous removed.low⟩] else []) ++
      if removed.high < range.high then [⟨next removed.high, range.high⟩] else []

/-- The letters of the Latin alphabet in a range, in their other case. -/
def otherCase (range : CharRange) : List CharRange :=
  let upper := (range.inter? ⟨'a'.toNat, 'z'.toNat⟩).map fun part =>
    CharRange.mk (part.low - 32) (part.high - 32)
  let lower := (range.inter? ⟨'A'.toNat, 'Z'.toNat⟩).map fun part =>
    CharRange.mk (part.low + 32) (part.high + 32)
  upper.toList ++ lower.toList

/-- Joins ranges in order of their first code points, where each meets or touches the one before;
`first` comes before all others. -/
def joined (first : CharRange) : List CharRange → List CharRange
  | [] => [first]
  | range :: rest =>
    if range.low ≤ first.high + 1 then joined ⟨first.low, max first.high range.high⟩ rest
    else first :: joined range rest

end CharRange

/-- A set of characters. -/
structure CharSet where
  ranges : List CharRange
  deriving DecidableEq, Repr

namespace CharSet

def none : CharSet := ⟨[]⟩

/-- The members of any of some ranges. -/
def ofRanges (ranges : List CharRange) : CharSet :=
  match ranges.mergeSort fun first second => first.low ≤ second.low with
  | [] => none
  | first :: rest => ⟨CharRange.joined first rest⟩

def range (low high : Char) : CharSet := ⟨[⟨low.toNat, high.toNat⟩]⟩

def single (c : Char) : CharSet := range c c

def ofList (members : List Char) : CharSet :=
  ofRanges (members.map fun c => ⟨c.toNat, c.toNat⟩)

def contains (set : CharSet) (c : Char) : Bool := set.ranges.any fun range => range.contains c

def union (first second : CharSet) : CharSet := ofRanges (first.ranges ++ second.ranges)

def inter (first second : CharSet) : CharSet :=
  ⟨first.ranges.flatMap fun range => second.ranges.filterMap range.inter?⟩

/-- The members of the first set that are not in the second. -/
def diff (first second : CharSet) : CharSet :=
  ⟨second.ranges.foldl (fun ranges removed => ranges.flatMap (·.without removed)) first.ranges⟩

/-- The members of just one of two sets. -/
def symmDiff (first second : CharSet) : CharSet := (first.union second).diff (first.inter second)

/-- The ranges after each of some ranges and before the next, or up to the last code point. Two
ranges that meet where there are no characters leave the characters at their ends. -/
def gaps : List CharRange → List CharRange
  | [] => []
  | [range] => if range.high < CharRange.last then [⟨CharRange.next range.high, CharRange.last⟩]
    else []
  | first :: second :: rest =>
    .between (CharRange.next first.high) (CharRange.previous second.low) :: gaps (second :: rest)

def compl (set : CharSet) : CharSet :=
  match set.ranges with
  | [] => ⟨[⟨0, CharRange.last⟩]⟩
  | first :: rest =>
    ⟨(if 0 < first.low then [⟨0, CharRange.previous first.low⟩] else []) ++ gaps (first :: rest)⟩

def any : CharSet := compl none

/-- The members of a set with the letters of the Latin alphabet in both cases. -/
def anyCase (set : CharSet) : CharSet :=
  ofRanges (set.ranges ++ set.ranges.flatMap CharRange.otherCase)

/-- The only member, if there is just one. -/
def single? (set : CharSet) : Option Char :=
  match set.ranges with
  | [range] => if range.low = range.high then some (Char.ofNat range.low) else Option.none
  | _ => Option.none

def isPlain (set : CharSet) : Bool := set.ranges.all fun range => range.high < 128

end CharSet

end Chip8
