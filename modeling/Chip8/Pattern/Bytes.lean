import Chip8.Pattern.CharSet

namespace Chip8

/-- The bytes from `low` to `high`, both included. -/
structure ByteRange where
  low : Nat
  high : Nat
  deriving DecidableEq, Repr

namespace CharRange

def bytesOf (code : Nat) : List Nat :=
  if code < 0x80 then [code]
  else if code < 0x800 then [0xc0 + code / 64, 0x80 + code % 64]
  else if code < 0x10000 then [0xe0 + code / 4096, 0x80 + code / 64 % 64, 0x80 + code % 64]
  else [0xf0 + code / 262144, 0x80 + code / 4096 % 64, 0x80 + code / 64 % 64, 0x80 + code % 64]

/-- The last code points whose characters take one, two and three bytes. -/
def lengthEnds : List Nat := [0x7f, 0x7ff, 0xffff]

/-- The numbers of code points that share all bytes but the last one, two and three. -/
def groupSizes : List Nat := [64, 4096, 262144]

/-- Where a range has to be cut so that its ends fill groups of a size: after the group in which it
starts, or else before the group in which it ends. A range inside one group needs no cut. -/
def groupCut? (range : CharRange) (size : Nat) : Option Nat :=
  let first := range.low / size
  let last := range.high / size
  if first = last then none
  else if range.low % size ≠ 0 then some (first * size + size - 1)
  else if range.high % size ≠ size - 1 then some (last * size - 1)
  else none

/-- Where a range has to be cut: around the code points that are no characters, where the number of
bytes grows, or at a group. The answer is the last code point before the cut. -/
def cut? (range : CharRange) : Option Nat :=
  (lengthEnds.find? fun stop => range.low ≤ stop && stop < range.high).or
    (if range.high < 128 then none else groupSizes.findSome? range.groupCut?)

def blocksUpTo : (limit : Nat) → CharRange → List (List ByteRange)
  | 0, _ => []
  | limit + 1, range =>
    if range.high < range.low then []
    else if range.low < 0xe000 ∧ 0xd7ff < range.high then
      blocksUpTo limit ⟨range.low, 0xd7ff⟩ ++ blocksUpTo limit ⟨0xe000, range.high⟩
    else match range.cut? with
      | some stop =>
        blocksUpTo limit ⟨range.low, stop⟩ ++ blocksUpTo limit ⟨stop + 1, range.high⟩
      | none => [List.zipWith ByteRange.mk (bytesOf range.low) (bytesOf range.high)]

/-- The blocks of a range. A block needs at most ten cuts: one around the code points that are no
characters, three where the number of bytes grows, and two for each size of group. -/
def blocks (range : CharRange) : List (List ByteRange) := blocksUpTo 11 range

end CharRange

def CharSet.blocks (set : CharSet) : List (List ByteRange) := set.ranges.flatMap CharRange.blocks

end Chip8
