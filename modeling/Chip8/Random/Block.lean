import Chip8.Nibble

namespace Chip8.Random

/-- Sixteen words: the working state and the output of the block function. -/
abbrev Block := Vector UInt32 16

abbrev Key := Vector UInt32 8

/-- Rotates a word to the left by `count` places, `0 < count < 32`. -/
def rotateLeft (word count : UInt32) : UInt32 := (word <<< count) ||| (word >>> (32 - count))

/-- Mixes four words of a block. -/
def quarterRound (block : Block) (a b c d : Nibble) : Block :=
  let block := block.put a (block.get a + block.get b)
  let block := block.put d (rotateLeft (block.get d ^^^ block.get a) 16)
  let block := block.put c (block.get c + block.get d)
  let block := block.put b (rotateLeft (block.get b ^^^ block.get c) 12)
  let block := block.put a (block.get a + block.get b)
  let block := block.put d (rotateLeft (block.get d ^^^ block.get a) 8)
  let block := block.put c (block.get c + block.get d)
  block.put b (rotateLeft (block.get b ^^^ block.get c) 7)

/-- Mixes the four words with the given numbers. -/
def mix (a b c d : Nat) (block : Block) : Block :=
  quarterRound block (Nibble.ofNat a) (Nibble.ofNat b) (Nibble.ofNat c) (Nibble.ofNat d)

/-- Two rounds: the four columns, then the four diagonals. -/
def doubleRound (block : Block) : Block :=
  let block := mix 0 4 8 12 block
  let block := mix 1 5 9 13 block
  let block := mix 2 6 10 14 block
  let block := mix 3 7 11 15 block
  let block := mix 0 5 10 15 block
  let block := mix 1 6 11 12 block
  let block := mix 2 7 8 13 block
  mix 3 4 9 14 block

/-- The block before the rounds: constants, key, 64-bit counter, and a zero nonce. -/
def initialBlock (key : Key) (counter : Nat) : Block :=
  let constants : Vector UInt32 4 := #v[0x61707865, 0x3320646e, 0x79622d32, 0x6b206574]
  let position : Vector UInt32 4 :=
    #v[UInt32.ofNat counter, UInt32.ofNat (counter / 0x100000000), 0, 0]
  constants ++ key ++ position

def block (key : Key) (counter : Nat) : Block :=
  let start := initialBlock key counter
  let mixed := Nat.repeat doubleRound 6 start
  Vector.zipWith (· + ·) mixed start

/-- The multiplier of the seed expansion's linear step. -/
def seedMultiplier : UInt64 := 6364136223846793005

/-- The increment of the seed expansion's linear step. -/
def seedIncrement : UInt64 := 11634580027462260723

/-- The word given by one state of the seed expansion: folded, then rotated right by its top bits.
-/
def seedWord (state : UInt64) : UInt32 :=
  let folded := (((state >>> 18) ^^^ state) >>> 27).toUInt32
  let count := (state >>> 59).toUInt32
  if count = 0 then folded else rotateLeft folded (32 - count)

/-- The state of the seed expansion after `count` linear steps. -/
def seedState (seed : UInt64) : Nat → UInt64
  | 0 => seed
  | count + 1 => seedState seed count * seedMultiplier + seedIncrement

/-- The key of a seed: eight successive words of the expansion. -/
def keyOfSeed (seed : UInt64) : Key := Vector.ofFn fun k => seedWord (seedState seed (k.val + 1))

end Chip8.Random
