import Chip8.Random.Block

namespace Chip8

/-- A place in the keystream of a key. The block that holds the next word is kept at hand. -/
structure RandomStream where
  key : Random.Key
  taken : Nat
  current : Random.Block
  current_eq : current = Random.block key (taken / 16)

namespace RandomStream

def ofSeed (seed : UInt64) : RandomStream where
  key := Random.keyOfSeed seed
  taken := 0
  current := Random.block (Random.keyOfSeed seed) 0
  current_eq := rfl

/-- Word number `k` of the stream of a key. -/
def word (key : Random.Key) (k : Nat) : UInt32 :=
  (Random.block key (k / 16)).get (Nibble.ofNat k)

def head (stream : RandomStream) : UInt32 :=
  stream.current.get (Nibble.ofNat stream.taken)

def tail (stream : RandomStream) : RandomStream :=
  if turn : (stream.taken + 1) % 16 = 0 then
    { key := stream.key
      taken := stream.taken + 1
      current := Random.block stream.key ((stream.taken + 1) / 16)
      current_eq := rfl }
  else
    { key := stream.key
      taken := stream.taken + 1
      current := stream.current
      current_eq := by
        have same : (stream.taken + 1) / 16 = stream.taken / 16 := by omega
        rw [same]; exact stream.current_eq }

def byte (stream : RandomStream) : UInt8 := stream.head.toUInt8

theorem head_eq_word (stream : RandomStream) : stream.head = word stream.key stream.taken := by
  simp only [head, word, stream.current_eq]

@[simp]
theorem key_tail (stream : RandomStream) : stream.tail.key = stream.key := by
  unfold tail; split <;> rfl

@[simp]
theorem taken_tail (stream : RandomStream) : stream.tail.taken = stream.taken + 1 := by
  unfold tail; split <;> rfl

end RandomStream

end Chip8
