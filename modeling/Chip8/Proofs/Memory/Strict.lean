import Chip8.Memory

namespace Chip8

def word? (n : Nat) : Option UInt16 := if n < UInt16.size then some (UInt16.ofNat n) else none

theorem word?_eq_some {n : Nat} (small : n < UInt16.size) : word? n = some (UInt16.ofNat n) :=
  if_pos small

namespace Memory

def byteAt? (memory : Memory) (addr : Nat) : Option UInt8 := memory.bytes[addr]?

/-- The `len` bytes from `start` on, if all of them exist. -/
def bytes? (memory : Memory) (start : Nat) : Nat → Option (List UInt8)
  | 0 => some []
  | len + 1 => do
    let byte ← memory.byteAt? start
    let rest ← memory.bytes? (start + 1) len
    return byte :: rest

/-- `bytes` with `data` in place of what stood from `start` on, if all of it has a place. -/
def overlay? (bytes : Vector UInt8 memorySize) (start : Nat) :
    List UInt8 → Option (Vector UInt8 memorySize)
  | [] => some bytes
  | byte :: rest =>
    if inside : start < memorySize then overlay? (bytes.set start byte inside) (start + 1) rest
    else none

def slice? (memory : Memory) (addr : UInt16) (len : Nat) : Option (Except Fault (List UInt8)) :=
  if Fits addr len then (memory.bytes? addr.toNat len).map .ok
  else some (.error (.memoryOutOfBounds addr.toNat len))

def readWord? (memory : Memory) (addr : UInt16) : Option (Except Fault UInt16) :=
  if Fits addr 2 then do
    let high ← memory.byteAt? addr.toNat
    let low ← memory.byteAt? (addr.toNat + 1)
    let word ← word? (high.toNat * 256 + low.toNat)
    return .ok word
  else some (.error (.memoryOutOfBounds addr.toNat 2))

def write? (memory : Memory) (addr : UInt16) (data : List UInt8) :
    Option (Except Fault Memory) :=
  if Fits addr data.length then
    (overlay? memory.bytes addr.toNat data).map fun bytes => .ok { memory with bytes }
  else some (.error (.memoryOutOfBounds addr.toNat data.length))

/-- Here the capacity must not be negative either. -/
def load? (memory : Memory) (program : List UInt8) : Option (Except Fault Memory) :=
  if memorySize < memory.programStart.val then none
  else if program.length ≤ memory.capacity then
    memory.write? (UInt16.ofNat memory.programStart.val) program
  else some (.error (.programTooLarge program.length memory.capacity))

def glyphAddress? (memory : Memory) (digit : UInt8) : Option UInt16 := do
  let offset ← word? (digit.toNat * Font.glyphBytes)
  word? (memory.fontStart.toNat + offset.toNat)

theorem byteAt?_eq (memory : Memory) {addr : Nat} (inside : addr < memorySize) :
    memory.byteAt? addr = some (memory.byteAt addr) := by
  have found : memory.bytes[addr]? = some memory.bytes[addr] := Vector.getElem?_eq_getElem inside
  simp only [byteAt?, byteAt, found, Option.getD_some]

theorem bytes?_eq (memory : Memory) {start len : Nat} (inside : start + len ≤ memorySize) :
    memory.bytes? start len = some ((List.range' start len).map memory.byteAt) := by
  induction len generalizing start with
  | zero => rfl
  | succ len ih =>
    have first : memory.byteAt? start = some (memory.byteAt start) :=
      memory.byteAt?_eq (by omega)
    have rest : memory.bytes? (start + 1) len =
        some ((List.range' (start + 1) len).map memory.byteAt) := ih (by omega)
    simp only [bytes?, first, rest, List.range'_succ, List.map_cons]
    rfl

theorem overlay?_eq (bytes : Vector UInt8 memorySize) {start : Nat} {data : List UInt8}
    (inside : start + data.length ≤ memorySize) :
    overlay? bytes start data = some (overlay bytes start data) := by
  induction data generalizing bytes start with
  | nil => rfl
  | cons byte rest ih =>
    rw [List.length_cons] at inside
    have here : start < memorySize := by omega
    have same : bytes.set start byte here = bytes.setIfInBounds start byte := by
      simp [Vector.setIfInBounds, Vector.set, Array.setIfInBounds, here]
    simp only [overlay?, overlay, dif_pos here, same]
    exact ih _ (by omega)

theorem slice?_eq (memory : Memory) (addr : UInt16) (len : Nat) :
    memory.slice? addr len = some (memory.slice addr len) := by
  unfold slice? slice
  split
  · rename_i inside
    rw [memory.bytes?_eq inside]
    rfl
  · rfl

theorem readWord?_eq (memory : Memory) (addr : UInt16) :
    memory.readWord? addr = some (memory.readWord addr) := by
  unfold readWord? readWord
  split
  · rename_i inside
    have inside : addr.toNat + 2 ≤ memorySize := inside
    have highByte := (memory.byteAt addr.toNat).toNat_lt
    have lowByte := (memory.byteAt (addr.toNat + 1)).toNat_lt
    have high : memory.byteAt? addr.toNat = some (memory.byteAt addr.toNat) :=
      memory.byteAt?_eq (by omega)
    have low : memory.byteAt? (addr.toNat + 1) = some (memory.byteAt (addr.toNat + 1)) :=
      memory.byteAt?_eq (by omega)
    have small : (memory.byteAt addr.toNat).toNat * 256 +
        (memory.byteAt (addr.toNat + 1)).toNat < UInt16.size := by
      simp only [UInt16.size]
      omega
    simp only [high, low, Option.bind_eq_bind, Option.bind_some, word?_eq_some small]
    rfl
  · rfl

theorem write?_eq (memory : Memory) (addr : UInt16) (data : List UInt8) :
    memory.write? addr data = some (memory.write addr data) := by
  unfold write? write
  split
  · rename_i inside
    rw [overlay?_eq memory.bytes inside]
    rfl
  · rfl

theorem load?_eq (memory : Memory) (program : List UInt8) :
    memory.load? program = some (memory.load program) := by
  have start := memory.programStart.isLt
  unfold load? load
  rw [if_neg (by omega)]
  split
  · exact memory.write?_eq _ program
  · rfl

/-- No glyph is farther than 255 glyphs behind the first, wherever that stands in memory. -/
theorem glyphAddress?_eq (memory : Memory) (digit : UInt8)
    (start : memory.fontStart.toNat ≤ memorySize) :
    memory.glyphAddress? digit = some (memory.glyphAddress digit) := by
  have range := digit.toNat_lt
  have offset : digit.toNat * Font.glyphBytes < UInt16.size := by
    simp only [Font.glyphBytes, UInt16.size]
    omega
  have small : memory.fontStart.toNat + digit.toNat * Font.glyphBytes < UInt16.size := by
    simp only [Font.glyphBytes, UInt16.size, memorySize] at *
    omega
  have found : memory.glyphAddress? digit =
      word? (memory.fontStart.toNat + (UInt16.ofNat (digit.toNat * Font.glyphBytes)).toNat) := by
    simp only [glyphAddress?, word?_eq_some offset, Option.bind_eq_bind, Option.bind_some]
  rw [found, UInt16.toNat_ofNat_of_lt' offset, word?_eq_some small, UInt16.ofNat_add,
    UInt16.ofNat_toNat, glyphAddress]

end Memory

end Chip8
