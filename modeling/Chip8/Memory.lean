import Chip8.Fault
import Chip8.Memory.Font
import Chip8.Memory.Source

/-!
The 4096 bytes of memory. Every access names its first address and its length, and is refused as a
whole when some byte of it lies past the end; nothing wraps around.
-/
namespace Chip8

abbrev memorySize : Nat := 4096

/-- The memory with the two addresses that its users ask it for: where programs start and where the
glyphs start. Moving either changes later answers only; no byte moves with it. -/
structure Memory where
  bytes : Vector UInt8 memorySize
  programStart : Fin (memorySize + 1)
  fontStart : UInt16
  deriving DecidableEq

namespace Memory

/-- `bytes` with `data` in place of what stood from `start` on; data past the end is dropped. -/
def overlay (bytes : Vector UInt8 memorySize) (start : Nat) : List UInt8 → Vector UInt8 memorySize
  | [] => bytes
  | byte :: rest => overlay (bytes.setIfInBounds start byte) (start + 1) rest

/-- The memory of a machine that was just switched on: glyphs at 0, zeros elsewhere, programs at
`0x200`. -/
def fresh : Memory where
  bytes := overlay (Vector.replicate memorySize 0) 0 Font.image
  programStart := 0x200
  fontStart := 0

/-- The byte at an address, zero past the end. -/
def byteAt (memory : Memory) (addr : Nat) : UInt8 := memory.bytes[addr]?.getD 0

/-- Whether `len` bytes from `addr` on all exist. -/
def Fits (addr : UInt16) (len : Nat) : Prop := addr.toNat + len ≤ memorySize

instance (addr : UInt16) (len : Nat) : Decidable (Fits addr len) :=
  inferInstanceAs (Decidable (addr.toNat + len ≤ memorySize))

/-- The `len` bytes from `addr` on. -/
def slice (memory : Memory) (addr : UInt16) (len : Nat) : Except Fault (List UInt8) :=
  if Fits addr len then .ok ((List.range' addr.toNat len).map memory.byteAt)
  else .error (.memoryOutOfBounds addr.toNat len)

def readByte (memory : Memory) (addr : UInt16) : Except Fault UInt8 :=
  if Fits addr 1 then .ok (memory.byteAt addr.toNat)
  else .error (.memoryOutOfBounds addr.toNat 1)

/-- The big-endian word at `addr`. -/
def readWord (memory : Memory) (addr : UInt16) : Except Fault UInt16 :=
  if Fits addr 2 then
    .ok (UInt16.ofNat
      ((memory.byteAt addr.toNat).toNat * 256 + (memory.byteAt (addr.toNat + 1)).toNat))
  else .error (.memoryOutOfBounds addr.toNat 2)

def write (memory : Memory) (addr : UInt16) (data : List UInt8) : Except Fault Memory :=
  if Fits addr data.length then
    .ok { memory with bytes := overlay memory.bytes addr.toNat data }
  else .error (.memoryOutOfBounds addr.toNat data.length)

def fill (memory : Memory) (addr : UInt16) (len : Nat) (byte : UInt8) : Except Fault Memory :=
  if Fits addr len then
    .ok { memory with bytes := overlay memory.bytes addr.toNat (List.replicate len byte) }
  else .error (.memoryOutOfBounds addr.toNat len)

/-- Whether the sum of an address and a length of 64 bits is itself one of 64 bits. -/
def Summable (addr : UInt16) (len : UInt64) : Prop := addr.toNat + len.toNat < UInt64.size

instance (addr : UInt16) (len : UInt64) : Decidable (Summable addr len) :=
  inferInstanceAs (Decidable (addr.toNat + len.toNat < UInt64.size))

/-- The `len` bytes from `addr` on, for a length that the host gives. The end is computed before it
is compared with the size of memory; where it overflows, the access stops the program instead of
being refused, and there is no answer. -/
def hostSlice (memory : Memory) (addr : UInt16) (len : UInt64) :
    Option (Except Fault (List UInt8)) :=
  if Summable addr len then some (memory.slice addr len.toNat) else none

/-- Puts `byte` at the `len` addresses from `addr` on, for a length that the host gives. -/
def hostFill (memory : Memory) (addr : UInt16) (len : UInt64) (byte : UInt8) :
    Option (Except Fault Memory) :=
  if Summable addr len then some (memory.fill addr len.toNat byte) else none

/-- Length of the longest program that fits between the program start and the end. -/
def capacity (memory : Memory) : Nat := memorySize - memory.programStart.val

/-- Writes a program at the program start, unless it is too long. -/
def load (memory : Memory) (program : List UInt8) : Except Fault Memory :=
  if program.length ≤ memory.capacity then
    memory.write (UInt16.ofNat memory.programStart.val) program
  else .error (.programTooLarge program.length memory.capacity)

/-- Loads all that a source gives; a source that fails leaves the memory as it was. -/
def loadFrom (memory : Memory) (source : Source) : Except Fault Memory :=
  match source.readAll with
  | .ok program => memory.load program
  | .error error => .error (.device error)

/-- Address of the glyph for `digit`. Digits past `F` are answered as if more glyphs followed. -/
def glyphAddress (memory : Memory) (digit : UInt8) : UInt16 :=
  memory.fontStart + UInt16.ofNat (digit.toNat * Font.glyphBytes)

/-- An overlay shows through exactly where it reaches. -/
theorem getElem?_overlay (bytes : Vector UInt8 memorySize) (start : Nat) (data : List UInt8)
    (k : Nat) (inside : k < memorySize) :
    (overlay bytes start data)[k]? =
      if start ≤ k ∧ k < start + data.length then data[k - start]? else bytes[k]? := by
  induction data generalizing bytes start with
  | nil =>
    have outside : ¬ (start ≤ k ∧ k < start + ([] : List UInt8).length) := by simp
    rw [if_neg outside, overlay]
  | cons byte rest ih =>
    rw [overlay, ih]
    by_cases here : start = k
    · subst here
      have passed : ¬ (start + 1 ≤ start ∧ start < start + 1 + rest.length) := by omega
      rw [if_neg passed]
      simp [inside]
    · by_cases later : start + 1 ≤ k ∧ k < start + 1 + rest.length
      · have shifted : k - start = (k - (start + 1)) + 1 := by omega
        have covered : start ≤ k ∧ k < start + (byte :: rest).length := by simp; omega
        rw [if_pos later, if_pos covered, shifted, List.getElem?_cons_succ]
      · have outside : ¬ (start ≤ k ∧ k < start + (byte :: rest).length) := by simp; omega
        rw [if_neg later, if_neg outside, Vector.getElem?_setIfInBounds_ne here]

/-- A slice is read exactly when all of it exists. -/
theorem slice_eq_ok_iff (memory : Memory) (addr : UInt16) (len : Nat) (bytes : List UInt8) :
    memory.slice addr len = .ok bytes ↔
      Fits addr len ∧ bytes = (List.range' addr.toNat len).map memory.byteAt := by
  unfold slice
  split <;> simp_all [eq_comm]

end Memory

end Chip8
