import Chip8.Fault
import Chip8.Instruction

/-!
The sixteen-bit form of instructions. The top nibble of a word picks the family; the operands sit at
fixed places: `_nnn`, `_x__`, `__y_`, `__kk`, `___n`. `decode` reads a word and `encode` writes one.
-/
namespace Chip8

namespace Word

/-- The top nibble. -/
def family (word : UInt16) : Nat := word.toNat / 4096

def x (word : UInt16) : Register := Nibble.ofNat (word.toNat / 256)

def y (word : UInt16) : Register := Nibble.ofNat (word.toNat / 16)

def n (word : UInt16) : Nibble := Nibble.ofNat word.toNat

def kk (word : UInt16) : UInt8 := UInt8.ofNat (word.toNat % 256)

/-- The low twelve bits. -/
def nnn (word : UInt16) : Address := ⟨word.toNat % 4096, Nat.mod_lt _ (by decide)⟩

end Word

namespace Instruction

/-- The instruction of family `F` with a given low byte. -/
def ofMisc? (x : Register) : Nat → Option Instruction
  | 0x07 => some (.loadDelay x)
  | 0x0a => some (.waitKey x)
  | 0x15 => some (.setDelay x)
  | 0x18 => some (.setSound x)
  | 0x1e => some (.addIndex x)
  | 0x29 => some (.loadGlyph x)
  | 0x33 => some (.storeBcd x)
  | 0x55 => some (.storeRegs x)
  | 0x65 => some (.loadRegs x)
  | _ => none

/-- The instruction of family `8` with a given low nibble. -/
def ofArithmetic? (x y : Register) : Nat → Option Instruction
  | 0x0 => some (.move x y)
  | 0x1 => some (.or x y)
  | 0x2 => some (.and x y)
  | 0x3 => some (.xor x y)
  | 0x4 => some (.addReg x y)
  | 0x5 => some (.subReg x y)
  | 0x6 => some (.shiftRight x y)
  | 0x7 => some (.subRegInv x y)
  | 0xe => some (.shiftLeft x y)
  | _ => none

/-- The instruction that a word stands for, if it is one. -/
def ofWord? (word : UInt16) : Option Instruction :=
  let x := Word.x word
  let y := Word.y word
  let kk := Word.kk word
  let nnn := Word.nnn word
  match Word.family word with
  | 0x0 =>
    if nnn.val = 0x0e0 then some .clearScreen
    else if nnn.val = 0x0ee then some .ret
    else some (.sys nnn)
  | 0x1 => some (.jump nnn)
  | 0x2 => some (.call nnn)
  | 0x3 => some (.skipEqImm x kk)
  | 0x4 => some (.skipNeImm x kk)
  | 0x5 => if (Word.n word).val = 0 then some (.skipEqReg x y) else none
  | 0x6 => some (.loadImm x kk)
  | 0x7 => some (.addImm x kk)
  | 0x8 => ofArithmetic? x y (Word.n word).val
  | 0x9 => if (Word.n word).val = 0 then some (.skipNeReg x y) else none
  | 0xa => some (.loadIndex nnn)
  | 0xb => some (.jumpV0 nnn)
  | 0xc => some (.random x kk)
  | 0xd => some (.draw x y (Word.n word))
  | 0xe =>
    if kk.toNat = 0x9e then some (.skipKeyPressed x)
    else if kk.toNat = 0xa1 then some (.skipKeyNotPressed x)
    else none
  | _ => ofMisc? x kk.toNat

/-- Reads a word; one that is no instruction is a fault. -/
def decode (word : UInt16) : Except Fault Instruction :=
  match ofWord? word with
  | some instruction => .ok instruction
  | none => .error (.unknownOpcode word)

def wordOfAddress (family : Nat) (nnn : Address) : UInt16 := UInt16.ofNat (family * 4096 + nnn.val)

/-- A word with a family, a register and a low byte. -/
def wordOfByte (family : Nat) (x : Register) (kk : Nat) : UInt16 :=
  UInt16.ofNat (family * 4096 + x.val * 256 + kk)

/-- A word with a family, two registers and a low nibble. -/
def wordOfPair (family : Nat) (x y : Register) (n : Nat) : UInt16 :=
  UInt16.ofNat (family * 4096 + x.val * 256 + y.val * 16 + n)

def encode : Instruction → UInt16
  | .sys nnn => wordOfAddress 0x0 nnn
  | .clearScreen => 0x00e0
  | .ret => 0x00ee
  | .jump nnn => wordOfAddress 0x1 nnn
  | .call nnn => wordOfAddress 0x2 nnn
  | .skipEqImm x kk => wordOfByte 0x3 x kk.toNat
  | .skipNeImm x kk => wordOfByte 0x4 x kk.toNat
  | .skipEqReg x y => wordOfPair 0x5 x y 0x0
  | .loadImm x kk => wordOfByte 0x6 x kk.toNat
  | .addImm x kk => wordOfByte 0x7 x kk.toNat
  | .move x y => wordOfPair 0x8 x y 0x0
  | .or x y => wordOfPair 0x8 x y 0x1
  | .and x y => wordOfPair 0x8 x y 0x2
  | .xor x y => wordOfPair 0x8 x y 0x3
  | .addReg x y => wordOfPair 0x8 x y 0x4
  | .subReg x y => wordOfPair 0x8 x y 0x5
  | .shiftRight x y => wordOfPair 0x8 x y 0x6
  | .subRegInv x y => wordOfPair 0x8 x y 0x7
  | .shiftLeft x y => wordOfPair 0x8 x y 0xe
  | .skipNeReg x y => wordOfPair 0x9 x y 0x0
  | .loadIndex nnn => wordOfAddress 0xa nnn
  | .jumpV0 nnn => wordOfAddress 0xb nnn
  | .random x kk => wordOfByte 0xc x kk.toNat
  | .draw x y n => wordOfPair 0xd x y n.val
  | .skipKeyPressed x => wordOfByte 0xe x 0x9e
  | .skipKeyNotPressed x => wordOfByte 0xe x 0xa1
  | .loadDelay x => wordOfByte 0xf x 0x07
  | .waitKey x => wordOfByte 0xf x 0x0a
  | .setDelay x => wordOfByte 0xf x 0x15
  | .setSound x => wordOfByte 0xf x 0x18
  | .addIndex x => wordOfByte 0xf x 0x1e
  | .loadGlyph x => wordOfByte 0xf x 0x29
  | .storeBcd x => wordOfByte 0xf x 0x33
  | .storeRegs x => wordOfByte 0xf x 0x55
  | .loadRegs x => wordOfByte 0xf x 0x65

/-- The big-endian bytes of a word, as a program holds them. -/
def bytesOfWord (word : UInt16) : List UInt8 :=
  [UInt8.ofNat (word.toNat / 256), UInt8.ofNat (word.toNat % 256)]

def assemble (instructions : List Instruction) : List UInt8 :=
  instructions.flatMap fun instruction => bytesOfWord instruction.encode

end Instruction

end Chip8
