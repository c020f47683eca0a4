import Chip8.Nibble

namespace Chip8

/-- One of the registers V0 to VF. -/
abbrev Register := Nibble

/-- A twelve-bit address written in an instruction. -/
abbrev Address := Fin 4096

/-- The register that receives carries, borrows, shifted-out bits and collisions. -/
abbrev flagRegister : Register := Nibble.ofNat 15

/-- An instruction with its operands: registers `x` and `y`, the byte `kk`, the nibble `n` and the
address `nnn`. -/
inductive Instruction where
  -- `0nnn`: a routine of the host computer; does nothing here.
  | sys (nnn : Address)
  | clearScreen
  | ret
  | jump (nnn : Address)
  | call (nnn : Address)
  | skipEqImm (x : Register) (kk : UInt8)
  | skipNeImm (x : Register) (kk : UInt8)
  | skipEqReg (x y : Register)
  | loadImm (x : Register) (kk : UInt8)
  | addImm (x : Register) (kk : UInt8)
  | move (x y : Register)
  | or (x y : Register)
  | and (x y : Register)
  | xor (x y : Register)
  | addReg (x y : Register)
  | subReg (x y : Register)
  | shiftRight (x y : Register)
  | subRegInv (x y : Register)
  | shiftLeft (x y : Register)
  | skipNeReg (x y : Register)
  | loadIndex (nnn : Address)
  | jumpV0 (nnn : Address)
  | random (x : Register) (kk : UInt8)
  | draw (x y : Register) (n : Nibble)
  | skipKeyPressed (x : Register)
  | skipKeyNotPressed (x : Register)
  | loadDelay (x : Register)
  | waitKey (x : Register)
  | setDelay (x : Register)
  | setSound (x : Register)
  | addIndex (x : Register)
  | loadGlyph (x : Register)
  | storeBcd (x : Register)
  | storeRegs (x : Register)
  | loadRegs (x : Register)
  deriving DecidableEq, Repr

end Chip8
