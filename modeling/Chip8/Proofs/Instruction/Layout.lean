import Chip8.Proofs.Instruction.Word

/-! Every instruction is read back from its word. Two words look like calls of host routines and are
other instructions, so the calls of these two routines have no word of their own; all the other
instructions have one each. With what decoding refuses this makes the words of instructions and the
instructions themselves one and the same thing. -/
namespace Chip8

open Instruction

namespace Word

section Address

variable {family : Nat} (small : family < 16) (address : Address)

include small

theorem family_wordOfAddress : Word.family (wordOfAddress family address) = family := by
  have range := address.isLt
  rw [Word.family, toNat_wordOfAddress small]
  omega

theorem nnn_wordOfAddress : nnn (wordOfAddress family address) = address := by
  have range := address.isLt
  apply Fin.ext
  simp only [nnn, toNat_wordOfAddress small]
  omega

end Address

section Byte

variable {family byte : Nat} (small : family < 16) (register : Register) (range : byte < 256)

include small range

theorem family_wordOfByte : Word.family (wordOfByte family register byte) = family := by
  have digit := register.isLt
  rw [Word.family, toNat_wordOfByte small register range]
  omega

theorem x_wordOfByte : x (wordOfByte family register byte) = register := by
  have digit := register.isLt
  apply Fin.ext
  rw [x, toNat_wordOfByte small register range, Nibble.val_ofNat]
  omega

theorem toNat_kk_wordOfByte : (kk (wordOfByte family register byte)).toNat = byte := by
  rw [toNat_kk, toNat_wordOfByte small register range]
  omega

end Byte

section Pair

variable {family low : Nat} (small : family < 16) (first second : Register) (range : low < 16)

include small range

private theorem toNat_pair : (wordOfPair family first second low).toNat =
    family * 4096 + first.val * 256 + second.val * 16 + low :=
  toNat_wordOfPair small first second ⟨low, range⟩

theorem family_wordOfPair : Word.family (wordOfPair family first second low) = family := by
  have digit := first.isLt
  have other := second.isLt
  rw [Word.family, toNat_pair small first second range]
  omega

theorem x_wordOfPair : x (wordOfPair family first second low) = first := by
  have digit := first.isLt
  have other := second.isLt
  apply Fin.ext
  rw [x, toNat_pair small first second range, Nibble.val_ofNat]
  omega

theorem y_wordOfPair : y (wordOfPair family first second low) = second := by
  have other := second.isLt
  apply Fin.ext
  rw [y, toNat_pair small first second range, Nibble.val_ofNat]
  omega

theorem val_n_wordOfPair : (n (wordOfPair family first second low)).val = low := by
  rw [n, toNat_pair small first second range, Nibble.val_ofNat]
  omega

end Pair

theorem kk_wordOfByte {family : Nat} (small : family < 16) (register : Register) (byte : UInt8) :
    kk (wordOfByte family register byte.toNat) = byte :=
  UInt8.toNat_inj.mp (toNat_kk_wordOfByte small register byte.toNat_lt)

theorem n_wordOfPair {family : Nat} (small : family < 16) (first second : Register)
    (low : Nibble) : n (wordOfPair family first second low.val) = low :=
  Fin.ext (val_n_wordOfPair small first second low.isLt)

end Word

namespace Instruction

/-- Whether an instruction has a word of its own. -/
def WellFormed : Instruction → Prop
  | .sys nnn => nnn.val ≠ 0x0e0 ∧ nnn.val ≠ 0x0ee
  | _ => True

open Word

/-- A word written by its digits has these digits, so decoding finds the instruction again. -/
theorem ofWord?_encode {instruction : Instruction} (wellFormed : instruction.WellFormed) :
    ofWord? instruction.encode = some instruction := by
  cases instruction with
  | sys nnn =>
    simp (disch := decide) only [encode, ofWord?, family_wordOfAddress, nnn_wordOfAddress,
      if_neg wellFormed.1, if_neg wellFormed.2]
  | clearScreen | ret => rfl
  | jump nnn | call nnn | loadIndex nnn | jumpV0 nnn =>
    simp (disch := decide) only [encode, ofWord?, family_wordOfAddress, nnn_wordOfAddress]
  | skipEqImm x kk | skipNeImm x kk | loadImm x kk | addImm x kk | random x kk =>
    have byte := kk.toNat_lt
    simp (disch := first | decide | assumption) only [encode, ofWord?, family_wordOfByte,
      x_wordOfByte, kk_wordOfByte]
  | skipEqReg x y | skipNeReg x y =>
    simp (disch := decide) only [encode, ofWord?, family_wordOfPair, x_wordOfPair, y_wordOfPair,
      val_n_wordOfPair, if_true]
  | move x y | or x y | and x y | xor x y | addReg x y | subReg x y | shiftRight x y
  | subRegInv x y | shiftLeft x y =>
    simp (disch := decide) only [encode, ofWord?, family_wordOfPair, x_wordOfPair, y_wordOfPair,
      val_n_wordOfPair, ofArithmetic?]
  | draw x y n =>
    have low := n.isLt
    simp (disch := first | decide | assumption) only [encode, ofWord?, family_wordOfPair,
      x_wordOfPair, y_wordOfPair, n_wordOfPair]
  | skipKeyPressed x | skipKeyNotPressed x =>
    simp (disch := decide) only [encode, ofWord?, family_wordOfByte, x_wordOfByte,
      toNat_kk_wordOfByte]
    rfl
  | loadDelay x | waitKey x | setDelay x | setSound x | addIndex x | loadGlyph x | storeBcd x
  | storeRegs x | loadRegs x =>
    simp (disch := decide) only [encode, ofWord?, family_wordOfByte, x_wordOfByte,
      toNat_kk_wordOfByte, ofMisc?]

/-- A word that reads as a call of a host routine is not the word of another instruction. -/
theorem wellFormed_of_ofWord? {word : UInt16} {instruction : Instruction}
    (decoded : ofWord? word = some instruction) : instruction.WellFormed := by
  cases instruction with
  | sys nnn =>
    have same : wordOfAddress 0x0 nnn = word := encode_of_ofWord? decoded
    constructor
    · intro clear
      rw [← same, wordOfAddress, clear] at decoded
      cases decoded
    · intro back
      rw [← same, wordOfAddress, back] at decoded
      cases decoded
  | _ => trivial

/-- Decoding finds the well-formed instruction that has the word. -/
theorem decode_eq_ok_iff (word : UInt16) (instruction : Instruction) :
    decode word = .ok instruction ↔ instruction.WellFormed ∧ instruction.encode = word := by
  unfold decode
  constructor
  · intro accepted
    cases decoded : ofWord? word with
    | some found =>
      rw [decoded] at accepted
      cases accepted
      exact ⟨wellFormed_of_ofWord? decoded, encode_of_ofWord? decoded⟩
    | none =>
      rw [decoded] at accepted
      cases accepted
  · rintro ⟨wellFormed, rfl⟩
    rw [ofWord?_encode wellFormed]

/-- Decoding refuses the words that no well-formed instruction has. -/
theorem decode_eq_error_iff (word : UInt16) (fault : Fault) :
    decode word = .error fault ↔ fault = .unknownOpcode word ∧
      ¬ ∃ instruction : Instruction, instruction.WellFormed ∧ instruction.encode = word := by
  simp only [← decode_eq_ok_iff]
  unfold decode
  cases ofWord? word with
  | some found => simp
  | none => simp [eq_comm]

end Instruction

end Chip8
