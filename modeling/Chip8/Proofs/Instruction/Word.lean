import Chip8.Instruction.Decode

namespace Chip8

namespace Word

theorem family_lt (word : UInt16) : family word < 16 :=
  Nat.div_lt_of_lt_mul word.toNat_lt

theorem wordOfAddress_family (word : UInt16) :
    Instruction.wordOfAddress (family word) (nnn word) = word := by
  have sum : family word * 4096 + (nnn word).val = word.toNat := by
    simp only [family, nnn]
    omega
  rw [Instruction.wordOfAddress, sum, UInt16.ofNat_toNat]

theorem toNat_kk (word : UInt16) : (kk word).toNat = word.toNat % 256 :=
  UInt8.toNat_ofNat_of_lt' (Nat.mod_lt _ (by decide))

theorem wordOfByte_family (word : UInt16) :
    Instruction.wordOfByte (family word) (x word) (kk word).toNat = word := by
  have sum : family word * 4096 + (x word).val * 256 + (kk word).toNat = word.toNat := by
    simp only [family, x, toNat_kk, Nibble.val_ofNat]
    omega
  rw [Instruction.wordOfByte, sum, UInt16.ofNat_toNat]

theorem wordOfPair_family (word : UInt16) :
    Instruction.wordOfPair (family word) (x word) (y word) (n word).val = word := by
  have sum : family word * 4096 + (x word).val * 256 + (y word).val * 16 + (n word).val =
      word.toNat := by
    simp only [family, x, y, n, Nibble.val_ofNat]
    omega
  rw [Instruction.wordOfPair, sum, UInt16.ofNat_toNat]

/-- The words that are no instruction. -/
inductive Undefined (word : UInt16) : Prop where
  | compare (family : word.toNat / 4096 = 0x5 ∨ word.toNat / 4096 = 0x9)
      (low : word.toNat % 16 ≠ 0)
  | arithmetic (family : word.toNat / 4096 = 0x8)
      (low : 0x8 ≤ word.toNat % 16 ∧ word.toNat % 16 ≤ 0xd ∨ word.toNat % 16 = 0xf)
  | key (family : word.toNat / 4096 = 0xe) (low : word.toNat % 256 ∉ [0x9e, 0xa1])
  | misc (family : word.toNat / 4096 = 0xf)
      (low : word.toNat % 256 ∉ [0x07, 0x0a, 0x15, 0x18, 0x1e, 0x29, 0x33, 0x55, 0x65])

/-- The words whose instruction reads or writes memory from the index on, and how many bytes. -/
inductive Reaches (inclusive : Bool) (word : UInt16) : Nat → Prop where
  | draw (family : word.toNat / 4096 = 0xd) : Reaches inclusive word (word.toNat % 16)
  | decimal (family : word.toNat / 4096 = 0xf) (low : word.toNat % 256 = 0x33) :
      Reaches inclusive word 3
  | transfer (family : word.toNat / 4096 = 0xf)
      (low : word.toNat % 256 = 0x55 ∨ word.toNat % 256 = 0x65) :
      Reaches inclusive word (word.toNat / 256 % 16 + if inclusive then 1 else 0)

/-- The words that ask the keypad for the key named by a register. -/
def Asks (word : UInt16) : Prop :=
  word.toNat / 4096 = 0xe ∧ (word.toNat % 256 = 0x9e ∨ word.toNat % 256 = 0xa1)

/-- The words that wait for a key. -/
def Waits (word : UInt16) : Prop := word.toNat / 4096 = 0xf ∧ word.toNat % 256 = 0x0a

end Word

namespace Instruction

theorem toNat_wordOfAddress {family : Nat} (small : family < 16) (nnn : Address) :
    (wordOfAddress family nnn).toNat = family * 4096 + nnn.val := by
  have range := nnn.isLt
  exact UInt16.toNat_ofNat_of_lt' (by simp only [UInt16.size]; omega)

theorem toNat_wordOfByte {family kk : Nat} (small : family < 16) (x : Register) (byte : kk < 256) :
    (wordOfByte family x kk).toNat = family * 4096 + x.val * 256 + kk := by
  have range := x.isLt
  exact UInt16.toNat_ofNat_of_lt' (by simp only [UInt16.size]; omega)

theorem toNat_wordOfPair {family : Nat} (small : family < 16) (x y : Register) (n : Nibble) :
    (wordOfPair family x y n.val).toNat = family * 4096 + x.val * 256 + y.val * 16 + n.val := by
  have first := x.isLt
  have second := y.isLt
  have low := n.isLt
  exact UInt16.toNat_ofNat_of_lt' (by simp only [UInt16.size]; omega)

private theorem ofArithmetic?_eq_none_iff (x y : Register) (low : Nibble) :
    ofArithmetic? x y low.val = none ↔ 0x8 ≤ low.val ∧ low.val ≤ 0xd ∨ low.val = 0xf := by
  have range := low.isLt
  unfold ofArithmetic?
  split <;> simp_all
  omega

private theorem ofMisc?_eq_none_iff (x : Register) (low : Nat) :
    ofMisc? x low = none ↔ low ∉ [0x07, 0x0a, 0x15, 0x18, 0x1e, 0x29, 0x33, 0x55, 0x65] := by
  unfold ofMisc?
  split <;> simp_all

private theorem wordOfPair_ofArithmetic {x y : Register} {low : Nat} {instruction : Instruction}
    (decoded : ofArithmetic? x y low = some instruction) :
    instruction.encode = wordOfPair 0x8 x y low := by
  unfold ofArithmetic? at decoded
  split at decoded <;> cases decoded <;> rfl

private theorem wordOfByte_ofMisc {x : Register} {low : Nat} {instruction : Instruction}
    (decoded : ofMisc? x low = some instruction) :
    instruction.encode = wordOfByte 0xf x low := by
  unfold ofMisc? at decoded
  split at decoded <;> cases decoded <;> rfl

/-- An instruction is written as the word that it was read from. -/
theorem encode_of_ofWord? {word : UInt16} {instruction : Instruction}
    (decoded : ofWord? word = some instruction) : instruction.encode = word := by
  have address := Word.wordOfAddress_family word
  have byte := Word.wordOfByte_family word
  have pair := Word.wordOfPair_family word
  unfold ofWord? at decoded
  dsimp only at decoded
  split at decoded
  case h_1 family =>
    rw [family] at address
    split at decoded
    · rename_i clear
      rw [wordOfAddress, clear] at address
      cases decoded
      exact address
    · split at decoded
      · rename_i back
        rw [wordOfAddress, back] at address
        cases decoded
        exact address
      · cases decoded
        exact address
  case h_6 family | h_10 family =>
    rw [family] at pair
    split at decoded
    · rename_i low
      rw [low] at pair
      cases decoded
      exact pair
    · cases decoded
  case h_9 family =>
    rw [family] at pair
    exact (wordOfPair_ofArithmetic decoded).trans pair
  case h_15 family =>
    rw [family] at byte
    split at decoded
    · rename_i low
      rw [low] at byte
      cases decoded
      exact byte
    · split at decoded
      · rename_i low
        rw [low] at byte
        cases decoded
        exact byte
      · cases decoded
  case h_16 =>
    have last : Word.family word = 0xf := by grind [Word.family_lt word]
    rw [last] at byte
    exact (wordOfByte_ofMisc decoded).trans byte
  case h_14 family =>
    rw [family] at pair
    cases decoded
    exact pair
  case h_2 family | h_3 family | h_11 family | h_12 family =>
    rw [family] at address
    cases decoded
    exact address
  case h_4 family | h_5 family | h_7 family | h_8 family | h_13 family =>
    rw [family] at byte
    cases decoded
    exact byte

theorem ofWord?_eq_none_iff (word : UInt16) : ofWord? word = none ↔ Word.Undefined word := by
  constructor
  · intro refused
    unfold ofWord? at refused
    dsimp only at refused
    split at refused
    case h_6 family =>
      split at refused
      · cases refused
      · rename_i low
        exact .compare (.inl family) low
    case h_10 family =>
      split at refused
      · cases refused
      · rename_i low
        exact .compare (.inr family) low
    case h_9 family => exact .arithmetic family ((ofArithmetic?_eq_none_iff _ _ _).mp refused)
    case h_15 family =>
      refine .key family ?_
      rw [Word.toNat_kk] at refused
      split at refused
      · cases refused
      · split at refused
        · cases refused
        · simp_all
    case h_16 =>
      have last : Word.family word = 0xf := by grind [Word.family_lt word]
      rw [ofMisc?_eq_none_iff, Word.toNat_kk] at refused
      exact .misc last refused
    case h_1 =>
      split at refused
      · cases refused
      · split at refused <;> cases refused
    all_goals cases refused
  · intro undefined
    cases undefined with
    | compare family low =>
      have odd : ¬ (Word.n word).val = 0 := low
      rcases family with family | family <;>
        simp only [ofWord?, Word.family, family, if_neg odd]
    | arithmetic family low =>
      have low := (ofArithmetic?_eq_none_iff (Word.x word) (Word.y word) (Word.n word)).mpr low
      simp only [ofWord?, Word.family, family, low]
    | key family low =>
      simp only [List.mem_cons, List.not_mem_nil, or_false, not_or] at low
      simp only [ofWord?, Word.family, family, Word.toNat_kk, if_neg low.1, if_neg low.2]
    | misc family low =>
      simp only [ofWord?, Word.family, family, Word.toNat_kk]
      exact (ofMisc?_eq_none_iff _ _).mpr low

end Instruction

end Chip8
