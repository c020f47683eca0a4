import Chip8.Device.Headless
import Chip8.Machine
import Chip8.Proofs.Instruction.Layout
import Chip8.Proofs.Memory.Access

namespace Chip8

namespace Instruction

theorem length_assemble (instructions : List Instruction) :
    (assemble instructions).length = 2 * instructions.length := by
  induction instructions with
  | nil => rfl
  | cons instruction rest ih =>
    have bytes : assemble (instruction :: rest) =
        bytesOfWord instruction.encode ++ assemble rest := rfl
    rw [bytes, List.length_append, ih, List.length_cons, bytesOfWord]
    simp only [List.length_cons, List.length_nil]
    omega

/-- The instruction of a given number stands in the program at twice that number. -/
theorem getElem?_assemble {instructions : List Instruction} {k : Nat} {instruction : Instruction}
    (found : instructions[k]? = some instruction) :
    (assemble instructions)[2 * k]? = some (UInt8.ofNat (instruction.encode.toNat / 256)) ∧
      (assemble instructions)[2 * k + 1]? =
        some (UInt8.ofNat (instruction.encode.toNat % 256)) := by
  induction instructions generalizing k with
  | nil => cases found
  | cons first rest ih =>
    cases k with
    | zero =>
      cases found
      exact ⟨rfl, rfl⟩
    | succ k => exact ih found

end Instruction

open Instruction

namespace Machine

variable {δ κ τ : Type}

/-- A fresh machine has loaded the program of some instructions: where each of them stands. -/
private theorem readWord_assembled {loaded : Memory} {instructions : List Instruction}
    (few : instructions.length ≤ 1792)
    (load : Memory.fresh.load (assemble instructions) = .ok loaded) {k : Nat}
    {instruction : Instruction} (found : instructions[k]? = some instruction) :
    loaded.readWord (UInt16.ofNat (0x200 + 2 * k)) = .ok instruction.encode := by
  obtain ⟨high, low⟩ := getElem?_assemble found
  obtain ⟨place, _⟩ := List.getElem?_eq_some_iff.mp found
  have addr : (UInt16.ofNat (0x200 + 2 * k)).toNat = 0x200 + 2 * k :=
    UInt16.toNat_ofNat_of_lt' (by simp only [UInt16.size]; omega)
  have fits : 0x200 + 2 * k + 2 ≤ memorySize := by
    simp only [memorySize]
    omega
  rw [Memory.readWord_eq_ok_iff, Memory.Fits, addr]
  exact ⟨fits, Memory.wordValue_of_bytes (Memory.byteAt_load load high)
    (Memory.byteAt_load load low)⟩

private theorem load_done {m : Machine δ κ τ} {program : List UInt8} {memory : Memory}
    (load : m.memory.load program = .ok memory) :
    ∃ after, m.load program = .done () after ∧ after.memory = memory := by
  rw [Machine.load, load]
  exact ⟨_, rfl, rfl⟩

/-- Instructions that are written as a program and loaded are fetched and decoded as what they were.
Every word that decodes is the word of the instruction, and every other word is no instruction's. -/
theorem assembled_decodes (settings : Settings) (screen : δ) (keypad : κ) (speaker : τ)
    {instructions : List Instruction} (few : instructions.length ≤ 1792)
    (wellFormed : ∀ instruction ∈ instructions, instruction.WellFormed) :
    (∃ loaded, (create settings screen keypad speaker).load (assemble instructions) =
        .done () loaded ∧
      ∀ k instruction, instructions[k]? = some instruction → ∃ word,
        loaded.memory.readWord (UInt16.ofNat (0x200 + 2 * k)) = .ok word ∧
          decode word = .ok instruction) ∧
    ∀ word : UInt16,
      (∀ instruction, decode word = .ok instruction ↔
        instruction.WellFormed ∧ instruction.encode = word) ∧
      ∀ fault, decode word = .error fault ↔ fault = .unknownOpcode word ∧
        ¬ ∃ instruction : Instruction, instruction.WellFormed ∧ instruction.encode = word := by
  refine ⟨?_, fun word => ⟨decode_eq_ok_iff word, decode_eq_error_iff word⟩⟩
  have fits : (assemble instructions).length ≤ Memory.fresh.capacity := by
    have capacity : Memory.fresh.capacity = 3584 := rfl
    rw [length_assemble, capacity]
    omega
  have load : Memory.fresh.load (assemble instructions) = .ok _ := Memory.load_of_few fits
  obtain ⟨loaded, done, memory⟩ : ∃ loaded, (create settings screen keypad speaker).load _ =
    .done () loaded ∧ loaded.memory = _ := load_done load
  refine ⟨loaded, done, ?_⟩
  intro k instruction found
  rw [memory]
  exact ⟨instruction.encode, readWord_assembled few load found,
    (decode_eq_ok_iff _ _).mpr ⟨wellFormed _ (List.mem_of_getElem? found), rfl⟩⟩

/-- A program with an operand at the end of every range, and with the routine closest to a word that
is not its own. -/
def extremes : List Instruction :=
  [.sys (Fin.ofNat 4096 0x0e1), .draw (Nibble.ofNat 15) (Nibble.ofNat 0) (Nibble.ofNat 15),
    .shiftLeft (Nibble.ofNat 0) (Nibble.ofNat 15), .jumpV0 (Fin.ofNat 4096 0xfff)]

theorem extremes_decode :
    extremes.length ≤ 1792 ∧ (∀ instruction ∈ extremes, instruction.WellFormed) ∧
      ∃ loaded, (create {} (HeadlessScreen.blank Grid.standard) ({} : ScriptedKeypad)
        ({} : MuteSpeaker)).load [0x00, 0xe1, 0xdf, 0x0f, 0x80, 0xfe, 0xbf, 0xff] =
          .done () loaded ∧
        ∃ word, loaded.memory.readWord 0x204 = .ok word ∧
          decode word = .ok (.shiftLeft (Nibble.ofNat 0) (Nibble.ofNat 15)) := by
  have few : extremes.length ≤ 1792 := by decide
  have wellFormed : ∀ instruction ∈ extremes, instruction.WellFormed := by
    intro instruction member
    simp only [extremes, List.mem_cons, List.not_mem_nil, or_false] at member
    rcases member with rfl | rfl | rfl | rfl
    · exact ⟨by decide, by decide⟩
    all_goals trivial
  obtain ⟨⟨loaded, done, stands⟩, _⟩ := assembled_decodes {} (HeadlessScreen.blank Grid.standard)
    ({} : ScriptedKeypad) ({} : MuteSpeaker) few wellFormed
  exact ⟨few, wellFormed, loaded, done, stands 2 _ rfl⟩

end Machine

end Chip8
