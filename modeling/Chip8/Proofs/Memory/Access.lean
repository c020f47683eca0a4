import Chip8.Memory

namespace Chip8.Memory

/-- The two bytes from `addr` on, read as a big-endian number. -/
def wordValue (memory : Memory) (addr : Nat) : Nat :=
  256 * (memory.byteAt addr).toNat + (memory.byteAt (addr + 1)).toNat

theorem wordValue_lt (memory : Memory) (addr : Nat) : memory.wordValue addr < UInt16.size := by
  have high := (memory.byteAt addr).toNat_lt
  have low := (memory.byteAt (addr + 1)).toNat_lt
  simp only [wordValue, UInt16.size]
  omega

theorem readWord_eq_ok_iff (memory : Memory) (addr word : UInt16) :
    memory.readWord addr = .ok word ↔
      Fits addr 2 ∧ word.toNat = memory.wordValue addr.toNat := by
  have range := memory.wordValue_lt addr.toNat
  have value : (memory.byteAt addr.toNat).toNat * 256 + (memory.byteAt (addr.toNat + 1)).toNat =
      memory.wordValue addr.toNat := by
    rw [wordValue, Nat.mul_comm]
  unfold readWord
  rw [value]
  constructor
  · intro read
    split at read
    · rename_i inside
      cases read
      exact ⟨inside, UInt16.toNat_ofNat_of_lt' range⟩
    · cases read
  · rintro ⟨inside, same⟩
    rw [if_pos inside, ← same, UInt16.ofNat_toNat]

theorem readWord_eq_error_iff (memory : Memory) (addr : UInt16) (fault : Fault) :
    memory.readWord addr = .error fault ↔
      ¬ Fits addr 2 ∧ fault = .memoryOutOfBounds addr.toNat 2 := by
  unfold readWord
  split
  · rename_i inside
    simp [inside]
  · rename_i past
    simp [past, eq_comm]

theorem length_slice {memory : Memory} {addr : UInt16} {len : Nat} {bytes : List UInt8}
    (read : memory.slice addr len = .ok bytes) : bytes.length = len := by
  obtain ⟨_, same⟩ := (slice_eq_ok_iff ..).mp read
  rw [same, List.length_map, List.length_range']

theorem getElem?_slice {memory : Memory} {addr : UInt16} {len k : Nat} {bytes : List UInt8}
    (read : memory.slice addr len = .ok bytes) (inside : k < len) :
    bytes[k]? = some (memory.byteAt (addr.toNat + k)) := by
  obtain ⟨_, same⟩ := (slice_eq_ok_iff ..).mp read
  rw [same, List.getElem?_map, List.getElem?_range' inside, Nat.one_mul, Option.map_some]

section Host

variable (memory : Memory) {addr : UInt16} {len : UInt64}

theorem hostSlice_of_summable (small : Summable addr len) :
    memory.hostSlice addr len = some (memory.slice addr len.toNat) :=
  if_pos small

theorem hostFill_of_summable (byte : UInt8) (small : Summable addr len) :
    memory.hostFill addr len byte = some (memory.fill addr len.toNat byte) :=
  if_pos small

private theorem summable_of_fits (fits : Fits addr len.toNat) : Summable addr len :=
  Nat.lt_of_le_of_lt fits (by decide)

theorem hostSlice_of_fits (fits : Fits addr len.toNat) :
    memory.hostSlice addr len = some (memory.slice addr len.toNat) :=
  memory.hostSlice_of_summable (summable_of_fits fits)

theorem hostFill_of_fits (byte : UInt8) (fits : Fits addr len.toNat) :
    memory.hostFill addr len byte = some (.ok { memory with
      bytes := overlay memory.bytes addr.toNat (List.replicate len.toNat byte) }) := by
  rw [memory.hostFill_of_summable byte (summable_of_fits fits), fill, if_pos fits]

end Host

/-- Outside of an overlay everything is as before. -/
theorem getElem?_overlay_outside (bytes : Vector UInt8 memorySize) (start : Nat)
    (data : List UInt8) {k : Nat} (outside : ¬ (start ≤ k ∧ k < start + data.length)) :
    (overlay bytes start data)[k]? = bytes[k]? := by
  by_cases inside : k < memorySize
  · rw [getElem?_overlay bytes start data k inside, if_neg outside]
  · rw [Vector.getElem?_eq_none (Nat.le_of_not_lt inside),
      Vector.getElem?_eq_none (Nat.le_of_not_lt inside)]

theorem byteAt_write_outside {memory written : Memory} {addr : UInt16} {data : List UInt8}
    (done : memory.write addr data = .ok written) {k : Nat}
    (outside : ¬ (addr.toNat ≤ k ∧ k < addr.toNat + data.length)) :
    written.byteAt k = memory.byteAt k := by
  unfold write at done
  split at done
  · cases done
    exact congrArg (Option.getD · 0) (getElem?_overlay_outside memory.bytes _ data outside)
  · cases done

/-- The bounds check of the write refuses no program that the capacity lets pass. -/
theorem load_of_few {memory : Memory} {program : List UInt8}
    (few : program.length ≤ memory.capacity) :
    memory.load program =
      .ok { memory with bytes := overlay memory.bytes memory.programStart.val program } := by
  have start := memory.programStart.isLt
  have addr : (UInt16.ofNat memory.programStart.val).toNat = memory.programStart.val :=
    UInt16.toNat_ofNat_of_lt' (Nat.lt_trans start (by decide))
  have fits : Fits (UInt16.ofNat memory.programStart.val) program.length := by
    simp only [Fits, addr, capacity] at *
    omega
  rw [load, if_pos few, write, if_pos fits, addr]

theorem load_of_many {memory : Memory} {program : List UInt8}
    (many : ¬ program.length ≤ memory.capacity) :
    memory.load program = .error (.programTooLarge program.length memory.capacity) :=
  if_neg many

/-- A loaded program is read back byte by byte. -/
theorem byteAt_load {memory loaded : Memory} {program : List UInt8}
    (load : memory.load program = .ok loaded) {k : Nat} {byte : UInt8}
    (found : program[k]? = some byte) :
    loaded.byteAt (memory.programStart.val + k) = byte := by
  by_cases few : program.length ≤ memory.capacity
  · rw [load_of_few few] at load
    cases load
    obtain ⟨place, _⟩ := List.getElem?_eq_some_iff.mp found
    have inside : memory.programStart.val + k < memorySize := by
      simp only [capacity] at few
      omega
    have covered : memory.programStart.val ≤ memory.programStart.val + k ∧
        memory.programStart.val + k < memory.programStart.val + program.length := by omega
    rw [byteAt, getElem?_overlay _ _ _ _ inside, if_pos covered, Nat.add_sub_cancel_left, found,
      Option.getD_some]
  · rw [load_of_many few] at load
    cases load

/-- The two bytes of a word make the word again. -/
theorem wordValue_of_bytes {memory : Memory} {addr : Nat} {word : UInt16}
    (high : memory.byteAt addr = UInt8.ofNat (word.toNat / 256))
    (low : memory.byteAt (addr + 1) = UInt8.ofNat (word.toNat % 256)) :
    word.toNat = memory.wordValue addr := by
  have range := word.toNat_lt
  have upper : (UInt8.ofNat (word.toNat / 256)).toNat = word.toNat / 256 :=
    UInt8.toNat_ofNat_of_lt' (Nat.div_lt_of_lt_mul range)
  have lower : (UInt8.ofNat (word.toNat % 256)).toNat = word.toNat % 256 :=
    UInt8.toNat_ofNat_of_lt' (Nat.mod_lt _ (by decide))
  rw [wordValue, high, low, upper, lower, Nat.div_add_mod]

end Chip8.Memory
