import Chip8.Proofs.Instruction.Layout
import Chip8.Proofs.Machine.Execution
import Chip8.Proofs.Memory.Access

namespace Chip8

open Instruction

namespace Memory

variable {memory written : Memory} {addr : UInt16} {data : List UInt8}

/-- What was written is read back, whatever has happened to the rest of memory since. -/
theorem slice_of_write {later : Memory} (done : memory.write addr data = .ok written)
    (same : ∀ k, addr.toNat ≤ k → k < addr.toNat + data.length →
      later.byteAt k = written.byteAt k) : later.slice addr data.length = .ok data := by
  unfold write at done
  split at done
  · rename_i fits
    cases done
    have read : later.slice addr data.length = .ok _ := if_pos fits
    rw [read]
    refine congrArg _ (List.ext_getElem? ?_)
    intro k
    by_cases here : k < data.length
    · have inside : addr.toNat + k < memorySize := Nat.lt_of_lt_of_le (by omega) fits
      have covered : addr.toNat ≤ addr.toNat + k ∧ addr.toNat + k < addr.toNat + data.length := by
        omega
      rw [getElem?_slice read here, same _ covered.1 covered.2, byteAt,
        getElem?_overlay _ _ _ _ inside, if_pos covered, Nat.add_sub_cancel_left,
        List.getElem?_eq_getElem here, Option.getD_some]
    · have past := Nat.le_of_not_lt here
      rw [List.getElem?_eq_none past, List.getElem?_eq_none]
      rw [length_slice read]
      exact past
  · cases done

/-- Bytes that are written back to where they were read change nothing. -/
theorem write_of_slice {len : Nat} (read : memory.slice addr len = .ok data) :
    memory.write addr data = .ok memory := by
  have length := length_slice read
  obtain ⟨fits, _⟩ := (slice_eq_ok_iff ..).mp read
  have same : overlay memory.bytes addr.toNat data = memory.bytes := by
    refine Vector.ext fun k inside => Option.some.inj ?_
    rw [← Vector.getElem?_eq_getElem inside, ← Vector.getElem?_eq_getElem inside]
    by_cases covered : addr.toNat ≤ k ∧ k < addr.toNat + data.length
    · have place : addr.toNat + (k - addr.toNat) = k := Nat.add_sub_of_le covered.1
      rw [getElem?_overlay _ _ _ _ inside, if_pos covered, getElem?_slice read (by omega), place,
        byteAt, Vector.getElem?_eq_getElem inside, Option.getD_some]
    · exact getElem?_overlay_outside _ _ _ covered
  rw [← length] at fits
  rw [write, if_pos fits, same]

end Memory

namespace Machine

private theorem firstRegisters_withRegisters (v : Vector UInt8 16) {bytes : List UInt8}
    (few : bytes.length ≤ 16) : firstRegisters (withRegisters v 0 bytes) bytes.length = bytes := by
  refine List.ext_getElem (length_firstRegisters _ few) ?_
  intro k _ here
  let r : Register := ⟨k, Nat.lt_of_lt_of_le here few⟩
  have moved : (firstRegisters (withRegisters v 0 bytes) bytes.length)[r.val]? = some bytes[k] := by
    rw [getElem?_firstRegisters _ here, get_withRegisters, if_pos (Nat.zero_le _), Nat.sub_zero,
      List.getElem?_eq_getElem here, Option.getD_some]
  exact (List.getElem_of_getElem? moved).2

private theorem get_withRegisters_firstRegisters (v w : Vector UInt8 16) {count : Nat}
    (few : count ≤ 16) (r : Register) :
    (withRegisters w 0 (firstRegisters v count)).get r =
      if r.val < count then v.get r else w.get r := by
  rw [get_withRegisters, if_pos (Nat.zero_le _), Nat.sub_zero]
  split
  · rename_i moved
    rw [getElem?_firstRegisters v moved, Option.getD_some]
  · rename_i past
    have length := length_firstRegisters v few
    rw [List.getElem?_eq_none (by omega), Option.getD_none]

variable {δ κ τ : Type}

/-- Whether a machine, whatever else has become of it, has the index, the setting and the `count`
bytes that it had in `stored`. -/
structure StillHolds (stored changed : Machine δ κ τ) (count : Nat) : Prop where
  index : changed.i = stored.i
  inclusive : changed.settings.inclusive = stored.settings.inclusive
  bytes (k : Nat) (first : stored.i.toNat ≤ k) (last : k < stored.i.toNat + count) :
    changed.memory.byteAt k = stored.memory.byteAt k

variable [Screen δ] [Keypad κ]

/-- What the block transfers up to register `x` do in `m` when they move `count` registers. -/
structure Transfers (m : Machine δ κ τ) (x : Register) (count : Nat) : Prop where
  words : decode (wordOfByte 0xf x 0x55) = .ok (.storeRegs x) ∧
    decode (wordOfByte 0xf x 0x65) = .ok (.loadRegs x)
  -- Registers that are stored can be loaded again later, and nothing else is touched.
  restores (fits : m.i.toNat + count ≤ 4096) : ∃ stored,
    m.execute (.storeRegs x) = .done () stored ∧
      stored = { m with memory := { m.memory with bytes := stored.memory.bytes } } ∧
      (∀ k, ¬ (m.i.toNat ≤ k ∧ k < m.i.toNat + count) →
        stored.memory.byteAt k = m.memory.byteAt k) ∧
      ∀ changed : Machine δ κ τ, StillHolds stored changed count → ∃ loaded,
        changed.execute (.loadRegs x) = .done () loaded ∧
          loaded = { changed with v := loaded.v } ∧
          ∀ r, loaded.v.get r = if r.val < count then m.v.get r else changed.v.get r
  -- Registers that were loaded and are stored again leave memory as it was.
  rewrites (fits : m.i.toNat + count ≤ 4096) : ∃ loaded,
    m.execute (.loadRegs x) = .done () loaded ∧ loaded = { m with v := loaded.v } ∧
      loaded.execute (.storeRegs x) = .done () loaded
  -- Where some byte does not exist both are refused for the same cause, and nothing changes.
  refused (past : 4096 < m.i.toNat + count) :
    let cause := Fault.memoryOutOfBounds m.i.toNat count
    m.execute (.storeRegs x) = .failed cause m ∧ m.execute (.loadRegs x) = .failed cause m

private theorem stored_of_fits (m : Machine δ κ τ) (x : Register)
    (fits : Memory.Fits m.i (m.transferCount x)) : ∃ memory,
      m.memory.write m.i (firstRegisters m.v (m.transferCount x)) = .ok memory ∧
      m.execute (.storeRegs x) = .done () { m with memory } := by
  have count := length_firstRegisters m.v (m.transferCount_le x)
  rw [← count] at fits
  have written : m.memory.write m.i (firstRegisters m.v (m.transferCount x)) = .ok _ := if_pos fits
  refine ⟨_, written, ?_⟩
  rw [execute, written]
  rfl

private theorem execute_loadRegs {m : Machine δ κ τ} {x : Register} {bytes : List UInt8}
    (read : m.memory.slice m.i (m.transferCount x) = .ok bytes) :
    m.execute (.loadRegs x) = .done () { m with v := withRegisters m.v 0 bytes } := by
  simp only [execute, read, finish]

private theorem restores_of_fits {m : Machine δ κ τ} {x : Register}
    (fits : Memory.Fits m.i (m.transferCount x)) : ∃ stored,
    m.execute (.storeRegs x) = .done () stored ∧
      stored = { m with memory := { m.memory with bytes := stored.memory.bytes } } ∧
      (∀ k, ¬ (m.i.toNat ≤ k ∧ k < m.i.toNat + m.transferCount x) →
        stored.memory.byteAt k = m.memory.byteAt k) ∧
      ∀ changed : Machine δ κ τ, StillHolds stored changed (m.transferCount x) → ∃ loaded,
        changed.execute (.loadRegs x) = .done () loaded ∧
          loaded = { changed with v := loaded.v } ∧
          ∀ r, loaded.v.get r =
            if r.val < m.transferCount x then m.v.get r else changed.v.get r := by
  have few := m.transferCount_le x
  have count := length_firstRegisters m.v few
  obtain ⟨memory, written, executed⟩ := stored_of_fits m x fits
  refine ⟨_, executed, ?_, ?_, ?_⟩
  · unfold Memory.write at written
    split at written <;> cases written
    rfl
  · intro k outside
    rw [← count] at outside
    exact Memory.byteAt_write_outside written outside
  · intro changed holds
    have bytes := holds.bytes
    rw [← count] at bytes
    have kept := Memory.slice_of_write written bytes
    rw [count] at kept
    have index : changed.i = m.i := holds.index
    have same : changed.transferCount x = m.transferCount x := by
      rw [transferCount, transferCount, holds.inclusive]
    have read : changed.memory.slice changed.i (changed.transferCount x) =
        .ok (firstRegisters m.v (m.transferCount x)) := by
      rw [index, same]
      exact kept
    exact ⟨_, execute_loadRegs read, rfl, get_withRegisters_firstRegisters m.v changed.v few⟩

private theorem rewrites_of_fits {m : Machine δ κ τ} {x : Register}
    (fits : Memory.Fits m.i (m.transferCount x)) : ∃ loaded,
    m.execute (.loadRegs x) = .done () loaded ∧ loaded = { m with v := loaded.v } ∧
      loaded.execute (.storeRegs x) = .done () loaded := by
  obtain ⟨bytes, read⟩ : ∃ bytes, m.memory.slice m.i (m.transferCount x) = .ok bytes :=
    ⟨_, if_pos fits⟩
  have few : bytes.length ≤ 16 := by
    rw [Memory.length_slice read]
    exact m.transferCount_le x
  have moved := firstRegisters_withRegisters m.v few
  rw [Memory.length_slice read] at moved
  have written := Memory.write_of_slice read
  rw [← moved] at written
  refine ⟨_, execute_loadRegs read, rfl, ?_⟩
  exact congrArg (stored { m with v := withRegisters m.v 0 bytes }) written

/-- Block transfers undo each other in every machine: registers that were stored can be loaded again
whatever has happened elsewhere since, and registers that were loaded can be stored again without
effect. -/
theorem transfers_undone (m : Machine δ κ τ) (x : Register) :
    m.Transfers x (x.val + if m.settings.inclusive then 1 else 0) := by
  rw [← transferCount_eq]
  exact {
    words := ⟨(decode_eq_ok_iff ..).mpr ⟨trivial, rfl⟩, (decode_eq_ok_iff ..).mpr ⟨trivial, rfl⟩⟩
    restores := restores_of_fits
    rewrites := rewrites_of_fits
    refused past := by
      have outside : ¬ Memory.Fits m.i (m.transferCount x) := Nat.not_le_of_lt past
      exact ⟨execute_of_fails (.outside rfl outside), execute_of_fails (.outside rfl outside)⟩ }

end Machine

end Chip8
