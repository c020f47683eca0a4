import Chip8.Proofs.Memory.Access
import Mathlib.Data.List.Induction

/-! Memory as a store. Whatever was written, filled, loaded and moved in a new memory, and whatever
of it was refused, each address holds the byte that the last successful edit covering it put there,
or else the byte of a new memory. Which edits succeed is told by where they stand in the history.
Lengths are those of the host, 64 bits wide: a length whose sum with the address is no such number
is not refused but stops the program. -/
namespace Chip8.Memory

/-- What is done to a memory. -/
inductive Edit where
  | write (addr : UInt16) (data : List UInt8)
  | fill (addr : UInt16) (len : UInt64) (byte : UInt8)
  | load (program : List UInt8)
  | moveProgramStart (start : Fin (memorySize + 1))
  | moveFontStart (start : UInt16)

/-- Does one thing to a memory, or refuses it, or stops the program. -/
def attempt (memory : Memory) : Edit → Option (Except Fault Memory)
  | .write addr data => some (memory.write addr data)
  | .fill addr len byte => memory.hostFill addr len byte
  | .load program => some (memory.load program)
  | .moveProgramStart start => some (.ok { memory with programStart := start })
  | .moveFontStart start => some (.ok { memory with fontStart := start })

/-- The memory after an edit, which is the one of before if the edit fails. -/
def edit (memory : Memory) (next : Edit) : Memory :=
  match memory.attempt next with
  | some (.ok edited) => edited
  | _ => memory

def edited (history : List Edit) : Memory := history.foldl edit fresh

/-! ### The bytes that a history tells -/

def initialByte (addr : Nat) : UInt8 := if addr < 80 then (Font.image[addr]?).getD 0 else 0

namespace Edit

/-- Where an edit moves the program start, if it does. -/
def programStart? : Edit → Option Nat
  | moveProgramStart start => some start.val
  | _ => none

/-- Where programs start after a history: where that was last moved, or where it is at first. -/
def startAfter (history : List Edit) : Nat :=
  (history.filterMap programStart?).getLast?.getD 0x200

/-- Where an edit that comes after a history is to put bytes, and which. -/
def patch (history : List Edit) : Edit → Nat × List UInt8
  | write addr data => (addr.toNat, data)
  | fill addr len byte => (addr.toNat, List.replicate len.toNat byte)
  | load program => (startAfter history, program)
  | moveProgramStart _ | moveFontStart _ => (0, [])

/-- Whether all that an edit is to put has a place. -/
def Succeeds (history : List Edit) (next : Edit) : Prop :=
  (next.patch history).1 + (next.patch history).2.length ≤ 4096

/-- Whether an edit that comes after a history succeeds and puts `byte` at `addr`. -/
def Puts (history : List Edit) (next : Edit) (addr : Nat) (byte : UInt8) : Prop :=
  next.Succeeds history ∧ (next.patch history).1 ≤ addr ∧
    (next.patch history).2[addr - (next.patch history).1]? = some byte

/-- Whether none of the edits `later`, which come after a history, puts a byte at `addr`. -/
def Spare (addr : Nat) (history later : List Edit) : Prop :=
  ∀ between next rest byte, later = between ++ next :: rest →
    ¬ next.Puts (history ++ between) addr byte

/-- The byte that an address holds after a history: the last one put there, or the initial one. -/
inductive Last (addr : Nat) : List Edit → UInt8 → Prop where
  | initial {history : List Edit} (spared : Spare addr [] history) :
      Last addr history (initialByte addr)
  | put {before after : List Edit} {next : Edit} {byte : UInt8} (puts : next.Puts before addr byte)
      (spared : Spare addr (before ++ [next]) after) : Last addr (before ++ next :: after) byte

theorem startAfter_concat (history : List Edit) (next : Edit) :
    startAfter (history ++ [next]) = (programStart? next).getD (startAfter history) := by
  cases next <;> simp [startAfter, programStart?, List.filterMap_cons]

theorem spare_nil (addr : Nat) (history : List Edit) : Spare addr history [] := by
  intro between next rest byte split
  cases between <;> cases split

theorem spare_cons {addr : Nat} {history later : List Edit} {next : Edit} :
    Spare addr history (next :: later) ↔
      (∀ byte, ¬ next.Puts history addr byte) ∧ Spare addr (history ++ [next]) later := by
  constructor
  · intro spared
    constructor
    · intro byte
      have first := spared [] next later byte rfl
      rwa [List.append_nil] at first
    · intro between after rest byte split
      have behind := spared (next :: between) after rest byte (by rw [split]; rfl)
      rwa [List.append_cons] at behind
  · rintro ⟨first, spared⟩ between after rest byte split
    cases between with
    | nil =>
      obtain ⟨rfl, rfl⟩ := List.cons.inj split
      rw [List.append_nil]
      exact first byte
    | cons head between =>
      obtain ⟨rfl, tail⟩ := List.cons.inj split
      rw [List.append_cons]
      exact spared between after rest byte tail

/-- Of the edits behind a history there is a last one that puts a byte at an address, or none. -/
private theorem spare_or_put (addr : Nat) (history later : List Edit) :
    Spare addr history later ∨ ∃ between next rest byte, later = between ++ next :: rest ∧
      next.Puts (history ++ between) addr byte ∧
        Spare addr (history ++ between ++ [next]) rest := by
  induction later generalizing history with
  | nil => exact .inl (spare_nil addr history)
  | cons next later ih =>
    rcases ih (history ++ [next]) with spared | ⟨between, last, rest, byte, rfl, puts, spared⟩
    · by_cases put : ∃ byte, next.Puts history addr byte
      · obtain ⟨byte, puts⟩ := put
        refine .inr ⟨[], next, later, byte, rfl, ?_, ?_⟩
        · rwa [List.append_nil]
        · rwa [List.append_nil]
      · exact .inl (spare_cons.mpr ⟨not_exists.mp put, spared⟩)
    · rw [← List.append_cons] at puts spared
      exact .inr ⟨next :: between, last, rest, byte, rfl, puts, spared⟩

theorem exists_last (addr : Nat) (history : List Edit) : ∃ byte, Last addr history byte := by
  rcases spare_or_put addr [] history with spared | ⟨before, next, after, byte, rfl, puts, spared⟩
  · exact ⟨_, .initial spared⟩
  · exact ⟨byte, .put puts spared⟩

end Edit

open Edit

/-! ### The bytes of the memory -/

theorem edited_concat (history : List Edit) (next : Edit) :
    edited (history ++ [next]) = (edited history).edit next := by
  rw [edited, List.foldl_append, List.foldl_cons, List.foldl_nil, edited]

theorem byteAt_fresh {addr : Nat} (inside : addr < memorySize) :
    fresh.byteAt addr = initialByte addr := by
  have length : Font.image.length = 80 := rfl
  rw [byteAt, fresh, getElem?_overlay _ _ _ _ inside, length, initialByte, Nat.zero_add,
    Nat.sub_zero]
  by_cases glyph : addr < 80
  · rw [if_pos ⟨Nat.zero_le addr, glyph⟩, if_pos glyph]
  · rw [if_neg fun covered => glyph covered.2, if_neg glyph]
    simp [inside]

section Attempt

variable {memory : Memory} {history : List Edit}
  (start : memory.programStart.val = startAfter history) {next : Edit}

include start

private theorem fits_iff_capacity (program : List UInt8) :
    (Edit.load program).Succeeds history ↔ program.length ≤ memory.capacity := by
  have bound := memory.programStart.isLt
  simp only [Succeeds, patch, capacity, memorySize, ← start] at *
  omega

/-- An edit that succeeds lays its bytes over those that were there. -/
private theorem attempt_of_succeeds (succeeds : next.Succeeds history) :
    ∃ after, memory.attempt next = some (.ok after) ∧
      after.bytes = overlay memory.bytes (next.patch history).1 (next.patch history).2 ∧
      after.programStart.val = startAfter (history ++ [next]) := by
  rw [startAfter_concat]
  cases next with
  | write addr data => exact ⟨_, congrArg some (if_pos succeeds), rfl, start⟩
  | fill addr len byte =>
    have fits : Fits addr len.toNat := by
      rwa [Succeeds, patch, List.length_replicate] at succeeds
    exact ⟨_, hostFill_of_fits memory byte fits, rfl, start⟩
  | load program =>
    have bytes : overlay memory.bytes memory.programStart.val program =
        overlay memory.bytes (startAfter history) program := by rw [start]
    have loaded := load_of_few ((fits_iff_capacity start program).mp succeeds)
    exact ⟨_, congrArg some loaded, bytes, start⟩
  | moveProgramStart place => exact ⟨_, rfl, rfl, rfl⟩
  | moveFontStart place => exact ⟨_, rfl, rfl, start⟩

private theorem edit_of_refused (refused : ¬ next.Succeeds history) :
    memory.edit next = memory ∧ startAfter (history ++ [next]) = startAfter history := by
  rw [startAfter_concat]
  cases next with
  | write addr data =>
    have failed : memory.attempt (.write addr data) = some (.error _) :=
      congrArg some (if_neg refused)
    exact ⟨by rw [edit, failed], rfl⟩
  | fill addr len byte =>
    have past : ¬ Fits addr len.toNat := by
      rwa [Succeeds, patch, List.length_replicate] at refused
    refine ⟨?_, rfl⟩
    by_cases small : Summable addr len
    · have failed : memory.attempt (.fill addr len byte) = some (.error _) :=
        (hostFill_of_summable memory byte small).trans (congrArg some (if_neg past))
      rw [edit, failed]
    · have stopped : memory.attempt (.fill addr len byte) = none := if_neg small
      rw [edit, stopped]
  | load program =>
    have many : ¬ program.length ≤ memory.capacity :=
      fun few => refused ((fits_iff_capacity start program).mpr few)
    have failed : memory.attempt (.load program) = some (.error _) :=
      congrArg some (load_of_many many)
    exact ⟨by rw [edit, failed], rfl⟩
  | moveProgramStart place | moveFontStart place =>
    exact absurd (Nat.zero_le 4096) refused

private theorem programStart_edit :
    (memory.edit next).programStart.val = startAfter (history ++ [next]) := by
  by_cases succeeds : next.Succeeds history
  · obtain ⟨after, done, _, moved⟩ := attempt_of_succeeds start succeeds
    rw [edit, done, moved]
  · obtain ⟨same, still⟩ := edit_of_refused start succeeds
    rw [same, still, start]

private theorem byteAt_edit_of_puts {addr : Nat} {byte : UInt8}
    (puts : next.Puts history addr byte) : (memory.edit next).byteAt addr = byte := by
  obtain ⟨succeeds, behind, found⟩ := puts
  obtain ⟨after, done, bytes, _⟩ := attempt_of_succeeds start succeeds
  obtain ⟨place, _⟩ := List.getElem?_eq_some_iff.mp found
  have inside : addr < memorySize := by
    simp only [Succeeds, memorySize] at *
    omega
  rw [edit, done, byteAt, bytes, getElem?_overlay _ _ _ _ inside, if_pos ⟨behind, by omega⟩,
    found, Option.getD_some]

private theorem byteAt_edit_of_spared {addr : Nat}
    (spared : ∀ byte, ¬ next.Puts history addr byte) :
    (memory.edit next).byteAt addr = memory.byteAt addr := by
  by_cases succeeds : next.Succeeds history
  · obtain ⟨after, done, bytes, _⟩ := attempt_of_succeeds start succeeds
    rw [edit, done, byteAt, bytes, getElem?_overlay_outside, byteAt]
    rintro ⟨behind, covered⟩
    have place : addr - (next.patch history).1 < (next.patch history).2.length := by omega
    exact spared _ ⟨succeeds, behind, List.getElem?_eq_getElem place⟩
  · rw [(edit_of_refused start succeeds).1]

end Attempt

theorem programStart_edited (history : List Edit) :
    (edited history).programStart.val = startAfter history := by
  induction history using List.reverseRecOn with
  | nil => rfl
  | append_singleton history next ih =>
    rw [edited_concat]
    exact programStart_edit ih

private theorem byteAt_of_spare {addr : Nat} {history later : List Edit}
    (spared : Spare addr history later) :
    (edited (history ++ later)).byteAt addr = (edited history).byteAt addr := by
  induction later generalizing history with
  | nil => rw [List.append_nil]
  | cons next later ih =>
    obtain ⟨first, others⟩ := spare_cons.mp spared
    rw [List.append_cons, ih others, edited_concat]
    exact byteAt_edit_of_spared (programStart_edited history) first

theorem byteAt_of_last {addr : Nat} {history : List Edit} {byte : UInt8}
    (inside : addr < memorySize) (last : Last addr history byte) :
    (edited history).byteAt addr = byte := by
  cases last with
  | initial spared =>
    have same := byteAt_of_spare spared
    rw [List.nil_append] at same
    rw [same]
    exact byteAt_fresh inside
  | put puts spared =>
    rw [List.append_cons, byteAt_of_spare spared, edited_concat]
    exact byteAt_edit_of_puts (programStart_edited _) puts

theorem last_iff {addr : Nat} {history : List Edit} (inside : addr < memorySize) (byte : UInt8) :
    Last addr history byte ↔ byte = (edited history).byteAt addr := by
  constructor
  · intro last
    exact (byteAt_of_last inside last).symm
  · rintro rfl
    obtain ⟨byte, last⟩ := exists_last addr history
    rwa [byteAt_of_last inside last]

/-- What a memory answers after a history of edits. -/
structure Remembers (memory : Memory) (history : List Edit) : Prop where
  write (addr : UInt16) (data : List UInt8) :
    if addr.toNat + data.length ≤ 4096 then ∃ after, memory.write addr data = .ok after
    else memory.write addr data = .error (.memoryOutOfBounds addr.toNat data.length)
  fill (addr : UInt16) (len : UInt64) (byte : UInt8) :
    if addr.toNat + len.toNat ≤ 4096 then
      ∃ after, memory.hostFill addr len byte = some (.ok after)
    else if addr.toNat + len.toNat < 18446744073709551616 then
      memory.hostFill addr len byte = some (.error (.memoryOutOfBounds addr.toNat len.toNat))
    else memory.hostFill addr len byte = none
  load (program : List UInt8) :
    if startAfter history + program.length ≤ 4096 then ∃ after, memory.load program = .ok after
    else memory.load program =
      .error (.programTooLarge program.length (4096 - startAfter history))
  failed (next : Edit) (fails : ∀ after, memory.attempt next ≠ some (.ok after)) :
    memory.edit next = memory
  slice (addr : UInt16) (len : UInt64) :
    if addr.toNat + len.toNat ≤ 4096 then
      ∃ bytes, memory.hostSlice addr len = some (.ok bytes) ∧ bytes.length = len.toNat ∧
        ∀ k < len.toNat, ∀ byte, bytes[k]? = some byte ↔ Last (addr.toNat + k) history byte
    else if addr.toNat + len.toNat < 18446744073709551616 then
      memory.hostSlice addr len = some (.error (.memoryOutOfBounds addr.toNat len.toNat))
    else memory.hostSlice addr len = none
  readByte (addr : UInt16) :
    if addr.toNat + 1 ≤ 4096 then
      ∃ byte, memory.readByte addr = .ok byte ∧
        ∀ other, other = byte ↔ Last addr.toNat history other
    else memory.readByte addr = .error (.memoryOutOfBounds addr.toNat 1)
  readWord (addr : UInt16) :
    if addr.toNat + 2 ≤ 4096 then
      ∃ word high low, memory.readWord addr = .ok word ∧
        memory.readByte addr = .ok high ∧ memory.readByte (addr + 1) = .ok low ∧
        word.toNat = 256 * high.toNat + low.toNat
    else memory.readWord addr = .error (.memoryOutOfBounds addr.toNat 2)

private theorem slice_edited (history : List Edit) {addr : UInt16} {len : Nat}
    (fits : addr.toNat + len ≤ 4096) :
    ∃ bytes, (edited history).slice addr len = .ok bytes ∧ bytes.length = len ∧
      ∀ k < len, ∀ byte, bytes[k]? = some byte ↔ Last (addr.toNat + k) history byte := by
  obtain ⟨bytes, read⟩ : ∃ bytes, (edited history).slice addr len = .ok bytes := ⟨_, if_pos fits⟩
  refine ⟨bytes, read, length_slice read, ?_⟩
  intro k inside byte
  have place : addr.toNat + k < memorySize := Nat.lt_of_lt_of_le (by omega) fits
  rw [last_iff place, getElem?_slice read inside, Option.some_inj, eq_comm]

private theorem readWord_edited (history : List Edit) {addr : UInt16}
    (fits : addr.toNat + 2 ≤ 4096) :
    ∃ word high low, (edited history).readWord addr = .ok word ∧
      (edited history).readByte addr = .ok high ∧ (edited history).readByte (addr + 1) = .ok low ∧
      word.toNat = 256 * high.toNat + low.toNat := by
  have next : (addr + 1).toNat = addr.toNat + 1 := by
    rw [UInt16.toNat_add, UInt16.toNat_one]
    omega
  have range := (edited history).wordValue_lt addr.toNat
  have value : (UInt16.ofNat ((edited history).wordValue addr.toNat)).toNat =
      (edited history).wordValue addr.toNat := UInt16.toNat_ofNat_of_lt' range
  have first : Fits addr 1 := Nat.le_of_succ_le fits
  have second : Fits (addr + 1) 1 := by
    rw [Fits, next]
    exact fits
  refine ⟨_, _, _, (readWord_eq_ok_iff _ addr _).mpr ⟨fits, value⟩, if_pos first, if_pos second, ?_⟩
  rw [value, next, wordValue]

example : (edited [.write 0x2fe [1, 2, 3], .write 0x300 [4], .fill 0xffe 3 5]).slice 0x2fe 3 =
    .ok [1, 2, 4] := by decide +kernel

end Chip8.Memory
