import Chip8.Proofs.Machine.History

namespace Chip8

/-- The address of an instruction that follows another one, or the end of memory. -/
def IsReturn (target : UInt16) : Prop := 2 ≤ target.toNat ∧ target.toNat ≤ 4096

structure Core.InRange (c : Core) : Prop where
  bytes : c.memory.bytes.toList.length = 4096
  programStart : c.memory.programStart.val = 0x200
  fontStart : c.memory.fontStart = 0
  depth : c.stack.length ≤ 16
  returns : ∀ target ∈ c.stack, IsReturn target
  pc : c.pc.toNat ≤ 0xfff + 0xff
  waiting : ∀ x, c.mode = .awaiting x → x.val ≤ 0xf

namespace Core

theorem inRange_initial (seed : Option UInt64) (random : RandomStream) :
    InRange { initial seed with random } where
  bytes := Vector.length_toList
  programStart := rfl
  fontStart := rfl
  depth := Nat.zero_le 16
  returns := by
    intro target member
    cases member
  pc := Nat.le_of_ble_eq_true rfl
  waiting := by
    intro x waiting
    cases waiting

private theorem toNat_target {n : Nat} (near : n ≤ 0xfff + 0xff) : (UInt16.ofNat n).toNat = n :=
  UInt16.toNat_ofNat_of_lt' (Nat.lt_of_le_of_lt near (by decide))

theorem toNat_next {pc : UInt16} (near : pc.toNat ≤ 4096) : (pc + 2).toNat = pc.toNat + 2 := by
  have two : (2 : UInt16).toNat = 2 := rfl
  rw [UInt16.toNat_add, two]
  omega

/-- A fetched instruction stands in memory, so `pc` behind it is an address to return to. This
bounds what a call remembers and how far a skip gets. -/
theorem Goes.inRange {c : Core} {instruction : Instruction} {pc : UInt16} {stack : List UInt16}
    (goes : c.Goes instruction pc stack) (range : c.InRange) (passed : IsReturn c.pc) :
    stack.length ≤ 16 ∧ (∀ target ∈ stack, IsReturn target) ∧ pc.toNat ≤ 0xfff + 0xff := by
  have inside := passed.2
  cases goes with
  | onward => exact ⟨range.depth, range.returns, by omega⟩
  | skipping =>
    refine ⟨range.depth, range.returns, ?_⟩
    rw [toNat_next inside]
    omega
  | jumping target =>
    refine ⟨range.depth, range.returns, ?_⟩
    have address := target.isLt
    rw [toNat_target (by omega)]
    omega
  | jumpingFar target offset =>
    refine ⟨range.depth, range.returns, ?_⟩
    have address := target.isLt
    have small := offset.toNat_lt
    rw [toNat_target (by omega)]
    omega
  | calling target room =>
    have address := target.isLt
    refine ⟨room, ?_, ?_⟩
    · intro target member
      rcases List.mem_cons.mp member with same | old
      · rw [same]
        exact passed
      · exact range.returns target old
    · rw [toNat_target (by omega)]
      omega
  | returning top =>
    have depth := range.depth
    have returns := range.returns
    rw [top] at depth returns
    have target := returns _ List.mem_cons_self
    refine ⟨Nat.le_of_succ_le depth, ?_, ?_⟩
    · intro target member
      exact returns target (List.mem_cons_of_mem _ member)
    · have bound := target.2
      omega

theorem Executed.inRange {before after : Core} {instruction : Instruction}
    (executed : before.Executed instruction after) (range : before.InRange)
    (passed : IsReturn before.pc) : after.InRange := by
  obtain ⟨depth, returns, pc⟩ := executed.control.inRange range passed
  exact {
    bytes := Vector.length_toList
    programStart := by rw [executed.programStart, range.programStart]
    fontStart := by rw [executed.fontStart, range.fontStart]
    depth := depth
    returns := returns
    pc := pc
    waiting := fun x _ => Nat.le_of_lt_succ x.isLt }

end Core

namespace Machine

variable {δ κ τ : Type}

/-- A fetch succeeds in memory only. -/
theorem isReturn_past {m : Machine δ κ τ} {word : UInt16} {instruction : Instruction}
    (found : m.fetch = .ok (word, instruction)) :
    (m.pc + 2).toNat = m.pc.toNat + 2 ∧ IsReturn (m.pc + 2) := by
  obtain ⟨read, _⟩ := (m.fetch_eq_ok_iff word instruction).mp found
  obtain ⟨inside, _⟩ := (m.memory.readWord_eq_ok_iff m.pc word).mp read
  have bound : m.pc.toNat + 2 ≤ 4096 := inside
  have next : (m.pc + 2).toNat = m.pc.toNat + 2 := Core.toNat_next (by omega)
  exact ⟨next, by rw [next]; omega, by rw [next]; exact bound⟩

theorem inRange_past {m : Machine δ κ τ} {word : UInt16} {instruction : Instruction}
    (found : m.fetch = .ok (word, instruction)) (range : m.InRange) :
    (m.past word instruction).InRange where
  bytes := range.bytes
  programStart := range.programStart
  fontStart := range.fontStart
  depth := range.depth
  returns := range.returns
  pc := Nat.le_trans (isReturn_past found).2.2 (by decide)
  waiting := range.waiting

theorem inRange_kept (δ κ τ : Type) [Screen δ] [Keypad κ] : Kept δ κ τ Core.InRange where
  load c bytes range := { range with bytes := Vector.length_toList }
  fetch := by
    intro m running range
    rw [fetchAndExecute_eq]
    split
    · exact range
    · rename_i word instruction found
      have executed := executed_execute (m.past word instruction) instruction
      exact executed.inRange (inRange_past found range) (isReturn_past found).2
  halt c range := { range with waiting := fun x waiting => nomatch waiting }
  key c x key waiting isKey range := { range with waiting := fun x waiting => nomatch waiting }
  tick c range := { range with }

theorem inRange_of_history [Screen δ] [Keypad κ] [Speaker τ] {m : Machine δ κ τ}
    (reachable : m.Reachable) : m.InRange :=
  (inRange_kept δ κ τ).reachable Core.inRange_initial reachable

end Machine

end Chip8
