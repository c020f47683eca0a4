import Chip8.Machine.Run

namespace Chip8

variable {δ κ τ : Type}

/-- Where control can be after an instruction that `pc` has passed in `c`. -/
inductive Core.Goes (c : Core) : Instruction → UInt16 → List UInt16 → Prop where
  | onward (instruction : Instruction) : c.Goes instruction c.pc c.stack
  | skipping (instruction : Instruction) : c.Goes instruction (c.pc + 2) c.stack
  | jumping (target : Address) : c.Goes (.jump target) (UInt16.ofNat target.val) c.stack
  | jumpingFar (target : Address) (offset : UInt8) :
      c.Goes (.jumpV0 target) (UInt16.ofNat (target.val + offset.toNat)) c.stack
  | calling (target : Address) (room : c.stack.length < Machine.maxDepth) :
      c.Goes (.call target) (UInt16.ofNat target.val) (c.pc :: c.stack)
  | returning {target : UInt16} {rest : List UInt16} (top : c.stack = target :: rest) :
      c.Goes .ret target rest

/-- What `after` has in common with the core `before` in which an instruction was executed. -/
structure Core.Executed (before : Core) (instruction : Instruction) (after : Core) : Prop where
  control : before.Goes instruction after.pc after.stack
  programStart : after.memory.programStart = before.memory.programStart
  fontStart : after.memory.fontStart = before.memory.fontStart
  mode : after.mode = before.mode ∨ ∃ x, instruction = .waitKey x ∧ after.mode = .awaiting x

theorem Core.Executed.of_eq {before after : Core} {instruction : Instruction}
    (pc : after.pc = before.pc) (stack : after.stack = before.stack)
    (memory : after.memory = before.memory) (mode : after.mode = before.mode) :
    before.Executed instruction after where
  control := by rw [pc, stack]; exact .onward instruction
  programStart := by rw [memory]
  fontStart := by rw [memory]
  mode := .inl mode

namespace Machine

private theorem executed_skipWhen (m : Machine δ κ τ) (instruction : Instruction)
    (condition : Bool) : m.toCore.Executed instruction (m.skipWhen condition).toCore := by
  cases condition with
  | false => exact .of_eq rfl rfl rfl rfl
  | true => exact ⟨.skipping instruction, rfl, rfl, .inl rfl⟩

private theorem executed_stored (m : Machine δ κ τ) (instruction : Instruction) (addr : UInt16)
    (data : List UInt8) :
    m.toCore.Executed instruction (m.stored (m.memory.write addr data)).state.toCore := by
  unfold Memory.write
  split
  · exact ⟨.onward instruction, rfl, rfl, .inl rfl⟩
  · exact .of_eq rfl rfl rfl rfl

/-- A write that finishes has changed the memory only. -/
theorem stored_done {m after : Machine δ κ τ} {written : Except Fault Memory}
    (done : m.stored written = .done () after) :
    ∃ memory, written = .ok memory ∧ after = { m with memory } := by
  cases written with
  | error fault => cases done
  | ok memory =>
    cases done
    exact ⟨memory, rfl, rfl⟩

private theorem executed_call (m : Machine δ κ τ) (target : Address) :
    m.toCore.Executed (.call target) (m.call target).state.toCore := by
  unfold call
  split
  · exact .of_eq rfl rfl rfl rfl
  · rename_i room
    exact ⟨.calling target (Nat.lt_of_not_le room), rfl, rfl, .inl rfl⟩

private theorem executed_ret (m : Machine δ κ τ) :
    m.toCore.Executed .ret m.ret.state.toCore := by
  unfold ret
  split
  · exact .of_eq rfl rfl rfl rfl
  · rename_i top
    exact ⟨.returning top, rfl, rfl, .inl rfl⟩

theorem transferCount_eq (m : Machine δ κ τ) (x : Register) :
    m.transferCount x = x.val + if m.settings.inclusive then 1 else 0 := by
  unfold transferCount
  split <;> rfl

theorem transferCount_le (m : Machine δ κ τ) (x : Register) : m.transferCount x ≤ 16 := by
  have range := x.isLt
  rw [transferCount_eq]
  split <;> omega

theorem length_firstRegisters (v : Vector UInt8 16) {count : Nat} (few : count ≤ 16) :
    (firstRegisters v count).length = count := by
  simp [firstRegisters, few]

theorem getElem?_firstRegisters (v : Vector UInt8 16) {count : Nat} {r : Register}
    (moved : r.val < count) : (firstRegisters v count)[r.val]? = some (v.get r) := by
  have place : r.val < v.toList.length := by simp
  rw [firstRegisters, List.getElem?_take, if_pos moved, List.getElem?_eq_getElem place,
    Vector.getElem_toList]
  rfl

/-- The registers that bytes replace are those from `start` on, as long as there are bytes. -/
theorem get_withRegisters (v : Vector UInt8 16) (start : Nat) (bytes : List UInt8) (r : Register) :
    (withRegisters v start bytes).get r =
      if start ≤ r.val then (bytes[r.val - start]?).getD (v.get r) else v.get r := by
  induction bytes generalizing v start with
  | nil => simp [withRegisters]
  | cons byte rest ih =>
    rw [withRegisters, ih]
    by_cases here : start = r.val
    · have set : (v.setIfInBounds start byte).get r = byte := by
        subst here
        exact Vector.getElem_setIfInBounds_self r.isLt
      have passed : ¬ start + 1 ≤ r.val := by omega
      have first : r.val - start = 0 := by omega
      rw [if_neg passed, set, if_pos (Nat.le_of_eq here), first, List.getElem?_cons_zero,
        Option.getD_some]
    · have kept : (v.setIfInBounds start byte).get r = v.get r :=
        Vector.getElem_setIfInBounds_ne r.isLt here
      rw [kept]
      by_cases later : start + 1 ≤ r.val
      · have next : r.val - start = (r.val - (start + 1)) + 1 := by omega
        rw [if_pos later, if_pos (by omega), next, List.getElem?_cons_succ]
      · rw [if_neg later, if_neg (by omega)]

/-- How many bytes from the index on an instruction reads or writes, if it does either. -/
def reach? (m : Machine δ κ τ) : Instruction → Option Nat
  | .draw _ _ n => some n.val
  | .storeBcd _ => some 3
  | .storeRegs x | .loadRegs x => some (m.transferCount x)
  | _ => none

/-- Whether an instruction asks the keypad for the key named by register `x`. -/
def AsksFor (x : Register) (instruction : Instruction) : Prop :=
  instruction = .skipKeyPressed x ∨ instruction = .skipKeyNotPressed x

section Keypad

variable [Keypad κ]

private theorem executed_skipOnKey (m : Machine δ κ τ) (instruction : Instruction)
    (x : Register) (down : Bool) :
    m.toCore.Executed instruction (m.skipOnKey x down).state.toCore := by
  simp only [skipOnKey]
  split
  · exact executed_skipWhen m instruction _
  · split
    · exact .of_eq rfl rfl rfl rfl
    · exact executed_skipWhen (m.afterKeypad _) instruction _

private theorem executed_waitKey (m : Machine δ κ τ) (x : Register) :
    m.toCore.Executed (.waitKey x) (m.waitKey x).state.toCore := by
  simp only [waitKey]
  split
  · exact .of_eq rfl rfl rfl rfl
  · exact ⟨.onward (.waitKey x), rfl, rfl, .inr ⟨x, rfl, rfl⟩⟩

/-- How an instruction that `pc` has passed in `m` faults, and the machine that it leaves. -/
inductive Fails (m : Machine δ κ τ) : Instruction → Fault → Machine δ κ τ → Prop where
  | underflow (empty : m.stack = []) : Fails m .ret .stackUnderflow m
  | overflow (target : Address) (full : maxDepth ≤ m.stack.length) :
      Fails m (.call target) (.stackOverflow m.stack.length) m
  | outside {instruction : Instruction} {len : Nat} (reach : m.reach? instruction = some len)
      (past : ¬ Memory.Fits m.i len) :
      Fails m instruction (.memoryOutOfBounds m.i.toNat len) m
  | held {instruction : Instruction} {x : Register} {error : DeviceError}
      (asks : AsksFor x instruction) (key : m.v.get x ≤ 0xf)
      (broken : (Keypad.isPressed m.keypad (keyOfByte (m.v.get x))).answer = .error error) :
      Fails m instruction (.device error)
        (m.afterKeypad (Keypad.isPressed m.keypad (keyOfByte (m.v.get x))))
  | presses (x : Register) {error : DeviceError}
      (broken : (Keypad.discardPresses m.keypad).answer = .error error) :
      Fails m (.waitKey x) (.device error) (m.afterKeypad (Keypad.discardPresses m.keypad))

private theorem fails_of_stored {m stopped : Machine δ κ τ} {instruction : Instruction}
    {data : List UInt8} {fault : Fault} (reach : m.reach? instruction = some data.length)
    (failed : m.stored (m.memory.write m.i data) = .failed fault stopped) :
    Fails m instruction fault stopped := by
  unfold Memory.write at failed
  split at failed
  · cases failed
  · rename_i past
    cases failed
    exact .outside reach past

private theorem fails_of_skipOnKey {m stopped : Machine δ κ τ} {instruction : Instruction}
    {x : Register} {down : Bool} {fault : Fault} (asks : AsksFor x instruction)
    (failed : m.skipOnKey x down = .failed fault stopped) : Fails m instruction fault stopped := by
  simp only [skipOnKey] at failed
  split at failed
  · cases failed
  · rename_i key
    split at failed
    · rename_i broken
      cases failed
      exact .held asks (UInt8.not_lt.mp key) broken
    · cases failed

end Keypad

variable [Screen δ] [Keypad κ]

omit [Keypad κ] in
private theorem executed_draw (m : Machine δ κ τ) (instruction : Instruction) (x y : Register)
    (n : Nat) :
    m.toCore.Executed instruction (m.draw x y n).state.toCore := by
  unfold draw
  split <;> exact .of_eq rfl rfl rfl rfl

/-- Whatever an instruction does, control goes one of the listed ways. -/
theorem executed_execute (m : Machine δ κ τ) (instruction : Instruction) :
    m.toCore.Executed instruction (m.execute instruction).state.toCore := by
  cases instruction with
  | ret => exact executed_ret m
  | jump nnn => exact ⟨.jumping nnn, rfl, rfl, .inl rfl⟩
  | call nnn => exact executed_call m nnn
  | jumpV0 nnn => exact ⟨.jumpingFar nnn _, rfl, rfl, .inl rfl⟩
  | skipEqImm x kk | skipNeImm x kk | skipEqReg x y | skipNeReg x y =>
    exact executed_skipWhen m _ _
  | skipKeyPressed x | skipKeyNotPressed x => exact executed_skipOnKey m _ x _
  | waitKey x => exact executed_waitKey m x
  | draw x y n => exact executed_draw m _ x y n.val
  | storeBcd x | storeRegs x => exact executed_stored m _ _ _
  | loadRegs x => simp only [execute]; split <;> exact .of_eq rfl rfl rfl rfl
  | _ => exact .of_eq rfl rfl rfl rfl

/-- An instruction faults for the listed causes only. -/
theorem fails_of_execute {m stopped : Machine δ κ τ} {instruction : Instruction} {fault : Fault}
    (failed : m.execute instruction = .failed fault stopped) :
    Fails m instruction fault stopped := by
  cases instruction with
  | ret =>
    simp only [execute, ret] at failed
    split at failed
    · rename_i empty
      cases failed
      exact .underflow empty
    · cases failed
  | call nnn =>
    simp only [execute, call] at failed
    split at failed
    · rename_i full
      cases failed
      exact .overflow nnn full
    · cases failed
  | draw x y n =>
    simp only [execute, draw, Memory.slice] at failed
    split at failed
    · rename_i refused
      split at refused
      · cases refused
      · rename_i past
        cases refused
        cases failed
        exact .outside rfl past
    · cases failed
  | skipKeyPressed x => exact fails_of_skipOnKey (.inl rfl) failed
  | skipKeyNotPressed x => exact fails_of_skipOnKey (.inr rfl) failed
  | waitKey x =>
    simp only [execute, waitKey] at failed
    split at failed
    · rename_i broken
      cases failed
      exact .presses x broken
    · cases failed
  | storeBcd x => exact fails_of_stored rfl failed
  | storeRegs x =>
    have count := length_firstRegisters m.v (m.transferCount_le x)
    exact fails_of_stored (congrArg some count.symm) failed
  | loadRegs x =>
    simp only [execute, Memory.slice] at failed
    split at failed
    · rename_i refused
      split at refused
      · cases refused
      · rename_i past
        cases refused
        cases failed
        exact .outside rfl past
    · cases failed
  | _ => cases failed

omit [Screen δ] [Keypad κ] in
private theorem stored_outside {m : Machine δ κ τ} {data : List UInt8}
    (past : ¬ Memory.Fits m.i data.length) :
    m.stored (m.memory.write m.i data) =
      .failed (.memoryOutOfBounds m.i.toNat data.length) m := by
  simp only [Memory.write, if_neg past, stored]

private theorem execute_outside {m : Machine δ κ τ} {instruction : Instruction} {len : Nat}
    (reach : m.reach? instruction = some len) (past : ¬ Memory.Fits m.i len) :
    m.execute instruction = .failed (.memoryOutOfBounds m.i.toNat len) m := by
  cases instruction with
  | draw x y n =>
    cases reach
    simp only [execute, draw, Memory.slice, if_neg past]
  | storeBcd x =>
    cases reach
    exact stored_outside past
  | storeRegs x =>
    cases reach
    have count := length_firstRegisters m.v (m.transferCount_le x)
    rw [← count] at past ⊢
    exact stored_outside past
  | loadRegs x =>
    cases reach
    simp only [execute, Memory.slice, if_neg past]
  | _ => cases reach

theorem execute_of_fails {m stopped : Machine δ κ τ} {instruction : Instruction} {fault : Fault}
    (fails : Fails m instruction fault stopped) :
    m.execute instruction = .failed fault stopped := by
  cases fails with
  | underflow empty => simp only [execute, ret, empty]
  | overflow target full => simp only [execute, call, if_pos full]
  | outside reach past => exact execute_outside reach past
  | held asks key broken =>
    have isKey := UInt8.not_lt.mpr key
    rcases asks with same | same <;> subst same <;>
      simp only [execute, skipOnKey, if_neg isKey, broken]
  | presses x broken => simp only [execute, waitKey, broken]

end Machine

end Chip8
