import Chip8.Device.Headless
import Chip8.Proofs.Machine.Strict

namespace Chip8

theorem FrameBuffer.place_div_lt {grid : Grid} (frame : FrameBuffer grid) (x y : Nat) :
    (grid.place x y).val / 8 < frame.bytes.length := by
  rw [FrameBuffer.bytes, Vector.length_toList]
  exact (grid.locate x y).1.isLt

namespace Machine

variable {δ κ τ : Type}

private theorem firstRegisters?_eq (m : Machine δ κ τ) (x : Register) :
    firstRegisters? m.v (m.transferCount x) = some (firstRegisters m.v (m.transferCount x)) :=
  if_pos (m.transferCount_le x)

private theorem withRegisters?_eq (v : Vector UInt8 16) {start : Nat} {bytes : List UInt8}
    (inside : start + bytes.length ≤ 16) :
    withRegisters? v start bytes = some (withRegisters v start bytes) := by
  induction bytes generalizing v start with
  | nil => rfl
  | cons byte rest ih =>
    rw [List.length_cons] at inside
    have here : start < 16 := by omega
    have same : v.set start byte here = v.setIfInBounds start byte := by
      simp [Vector.setIfInBounds, Vector.set, Array.setIfInBounds, here]
    simp only [withRegisters?, withRegisters, dif_pos here, same]
    exact ih _ (by omega)

private theorem word?_next {pc : UInt16} (near : pc.toNat ≤ memorySize) :
    word? (pc.toNat + 2) = some (pc + 2) := by
  have small : pc.toNat + 2 < UInt16.size := by
    simp only [memorySize, UInt16.size] at *
    omega
  rw [word?_eq_some small, UInt16.ofNat_add, UInt16.ofNat_toNat]
  rfl

private theorem skipWhen?_eq {m : Machine δ κ τ} (condition : Bool)
    (near : m.pc.toNat ≤ memorySize) : m.skipWhen? condition = some (m.skipWhen condition) := by
  unfold skipWhen? skipWhen
  split
  · rw [word?_next near]
    rfl
  · rfl

private theorem draw?_eq [Screen δ] (m : Machine δ κ τ) (x y : Register) (n : Nat) :
    m.draw? x y n = some (m.draw x y n) := by
  unfold draw? draw
  rw [Memory.slice?_eq]
  cases m.memory.slice m.i n <;> rfl

private theorem skipOnKey?_eq [Keypad κ] {m : Machine δ κ τ} (x : Register) (down : Bool)
    (near : m.pc.toNat ≤ memorySize) : m.skipOnKey? x down = some (m.skipOnKey x down) := by
  unfold skipOnKey? skipOnKey
  split
  · rw [skipWhen?_eq _ near]
    rfl
  · dsimp only
    cases (Keypad.isPressed m.keypad (keyOfByte (m.v.get x))).answer with
    | error error => rfl
    | ok held =>
      have asked : (m.afterKeypad (Keypad.isPressed m.keypad (keyOfByte (m.v.get x)))).pc.toNat ≤
        memorySize := near
      simp only [skipWhen?_eq _ asked]
      rfl

private theorem storeRegs?_eq (m : Machine δ κ τ) (x : Register) :
    m.storeRegs? x =
      some (m.stored (m.memory.write m.i (firstRegisters m.v (m.transferCount x)))) := by
  simp only [storeRegs?, firstRegisters?_eq, Memory.write?_eq, Option.bind_eq_bind,
    Option.bind_some]
  rfl

private theorem loadRegs?_eq [Screen δ] [Keypad κ] (m : Machine δ κ τ) (x : Register) :
    m.loadRegs? x = some (m.execute (.loadRegs x)) := by
  simp only [loadRegs?, execute, Memory.slice?_eq, Option.bind_eq_bind, Option.bind_some]
  cases read : m.memory.slice m.i (m.transferCount x) with
  | error fault => rfl
  | ok bytes =>
    have length := Memory.length_slice read
    have few := m.transferCount_le x
    have inside : 0 + bytes.length ≤ 16 := by omega
    simp only [withRegisters?_eq m.v inside, Option.bind_some]
    rfl

private theorem jumpV0?_eq (m : Machine δ κ τ) (target : Address) (offset : UInt8) :
    ((word? (target.val + offset.toNat)).map fun pc => finish { m with pc }) =
      some (finish { m with pc := UInt16.ofNat (target.val + offset.toNat) }) := by
  have address := target.isLt
  have small := offset.toNat_lt
  have word : target.val + offset.toNat < UInt16.size := by
    simp only [UInt16.size]
    omega
  rw [word?_eq_some word]
  rfl

/-- An instruction that stands in memory finds there all that it needs. -/
theorem execute?_eq [Screen δ] [Keypad κ] {m : Machine δ κ τ} (instruction : Instruction)
    (near : m.pc.toNat ≤ memorySize) (font : m.memory.fontStart.toNat ≤ memorySize) :
    m.execute? instruction = some (m.execute instruction) := by
  cases instruction with
  | skipEqImm x kk | skipNeImm x kk | skipEqReg x y | skipNeReg x y =>
    simp only [execute?, skipWhen?_eq _ near]
    rfl
  | jumpV0 nnn => exact jumpV0?_eq m nnn _
  | draw x y n => exact draw?_eq m x y n.val
  | skipKeyPressed x | skipKeyNotPressed x => exact skipOnKey?_eq x _ near
  | loadGlyph x =>
    simp only [execute?, Memory.glyphAddress?_eq _ _ font]
    rfl
  | storeBcd x =>
    simp only [execute?, Memory.write?_eq]
    rfl
  | storeRegs x => exact storeRegs?_eq m x
  | loadRegs x => exact loadRegs?_eq m x
  | _ => rfl

section Run

variable [Screen δ] [Keypad κ]

private theorem fetchAndExecute?_eq {m : Machine δ κ τ} (range : m.InRange) :
    m.fetchAndExecute? = some m.fetchAndExecute := by
  unfold fetchAndExecute? fetchAndExecute
  simp only [Memory.readWord?_eq, Option.bind_eq_bind, Option.bind_some]
  cases read : m.memory.readWord m.pc with
  | error fault => rfl
  | ok word =>
    cases decoded : Instruction.decode word with
    | error fault => simp only [decoded]; rfl
    | ok instruction =>
      have found := (m.fetch_eq_ok_iff word instruction).mpr ⟨read, decoded⟩
      obtain ⟨next, passed⟩ := isReturn_past found
      have inside : m.pc.toNat ≤ memorySize := by
        have last : (m.pc + 2).toNat ≤ memorySize := passed.2
        omega
      have font : m.memory.fontStart.toNat ≤ memorySize := by
        rw [range.fontStart]
        exact Nat.zero_le _
      simp only [decoded, word?_next inside, Option.bind_some]
      exact execute?_eq instruction passed.2 font

private theorem step?_eq {m : Machine δ κ τ} (range : m.InRange) : m.step? = some m.step := by
  cases mode : m.mode with
  | running =>
    simp only [step?, step, mode, fetchAndExecute?_eq range]
    rfl
  | awaiting x => simp only [step?, step, mode]
  | halted => simp only [step?, step, mode]

/-- Each instruction of a batch leaves the ranges to the next. -/
private theorem batch?_eq (count : Nat) {m : Machine δ κ τ} (range : m.InRange) :
    batch? count m = some (batch count m) := by
  induction count generalizing m with
  | zero => rfl
  | succ count ih =>
    cases mode : m.mode with
    | running =>
      have kept := (inRange_kept δ κ τ).fetch m mode range
      simp only [batch?, batch, mode, fetchAndExecute?_eq range, Option.bind_some]
      apply Outcome.andThen?_eq
      intro _ next done
      rw [done] at kept
      exact ih kept
    | awaiting x => simp only [batch?, batch, mode]
    | halted => simp only [batch?, batch, mode]

variable [Speaker τ]

private theorem cycle?_eq {m : Machine δ κ τ} (range : m.InRange) :
    m.cycle? = some m.cycle := by
  have polled := (inRange_kept δ κ τ).pollKey m range
  have batched : (m.pollKey.andThen? fun _ m => m.batch? m.batchSize) =
      some (m.pollKey.andThen fun _ m => m.batch m.batchSize) := by
    apply Outcome.andThen?_eq
    intro _ next done
    rw [done] at polled
    exact batch?_eq _ polled
  unfold cycle? cycle
  rw [batched]
  rfl

private theorem runFrom?_eq (limit count : Nat) {m : Machine δ κ τ} (range : m.InRange) :
    runFrom? limit count m = some (runFrom limit count m) := by
  induction limit generalizing count m with
  | zero => rfl
  | succ limit ih =>
    simp only [runFrom?, runFrom]
    split
    · rfl
    · have asked : (m.afterKeypad (Keypad.wantsExit m.keypad)).InRange := range
      have kept := (inRange_kept δ κ τ).cycle _ asked
      rw [cycle?_eq asked, Option.bind_some]
      apply Outcome.andThen?_eq
      intro _ next done
      rw [done] at kept
      exact ih _ kept

omit [Screen δ] [Keypad κ] [Speaker τ] in
private theorem load?_eq (m : Machine δ κ τ) (program : List UInt8) :
    m.load? program = some (m.load program) := by
  rw [load?, Memory.load?_eq]
  rfl

omit [Screen δ] [Keypad κ] [Speaker τ] in
private theorem loadFrom?_eq (m : Machine δ κ τ) (source : Source) :
    m.loadFrom? source = some (m.loadFrom source) := by
  unfold loadFrom? loadFrom
  cases source.readAll with
  | ok program => exact load?_eq m program
  | error error => rfl

theorem perform?_eq {m : Machine δ κ τ} (range : m.InRange) (action : Action δ κ τ) :
    m.perform? action = some (m.perform action) := by
  cases action with
  | load program =>
    rw [perform?, load?_eq]
    rfl
  | loadFrom source =>
    rw [perform?, loadFrom?_eq]
    rfl
  | step =>
    rw [perform?, step?_eq range]
    rfl
  | cycle =>
    rw [perform?, cycle?_eq range]
    rfl
  | run frames =>
    have noted : (m.note (.running m.settings.rate m.batchSize)).InRange := range
    rw [perform?, runFrom?_eq _ _ noted]
    rfl
  | tick | pressKey key | screen change | keypad change | speaker change => rfl

/-- Whatever was done with a machine, it is in its ranges, and no operation of it needs a byte, a
register or a word that does not exist. The byte of a packed picture that holds a pixel exists
too, whichever pixel of whichever picture that is. -/
theorem safe_of_reachable {m : Machine δ κ τ} (reachable : m.Reachable) :
    m.InRange ∧ (∀ action, m.perform? action = some (m.perform action)) ∧
      ∀ (grid : Grid) (frame : FrameBuffer grid) (x y : Nat),
        (grid.place x y).val / 8 < frame.bytes.length := by
  have range := inRange_of_history reachable
  refine ⟨range, perform?_eq range, ?_⟩
  intro grid frame x y
  exact frame.place_div_lt x y

end Run

def farthest : Machine (HeadlessScreen Grid.standard) ScriptedKeypad MuteSpeaker :=
  (create {} (HeadlessScreen.blank Grid.standard) {} {}).performAll
    [.load [0x60, 0xff, 0xbf, 0xff], .step, .step]

private theorem reachable_farthest : farthest.Reachable :=
  (reachable_create _ _ _ _ _).performAll _

theorem farthest_safe :
    farthest.Reachable ∧ farthest.pc = 0xfff + 0xff ∧ farthest.InRange ∧
      (farthest.perform? .step).isSome := by
  obtain ⟨range, sound, _⟩ := safe_of_reachable reachable_farthest
  refine ⟨reachable_farthest, by decide +kernel, range, ?_⟩
  rw [sound .step]
  rfl

end Machine

end Chip8
