import Chip8.Proofs.Device.Scripted
import Chip8.Proofs.Machine.NextAddress
import Chip8.Proofs.Outcome

namespace Chip8

open Instruction

/-- One part of what a step works on. -/
inductive Part where
  | byte (addr : Nat)
  | register (r : Register)
  | pixels
  | stack
  | index
  | delay
  | sound
  | mode
  | random
  | presses
  deriving DecidableEq, Repr

namespace Word

/-- The words that put a result into the register named by their second digit. -/
def Assigns (word : UInt16) : Prop :=
  word.toNat / 4096 = 0x6 ∨ word.toNat / 4096 = 0x7 ∨ word.toNat / 4096 = 0x8 ∨
    word.toNat / 4096 = 0xc ∨ word.toNat / 4096 = 0xf ∧ word.toNat % 256 = 0x07

def Flags (word : UInt16) : Prop :=
  word.toNat / 4096 = 0xd ∨ word.toNat / 4096 = 0x8 ∧
    (4 ≤ word.toNat % 16 ∧ word.toNat % 16 ≤ 7 ∨ word.toNat % 16 = 0xe)

def transferred (inclusive : Bool) (word : UInt16) : Nat :=
  word.toNat / 256 % 16 + if inclusive then 1 else 0

end Word

namespace Machine

/-- The parts that a word names when it is executed in `m`. -/
def Names {δ κ τ : Type} (m : Machine δ κ τ) (word : UInt16) : Part → Prop
  | .byte addr => word.toNat / 4096 = 0xf ∧ m.i.toNat ≤ addr ∧
      (word.toNat % 256 = 0x33 ∧ addr < m.i.toNat + 3 ∨
        word.toNat % 256 = 0x55 ∧ addr < m.i.toNat + Word.transferred m.settings.inclusive word)
  | .register r => Word.Assigns word ∧ r.val = word.toNat / 256 % 16 ∨
      Word.Flags word ∧ r.val = 0xf ∨
      word.toNat / 4096 = 0xf ∧ word.toNat % 256 = 0x65 ∧
        r.val < Word.transferred m.settings.inclusive word
  | .pixels => word.toNat = 0x00e0 ∨ word.toNat / 4096 = 0xd
  | .stack => word.toNat = 0x00ee ∨ word.toNat / 4096 = 0x2
  | .index => word.toNat / 4096 = 0xa ∨
      word.toNat / 4096 = 0xf ∧ (word.toNat % 256 = 0x1e ∨ word.toNat % 256 = 0x29)
  | .delay => word.toNat / 4096 = 0xf ∧ word.toNat % 256 = 0x15
  | .sound => word.toNat / 4096 = 0xf ∧ word.toNat % 256 = 0x18
  | .mode | .presses => Word.Waits word
  | .random => word.toNat / 4096 = 0xc

variable {grid : Grid} {τ : Type}

def Agree (m after : ScriptedMachine grid τ) : Part → Prop
  | .byte addr => after.memory.byteAt addr = m.memory.byteAt addr
  | .register r => after.v.get r = m.v.get r
  | .pixels => after.screen.frame = m.screen.frame
  | .stack => after.stack = m.stack
  | .index => after.i = m.i
  | .delay => after.delay = m.delay
  | .sound => after.sound = m.sound
  | .mode => after.mode = m.mode
  | .random => after.random = m.random
  | .presses => after.keypad.queue = m.keypad.queue

theorem Agree.trans {first second third : ScriptedMachine grid τ} {part : Part}
    (before : Agree first second part) (after : Agree second third part) :
    Agree first third part := by
  cases part <;> exact Eq.trans after before

section Operations

variable {m after : ScriptedMachine grid τ} {part : Part}

private theorem agree_past (word : UInt16) (instruction : Instruction) :
    Agree m (m.past word instruction) part := by
  cases part <;> rfl

private theorem agree_setRegister {x : Register} {value : UInt8} (other : part ≠ .register x) :
    Agree m (m.setRegister x value) part := by
  cases part with
  | register r =>
    refine (Vector.get_put m.v x r value).trans (if_neg ?_)
    rintro rfl
    exact other rfl
  | _ => rfl

private theorem agree_setWithFlag {x : Register} {value flag : UInt8}
    (operand : part ≠ .register x) (flags : part ≠ .register flagRegister) :
    Agree m (m.setWithFlag x value flag) part :=
  (agree_setRegister flags).trans (agree_setRegister operand)

private theorem agree_skipWhen (condition : Bool) : Agree m (m.skipWhen condition) part := by
  cases condition <;> cases part <;> rfl

private theorem agree_skipOnKey {x : Register} {down : Bool}
    (done : m.skipOnKey x down = .done () after) : Agree m after part := by
  simp only [skipOnKey] at done
  split at done
  · cases done
    exact agree_skipWhen _
  · split at done
    · cases done
    · cases done
      have asked : Agree m (m.afterKeypad
          (Keypad.isPressed m.keypad (keyOfByte (m.v.get x)))) part := by
        cases part with
        | presses => exact congrArg ScriptedKeypad.queue (m.keypad.device_isPressed _)
        | _ => rfl
      exact asked.trans (agree_skipWhen _)

private theorem agree_draw {x y : Register} {n : Nat} (done : m.draw x y n = .done () after)
    (flags : part ≠ .register flagRegister) (other : part ≠ .pixels) : Agree m after part := by
  unfold draw at done
  split at done
  · cases done
  · cases done
    refine Agree.trans ?_ (agree_setRegister flags)
    cases part with
    | pixels => exact absurd rfl other
    | _ => rfl

private theorem agree_stored {data : List UInt8}
    (done : m.stored (m.memory.write m.i data) = .done () after)
    (outside : ∀ addr, part = .byte addr →
      ¬ (m.i.toNat ≤ addr ∧ addr < m.i.toNat + data.length)) : Agree m after part := by
  obtain ⟨memory, written, same⟩ := stored_done done
  rw [same]
  cases part with
  | byte addr => exact Memory.byteAt_write_outside written (outside addr rfl)
  | _ => rfl

private theorem agree_loadRegs {x : Register} (done : m.execute (.loadRegs x) = .done () after)
    (outside : ∀ r, part = .register r → m.transferCount x ≤ r.val) : Agree m after part := by
  simp only [execute] at done
  split at done
  · cases done
  · rename_i bytes read
    cases done
    cases part with
    | register r =>
      have past : bytes[r.val]? = none := by
        rw [List.getElem?_eq_none_iff, Memory.length_slice read]
        exact outside r rfl
      have same := get_withRegisters m.v 0 bytes r
      rw [if_pos (Nat.zero_le _), Nat.sub_zero, past] at same
      exact same
    | _ => rfl

private theorem transferred_of_digit {word : UInt16} {x : Register}
    (digit : x.val = word.toNat / 256 % 16) :
    m.transferCount x = Word.transferred m.settings.inclusive word := by
  rw [transferCount_eq, Word.transferred, digit]

private theorem ne_of_unnamed {word : UInt16} {part named : Part} (unnamed : ¬ Names m word part)
    (names : Names m word named) : part ≠ named := by
  rintro rfl
  exact unnamed names

private theorem ne_operand {word : UInt16} {x : Register} (unnamed : ¬ Names m word part)
    (assigns : Word.Assigns word) (digit : x.val = word.toNat / 256 % 16) : part ≠ .register x :=
  ne_of_unnamed unnamed (.inl ⟨assigns, digit⟩)

/-- An instruction leaves alone what its word does not name. -/
theorem agree_execute {word : UInt16} {instruction : Instruction}
    (decoded : ofWord? word = some instruction)
    (done : m.execute instruction = .done () after) (unnamed : ¬ Names m word part) :
    Agree m after part := by
  have digits := congrArg UInt16.toNat (encode_of_ofWord? decoded)
  cases instruction with
  | sys nnn | jump nnn | jumpV0 nnn =>
    cases done
    cases part <;> rfl
  | clearScreen =>
    have other : part ≠ .pixels := ne_of_unnamed unnamed (.inl digits.symm)
    cases done
    cases part with
    | pixels => exact absurd rfl other
    | _ => rfl
  | ret =>
    have other : part ≠ .stack := ne_of_unnamed unnamed (.inl digits.symm)
    simp only [execute, ret] at done
    split at done <;> cases done
    cases part with
    | stack => exact absurd rfl other
    | _ => rfl
  | call nnn =>
    simp only [encode, wordOfAddress, UInt16.toNat_ofNat'] at digits
    have other : part ≠ .stack := ne_of_unnamed unnamed (.inr (by omega))
    simp only [execute, call] at done
    split at done <;> cases done
    cases part with
    | stack => exact absurd rfl other
    | _ => rfl
  | skipEqImm x kk | skipNeImm x kk | skipEqReg x y | skipNeReg x y =>
    cases done
    exact agree_skipWhen _
  | skipKeyPressed x | skipKeyNotPressed x => exact agree_skipOnKey done
  | loadImm x kk | addImm x kk =>
    simp only [encode, wordOfByte, UInt16.toNat_ofNat'] at digits
    have byte := kk.toNat_lt
    have assigns : Word.Assigns word := by unfold Word.Assigns; omega
    have other : part ≠ .register x := ne_operand unnamed assigns (by omega)
    cases done
    exact agree_setRegister other
  | random x kk =>
    simp only [encode, wordOfByte, UInt16.toNat_ofNat'] at digits
    have byte := kk.toNat_lt
    have assigns : Word.Assigns word := by unfold Word.Assigns; omega
    have other : part ≠ .register x := ne_operand unnamed assigns (by omega)
    have source : part ≠ .random := ne_of_unnamed unnamed (show word.toNat / 4096 = 0xc by omega)
    have drawn : Agree m (m.setRegister x (m.random.byte &&& kk)) part := agree_setRegister other
    cases done
    refine drawn.trans ?_
    cases part with
    | random => exact absurd rfl source
    | _ => rfl
  | loadDelay x =>
    simp only [encode, wordOfByte, UInt16.toNat_ofNat'] at digits
    have assigns : Word.Assigns word := by unfold Word.Assigns; omega
    have other : part ≠ .register x := ne_operand unnamed assigns (by omega)
    cases done
    exact agree_setRegister other
  | move x y | or x y | and x y | xor x y =>
    simp only [encode, wordOfPair, UInt16.toNat_ofNat'] at digits
    have assigns : Word.Assigns word := by unfold Word.Assigns; omega
    have other : part ≠ .register x := ne_operand unnamed assigns (by omega)
    cases done
    exact agree_setRegister other
  | addReg x y | subReg x y | shiftRight x y | subRegInv x y | shiftLeft x y =>
    simp only [encode, wordOfPair, UInt16.toNat_ofNat'] at digits
    have assigns : Word.Assigns word := by unfold Word.Assigns; omega
    have other : part ≠ .register x := ne_operand unnamed assigns (by omega)
    have flags : part ≠ .register flagRegister :=
      ne_of_unnamed unnamed (.inr (.inl ⟨by unfold Word.Flags; omega, rfl⟩))
    cases done
    exact agree_setWithFlag other flags
  | loadIndex nnn =>
    simp only [encode, wordOfAddress, UInt16.toNat_ofNat'] at digits
    have other : part ≠ .index := ne_of_unnamed unnamed (.inl (by omega))
    cases done
    cases part with
    | index => exact absurd rfl other
    | _ => rfl
  | addIndex x | loadGlyph x =>
    simp only [encode, wordOfByte, UInt16.toNat_ofNat'] at digits
    have other : part ≠ .index := ne_of_unnamed unnamed (.inr ⟨by omega, by omega⟩)
    cases done
    cases part with
    | index => exact absurd rfl other
    | _ => rfl
  | draw x y n =>
    simp only [encode, wordOfPair, UInt16.toNat_ofNat'] at digits
    have other : part ≠ .pixels := ne_of_unnamed unnamed (.inr (by omega))
    have flags : part ≠ .register flagRegister :=
      ne_of_unnamed unnamed (.inr (.inl ⟨.inl (by omega), rfl⟩))
    exact agree_draw done flags other
  | waitKey x =>
    simp only [encode, wordOfByte, UInt16.toNat_ofNat'] at digits
    have waits : Word.Waits word := ⟨by omega, by omega⟩
    have mode : part ≠ .mode := ne_of_unnamed unnamed waits
    have presses : part ≠ .presses := ne_of_unnamed unnamed waits
    simp only [execute, waitKey] at done
    split at done <;> cases done
    cases part with
    | mode => exact absurd rfl mode
    | presses => exact absurd rfl presses
    | _ => rfl
  | setDelay x =>
    simp only [encode, wordOfByte, UInt16.toNat_ofNat'] at digits
    have other : part ≠ .delay := ne_of_unnamed unnamed ⟨by omega, by omega⟩
    cases done
    cases part with
    | delay => exact absurd rfl other
    | _ => rfl
  | setSound x =>
    simp only [encode, wordOfByte, UInt16.toNat_ofNat'] at digits
    have other : part ≠ .sound := ne_of_unnamed unnamed ⟨by omega, by omega⟩
    cases done
    cases part with
    | sound => exact absurd rfl other
    | _ => rfl
  | storeBcd x =>
    simp only [encode, wordOfByte, UInt16.toNat_ofNat'] at digits
    refine agree_stored done ?_
    rintro addr rfl ⟨first, last⟩
    exact unnamed ⟨by omega, first, .inl ⟨by omega, last⟩⟩
  | storeRegs x =>
    simp only [encode, wordOfByte, UInt16.toNat_ofNat'] at digits
    have digit : x.val = word.toNat / 256 % 16 := by omega
    have count := length_firstRegisters m.v (m.transferCount_le x)
    refine agree_stored done ?_
    rintro addr rfl ⟨first, last⟩
    rw [count, transferred_of_digit digit] at last
    exact unnamed ⟨by omega, first, .inr ⟨by omega, last⟩⟩
  | loadRegs x =>
    simp only [encode, wordOfByte, UInt16.toNat_ofNat'] at digits
    have digit : x.val = word.toNat / 256 % 16 := by omega
    refine agree_loadRegs done ?_
    rintro r rfl
    refine Nat.le_of_not_lt fun moved => ?_
    rw [transferred_of_digit digit] at moved
    exact unnamed (.inr (.inr ⟨by omega, by omega, moved⟩))

private theorem waitKey_done {x : Register} (done : m.execute (.waitKey x) = .done () after) :
    after.keypad = { m.keypad with queue := [] } := by
  cases failure : m.keypad.nextPressFailure with
  | some error =>
    have broken : (Keypad.discardPresses m.keypad).answer = .error error := by
      simp only [ScriptedKeypad.discardPresses_eq, failure]
    rw [execute_of_fails (.presses x broken)] at done
    cases done
  | none =>
    rw [execute_waitKey failure] at done
    cases done
    rfl

private theorem queue_of_waits {word : UInt16} {instruction : Instruction}
    (waits : Word.Waits word) (decoded : ofWord? word = some instruction)
    (done : m.execute instruction = .done () after) : after.keypad.queue = [] := by
  obtain ⟨family, low⟩ := waits
  have waitKey : ofWord? word = some (.waitKey (Word.x word)) := by
    simp only [ofWord?, Word.family, family, Word.toNat_kk, low, ofMisc?]
  rw [waitKey] at decoded
  cases decoded
  rw [waitKey_done done]

private theorem keypad_of_done {instruction : Instruction}
    (done : m.execute instruction = .done () after) :
    after.keypad = { m.keypad with queue := after.keypad.queue } := by
  by_cases waits : ∃ x, instruction = .waitKey x
  · obtain ⟨x, rfl⟩ := waits
    rw [waitKey_done done]
  · have kept := m.keypad_execute fun x same => waits ⟨x, same⟩
    rw [done] at kept
    rw [show after.keypad = m.keypad from kept]

end Operations

/-- What a step that finishes has left as it was, and where it has brought `pc`. -/
structure Framed (m after : ScriptedMachine grid τ) (word : UInt16) : Prop where
  unnamed (part : Part) (unnamed : ¬ Names m word part) : Agree m after part
  forgotten (waits : Word.Waits word) : after.keypad.queue = []
  keypad : after.keypad = { m.keypad with queue := after.keypad.queue }
  screen : after.screen = { m.screen with frame := after.screen.frame }
  speaker : after.speaker = m.speaker
  toneLost : after.toneLost = m.toneLost
  settings : after.settings = m.settings
  programStart : after.memory.programStart = m.memory.programStart
  fontStart : after.memory.fontStart = m.memory.fontStart
  next : Heads m after word
  opposed {memory : Memory} {other : UInt16}
    (opposed : Word.Opposed word other ∨ Word.Opposed other word)
    (replaced : Stands { m with memory } other) :
    ∃ instead, step { m with memory } = .done () instead ∧
      (after.pc.toNat = m.pc.toNat + 4 ∧ instead.pc.toNat = m.pc.toNat + 2 ∨
        after.pc.toNat = m.pc.toNat + 2 ∧ instead.pc.toNat = m.pc.toNat + 4)

/-- A step that finishes touches only the parts that its word names. -/
theorem step_framed {m after : ScriptedMachine grid τ} (running : m.mode = .running)
    (done : m.step = .done () after) : ∃ word, m.Stands word ∧ Framed m after word := by
  obtain ⟨word, instruction, found, executed⟩ := step_done running done
  obtain ⟨stands, decoded⟩ := (m.fetch_ok_iff word instruction).mp found
  have stepped := m.stepped_step
  rw [done] at stepped
  have keypad := keypad_of_done executed
  have control := executed_execute (m.past word instruction) instruction
  rw [executed] at control
  exact ⟨word, stands, {
    unnamed := fun part unnamed =>
      (agree_past word instruction).trans (agree_execute decoded executed unnamed)
    forgotten := fun waits => queue_of_waits waits decoded executed
    keypad := keypad
    screen := HeadlessScreen.eq_of_painted stepped.screen
    speaker := stepped.speaker
    toneLost := stepped.toneLost
    settings := stepped.settings
    programStart := control.programStart
    fontStart := control.fontStart
    next := heads_execute found executed
    opposed := step_opposed running stands done }⟩

/-- A machine about to wait for a key, with a press in the queue and one key held down. -/
def dialled : ScriptedMachine Grid.standard MuteSpeaker :=
  (create {} (HeadlessScreen.blank Grid.standard)
    { ScriptedKeypad.holding [Nibble.ofNat 7] with queue := [Nibble.ofNat 3] } {}).performAll
    [.load [0xf3, 0x0a]]

theorem dialled_framed :
    dialled.Reachable ∧ dialled.mode = .running ∧ dialled.Stands 0xf30a ∧
      dialled.step = .done () dialled.step.state ∧
      (∃ word, dialled.Stands word ∧ Framed dialled dialled.step.state word) ∧
      dialled.step.state.keypad = ScriptedKeypad.holding [Nibble.ofNat 7] := by
  have start : dialled.mode = .running ∧ dialled.Stands 0xf30a := by decide +kernel
  obtain ⟨running, stands⟩ := start
  have found := (dialled.fetch_ok_iff 0xf30a (.waitKey 3)).mpr ⟨stands, by decide⟩
  have stepped := step_of_done running found (execute_waitKey (by decide +kernel) 3)
  have done : dialled.step = .done () dialled.step.state := by
    rw [stepped]
    rfl
  obtain ⟨word, same, framed⟩ := step_framed running done
  have waits : word = 0xf30a := UInt16.toNat_inj.mp (same.2.trans stands.2.symm)
  have keypad := framed.keypad
  rw [framed.forgotten (by rw [waits]; exact ⟨by decide, by decide⟩)] at keypad
  exact ⟨(reachable_create _ _ _ _ _).performAll _, running, stands, done, ⟨word, same, framed⟩,
    keypad⟩

end Machine

end Chip8
