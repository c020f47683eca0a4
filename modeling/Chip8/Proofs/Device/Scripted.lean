import Chip8.Proofs.Machine.Atomicity
import Chip8.Proofs.Machine.Cycle

namespace Chip8

/-- A machine whose screen nobody sees and whose keypad is operated by script. -/
abbrev ScriptedMachine (grid : Grid) (τ : Type) := Machine (HeadlessScreen grid) ScriptedKeypad τ

/-- Clearing and inverting change no more of a screen than its picture. -/
theorem HeadlessScreen.eq_of_painted {grid : Grid} {before after : HeadlessScreen grid}
    (painted : Painted before after) : after = { before with frame := after.frame } := by
  induction painted with
  | same => rfl
  | cleared _ ih | inverted _ _ _ ih =>
    rw [ih]
    rfl

theorem HeadlessScreen.renderFailure_painted {grid : Grid} {before after : HeadlessScreen grid}
    (painted : Painted before after) : after.renderFailure = before.renderFailure := by
  rw [eq_of_painted painted]

theorem byteOfKey_le (key : Key) : byteOfKey key ≤ 0xf := by
  have range := key.isLt
  have value : (byteOfKey key).toNat = key.val :=
    UInt8.toNat_ofNat_of_lt' (Nat.lt_trans range (by decide))
  rw [UInt8.le_iff_toNat_le, value]
  exact Nat.le_of_lt_succ range

namespace ScriptedKeypad

variable {keypad : ScriptedKeypad}

theorem takePress_of_reliable (reliable : keypad.nextPressFailure = none) :
    Keypad.takePress keypad =
      ⟨.ok (keypad.queue.head?.map byteOfKey), { keypad with queue := keypad.queue.tail }, []⟩ := by
  simp only [Keypad.takePress, reliable]

theorem discardPresses_of_reliable (reliable : keypad.nextPressFailure = none) :
    Keypad.discardPresses keypad = ⟨.ok (), { keypad with queue := [] }, []⟩ := by
  simp only [discardPresses_eq, reliable]

/-- Asking whether the user wants to leave touches no key, no press and no failure. -/
theorem device_wantsExit (keypad : ScriptedKeypad) :
    (Keypad.wantsExit keypad).device =
      { keypad with patience := (Keypad.wantsExit keypad).device.patience } := by
  obtain ⟨held, queue, patience, isPressedFailure, nextPressFailure⟩ := keypad
  cases patience with
  | none => rfl
  | some count => cases count <;> rfl

end ScriptedKeypad

namespace Machine

variable {δ τ : Type}

section Execution

variable [Screen δ]

omit [Screen δ] in
private theorem keypad_skipWhen (m : Machine δ ScriptedKeypad τ) (condition : Bool) :
    (m.skipWhen condition).keypad = m.keypad := by
  cases condition <;> rfl

omit [Screen δ] in
private theorem keypad_skipOnKey (m : Machine δ ScriptedKeypad τ) (x : Register) (down : Bool) :
    (m.skipOnKey x down).state.keypad = m.keypad := by
  have asked := m.keypad.device_isPressed (keyOfByte (m.v.get x))
  simp only [skipOnKey]
  split
  · exact keypad_skipWhen m _
  · split
    · exact asked
    · rw [finish, Outcome.state, keypad_skipWhen]
      exact asked

omit [Screen δ] in
private theorem keypad_stored (m : Machine δ ScriptedKeypad τ) (written : Except Fault Memory) :
    (m.stored written).state.keypad = m.keypad := by
  cases written <;> rfl

theorem keypad_execute (m : Machine δ ScriptedKeypad τ) {instruction : Instruction}
    (other : ∀ x, instruction ≠ .waitKey x) :
    (m.execute instruction).state.keypad = m.keypad := by
  cases instruction with
  | waitKey x => exact absurd rfl (other x)
  | ret => simp only [execute, ret]; split <;> rfl
  | call nnn => simp only [execute, call]; split <;> rfl
  | skipEqImm x kk | skipNeImm x kk | skipEqReg x y | skipNeReg x y => exact keypad_skipWhen m _
  | draw x y n => simp only [execute, draw]; split <;> rfl
  | skipKeyPressed x | skipKeyNotPressed x => exact keypad_skipOnKey m x _
  | storeBcd x | storeRegs x => exact keypad_stored m _
  | loadRegs x => simp only [execute]; split <;> rfl
  | _ => rfl

/-- The machine that has begun to wait for a key, with no press in the queue. -/
def attentive (m : Machine δ ScriptedKeypad τ) (x : Register) : Machine δ ScriptedKeypad τ :=
  { m with
    mode := .awaiting x, keypad := { m.keypad with queue := [] }
    journal := m.journal.record (.waiting x) }

theorem execute_waitKey {m : Machine δ ScriptedKeypad τ}
    (reliable : m.keypad.nextPressFailure = none) (x : Register) :
    m.execute (.waitKey x) = .done () (m.attentive x) := by
  simp only [execute, waitKey, ScriptedKeypad.discardPresses_of_reliable reliable]
  rfl

theorem fetchAndExecute_waitKey {m : Machine δ ScriptedKeypad τ} {word : UInt16} {x : Register}
    (reliable : m.keypad.nextPressFailure = none) (found : m.fetch = .ok (word, .waitKey x)) :
    m.fetchAndExecute = .done () ((m.past word (.waitKey x)).attentive x) := by
  have passed : (m.past word (.waitKey x)).keypad.nextPressFailure = none := reliable
  simp only [fetchAndExecute_eq, found]
  exact execute_waitKey passed x

end Execution

theorem pressKey_of_waiting {κ : Type} {m : Machine δ κ τ} {x : Register} {key : UInt8}
    (waiting : m.mode = .awaiting x) (isKey : key ≤ 0xf) :
    ∃ journal, m.pressKey key =
      (true, { m with v := m.v.put x key, mode := .running, journal }) := by
  have low : ¬ 0xf < key := UInt8.not_lt.mpr isKey
  simp only [pressKey, if_neg low, waiting]
  exact ⟨_, rfl⟩

variable {m : Machine δ ScriptedKeypad τ} {x : Register}

theorem pollKey_of_empty (reliable : m.keypad.nextPressFailure = none)
    (waiting : m.mode = .awaiting x) (empty : m.keypad.queue = []) : m.pollKey = .done () m := by
  simp only [pollKey, waiting, ScriptedKeypad.takePress_of_reliable reliable, empty]
  have stays : { m.keypad with queue := [] } = m.keypad := by rw [← empty]
  exact congrArg (fun keypad => Outcome.done () ({ m with keypad } : Machine δ ScriptedKeypad τ))
    stays

theorem pollKey_of_press {key : Key} {rest : List Key}
    (reliable : m.keypad.nextPressFailure = none) (waiting : m.mode = .awaiting x)
    (queued : m.keypad.queue = key :: rest) :
    ∃ journal, m.pollKey = .done () { m with
      v := m.v.put x (byteOfKey key), mode := .running
      keypad := { m.keypad with queue := rest }, journal } := by
  have asked : (m.afterKeypad (Keypad.takePress m.keypad)).mode = .awaiting x := waiting
  obtain ⟨journal, heard⟩ := pressKey_of_waiting asked (byteOfKey_le key)
  refine ⟨journal, ?_⟩
  rw [ScriptedKeypad.takePress_of_reliable reliable, queued] at heard
  simp only [pollKey, waiting, ScriptedKeypad.takePress_of_reliable reliable, queued]
  exact congrArg (fun heard => Outcome.done () heard.2) heard

end Machine

end Chip8
