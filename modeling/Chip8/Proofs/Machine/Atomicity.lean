import Chip8.Device.Headless
import Chip8.Proofs.Machine.Step

/-! A step that fails has done nothing: what an instruction checks, it checks before its first
effect. Only `pc`, the mode and the journal tell that it was tried, and the keypad if it was asked;
a scripted keypad does not tell either. -/
namespace Chip8

namespace Machine

variable {δ κ τ : Type} [Keypad κ]

/-- An instruction that faults has changed nothing but the keypad that it asked. -/
theorem Fails.left_eq {m left : Machine δ κ τ} {instruction : Instruction} {fault : Fault}
    (fails : Fails m instruction fault left) :
    left = { m with keypad := left.keypad, journal := left.journal } := by
  cases fails <;> rfl

/-- Where `pc` stands after a failed step. -/
def pcWhenStopped (m : Machine δ κ τ) : UInt16 :=
  match m.fetch with
  | .error _ => m.pc
  | .ok _ => m.pc + 2

theorem step_failed_eq [Screen δ] {m stopped : Machine δ κ τ} {fault : Fault}
    (running : m.mode = .running) (failed : m.step = .failed fault stopped) :
    stopped = { m with
      mode := .halted, pc := m.pcWhenStopped, keypad := stopped.keypad,
      journal := stopped.journal } := by
  rcases step_failed running failed with ⟨refused, same⟩ |
    ⟨word, instruction, left, found, fails, same⟩
  · subst same
    rw [halt_eq]
    simp only [pcWhenStopped, refused]
  · subst same
    rw [halt_eq, fails.left_eq]
    simp only [pcWhenStopped, found]
    rfl

omit [Keypad κ] in
@[simp]
theorem keypad_halt (m : Machine δ κ τ) (fault : Fault) : (m.halt fault).keypad = m.keypad := by
  rw [halt_eq]

end Machine

theorem ScriptedKeypad.device_isPressed (keypad : ScriptedKeypad) (key : Key) :
    (Keypad.isPressed keypad key).device = keypad := by
  simp only [Keypad.isPressed]
  split <;> rfl

theorem ScriptedKeypad.device_discardPresses {keypad : ScriptedKeypad} {error : DeviceError}
    (broken : (Keypad.discardPresses keypad).answer = .error error) :
    (Keypad.discardPresses keypad).device = keypad := by
  rw [discardPresses_eq] at broken ⊢
  split at broken
  · rfl
  · cases broken

namespace Machine

theorem Fails.keypad_eq {m left : Machine δ ScriptedKeypad τ} {instruction : Instruction}
    {fault : Fault} (fails : Fails m instruction fault left) : left.keypad = m.keypad := by
  cases fails with
  | held asks key broken => exact m.keypad.device_isPressed _
  | presses x broken => exact ScriptedKeypad.device_discardPresses broken
  | _ => rfl

theorem step_failed_keypad [Screen δ] {m stopped : Machine δ ScriptedKeypad τ} {fault : Fault}
    (running : m.mode = .running) (failed : m.step = .failed fault stopped) :
    stopped.keypad = m.keypad := by
  rcases step_failed running failed with ⟨_, same⟩ | ⟨word, instruction, left, _, fails, same⟩
  · rw [same, keypad_halt]
  · rw [same, keypad_halt, fails.keypad_eq]
    rfl

/-- On a scripted keypad, whose failing calls do nothing, a step that fails leaves everything but
the mode, `pc` and the journal as it was. -/
theorem step_failed_unchanged [Screen δ] {m stopped : Machine δ ScriptedKeypad τ} {fault : Fault}
    (running : m.mode = .running) (failed : m.step = .failed fault stopped) :
    stopped = { m with
      mode := .halted, pc := m.pcWhenStopped, journal := stopped.journal } := by
  have kept := step_failed_keypad running failed
  have same := step_failed_eq running failed
  rw [kept] at same
  exact same

/-- A machine about to call the routine at `0x060`, with no room for the return address. -/
def overfull : Machine (HeadlessScreen Grid.standard) ScriptedKeypad MuteSpeaker :=
  { create {} (HeadlessScreen.blank Grid.standard) {} {} with
    pc := 5, stack := List.replicate 16 0x300 }

private theorem fetch_overfull : overfull.fetch = .ok (0x2060, .call 0x060) := by
  rw [fetch_eq_ok_iff, Memory.readWord_eq_ok_iff]
  exact ⟨by decide +kernel, rfl⟩

private theorem step_overfull : overfull.step =
    .failed (.stackOverflow 16) ((overfull.past 0x2060 (.call 0x060)).halt (.stackOverflow 16)) :=
  step_of_fails rfl fetch_overfull (.overflow _ (by decide))

theorem step_overfull_unchanged :
    overfull.mode = .running ∧ overfull.pcWhenStopped = 7 ∧
    ∃ stopped, overfull.step = .failed (.stackOverflow 16) stopped ∧
      stopped = { overfull with
        mode := .halted, pc := overfull.pcWhenStopped, journal := stopped.journal } := by
  refine ⟨rfl, ?_, _, step_overfull, step_failed_unchanged rfl step_overfull⟩
  rw [pcWhenStopped, fetch_overfull]
  rfl

end Machine

end Chip8
