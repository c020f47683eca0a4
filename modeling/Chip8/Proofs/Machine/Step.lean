import Chip8.Proofs.Machine.Execution
import Chip8.Proofs.Memory.Access

namespace Chip8

variable {δ κ τ : Type}

namespace Machine

/-- The word at `pc` and the instruction that it stands for, or the fault met on the way. -/
def fetch (m : Machine δ κ τ) : Except Fault (UInt16 × Instruction) :=
  match m.memory.readWord m.pc with
  | .error fault => .error fault
  | .ok word =>
    match Instruction.decode word with
    | .error fault => .error fault
    | .ok instruction => .ok (word, instruction)

/-- The machine whose `pc` has passed a fetched instruction. -/
def past (m : Machine δ κ τ) (word : UInt16) (instruction : Instruction) : Machine δ κ τ :=
  { m.note (.executing m.pc word instruction) with pc := m.pc + 2 }

theorem fetch_eq_ok_iff (m : Machine δ κ τ) (word : UInt16) (instruction : Instruction) :
    m.fetch = .ok (word, instruction) ↔
      m.memory.readWord m.pc = .ok word ∧ Instruction.decode word = .ok instruction := by
  unfold fetch
  constructor
  · intro found
    split at found
    · cases found
    · rename_i read
      split at found
      · cases found
      · rename_i decoded
        cases found
        exact ⟨read, decoded⟩
  · rintro ⟨read, decoded⟩
    simp only [read, decoded]

theorem toCore_halt (m : Machine δ κ τ) (fault : Fault) :
    (m.halt fault).toCore = { m.toCore with mode := .halted } := by
  unfold halt
  split
  · rename_i halted
    rw [← halted]
  · rfl

theorem halt_eq (m : Machine δ κ τ) (fault : Fault) :
    m.halt fault = { m with mode := .halted, journal := (m.halt fault).journal } := by
  unfold halt
  split
  · rename_i halted
    rw [← halted]
  · rfl

variable [Screen δ] [Keypad κ]

theorem fetchAndExecute_eq (m : Machine δ κ τ) :
    m.fetchAndExecute =
      match m.fetch with
      | .error fault => .failed fault m
      | .ok (word, instruction) => (m.past word instruction).execute instruction := by
  unfold fetchAndExecute fetch
  cases m.memory.readWord m.pc with
  | error fault => rfl
  | ok word =>
    dsimp only
    cases Instruction.decode word <;> rfl

theorem step_of_refused {m : Machine δ κ τ} {fault : Fault} (running : m.mode = .running)
    (refused : m.fetch = .error fault) : m.step = .failed fault (m.halt fault) := by
  simp only [step, running, fetchAndExecute_eq, refused, guarded]

theorem step_of_fails {m left : Machine δ κ τ} {word : UInt16} {instruction : Instruction}
    {fault : Fault} (running : m.mode = .running) (found : m.fetch = .ok (word, instruction))
    (fails : Fails (m.past word instruction) instruction fault left) :
    m.step = .failed fault (left.halt fault) := by
  simp only [step, running, fetchAndExecute_eq, found, execute_of_fails fails, guarded]

theorem step_of_done {m after : Machine δ κ τ} {word : UInt16} {instruction : Instruction}
    (running : m.mode = .running) (found : m.fetch = .ok (word, instruction))
    (done : (m.past word instruction).execute instruction = .done () after) :
    m.step = .done () after := by
  simp only [step, running, fetchAndExecute_eq, found, done, guarded]

/-- A step that finishes has executed the instruction that it fetched. -/
theorem step_done {m after : Machine δ κ τ} (running : m.mode = .running)
    (done : m.step = .done () after) :
    ∃ word instruction, m.fetch = .ok (word, instruction) ∧
      (m.past word instruction).execute instruction = .done () after := by
  simp only [step, running, fetchAndExecute_eq] at done
  split at done
  · cases done
  · rename_i word instruction found
    cases outcome : (m.past word instruction).execute instruction with
    | done value left =>
      rw [outcome] at done
      cases done
      exact ⟨word, instruction, found, outcome⟩
    | failed cause left =>
      rw [outcome] at done
      cases done

/-- What a failed step was: a failed fetch, or a failed instruction that `pc` had passed. -/
theorem step_failed {m stopped : Machine δ κ τ} {fault : Fault} (running : m.mode = .running)
    (failed : m.step = .failed fault stopped) :
    (m.fetch = .error fault ∧ stopped = m.halt fault) ∨
      ∃ word instruction left, m.fetch = .ok (word, instruction) ∧
        Fails (m.past word instruction) instruction fault left ∧ stopped = left.halt fault := by
  simp only [step, running, fetchAndExecute_eq] at failed
  split at failed
  · rename_i refused
    cases failed
    exact .inl ⟨refused, rfl⟩
  · rename_i word instruction found
    cases outcome : (m.past word instruction).execute instruction with
    | done value left =>
      rw [outcome] at failed
      cases failed
    | failed cause left =>
      rw [outcome] at failed
      cases failed
      exact .inr ⟨word, instruction, left, found, fails_of_execute outcome, rfl⟩

end Machine

end Chip8
