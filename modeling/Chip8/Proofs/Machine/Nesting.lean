import Chip8.Proofs.Machine.Atomicity
import Chip8.Proofs.Machine.Faults
import Chip8.Proofs.Machine.History

/-! Calls and returns nest. A call puts its return address on top of the stack, and whatever is
executed next reaches below that address only by returning to it. This needs no discipline of the
program: only calls and returns touch the stack, and they touch its top. -/
namespace Chip8

open Instruction

variable {δ κ τ : Type}

/-- Whether an action executes one instruction at most. -/
def Action.single : Action δ κ τ → Bool
  | .cycle | .run _ => false
  | _ => true

theorem Core.Goes.stack_cases {c : Core} {instruction : Instruction} {pc : UInt16}
    {stack : List UInt16} (goes : c.Goes instruction pc stack) :
    stack = c.stack ∨ stack = c.pc :: c.stack ∨ (instruction = .ret ∧ c.stack = pc :: stack) := by
  cases goes with
  | onward | skipping | jumping | jumpingFar => exact .inl rfl
  | calling => exact .inr (.inl rfl)
  | returning top => exact .inr (.inr ⟨rfl, top⟩)

namespace Machine

section Step

variable [Screen δ] [Keypad κ]

/-- What a step does to the stack: nothing, one more address on top, or a return to the top. -/
inductive StackMoves (m : Machine δ κ τ) : Prop where
  | kept (same : m.step.state.stack = m.stack)
  | pushed (top : UInt16) (more : m.step.state.stack = top :: m.stack)
  | popped (running : m.mode = .running) (stands : m.Stands 0x00ee)
      (done : m.step.result = .ok ()) (top : m.stack = m.step.state.pc :: m.step.state.stack)

omit [Screen δ] [Keypad κ] in
private theorem stands_of_ret {m : Machine δ κ τ} {word : UInt16}
    (found : m.fetch = .ok (word, .ret)) : m.Stands 0x00ee := by
  obtain ⟨stands, decoded⟩ := (m.fetch_ok_iff word .ret).mp found
  have same : 0x00ee = word := encode_of_ofWord? decoded
  rw [same]
  exact stands

theorem stackMoves_step (m : Machine δ κ τ) : StackMoves m := by
  cases mode : m.mode with
  | halted => exact .kept (by simp only [step, mode, Outcome.state])
  | awaiting x => exact .kept (by simp only [step, mode, finish, Outcome.state])
  | running =>
    cases outcome : m.step with
    | failed fault stopped =>
      have same := step_failed_eq mode outcome
      refine .kept ?_
      rw [outcome, Outcome.state, same]
    | done value after =>
      obtain ⟨word, instruction, found, fetched⟩ := step_done mode outcome
      have executed := executed_execute (m.past word instruction) instruction
      rw [fetched] at executed
      have state : m.step.state = after := by rw [outcome]; rfl
      rcases executed.control.stack_cases with same | more | ⟨isRet, top⟩
      · exact .kept (by rw [state]; exact same)
      · exact .pushed (m.pc + 2) (by rw [state]; exact more)
      · subst isRet
        refine .popped mode (stands_of_ret found) (by rw [outcome]; rfl) ?_
        rw [state]
        exact top

/-- What a call does when there is room for its return address. -/
theorem step_of_call {m : Machine δ κ τ} {word : UInt16} (running : m.mode = .running)
    (stands : m.Stands word) (call : word.toNat / 4096 = 0x2) (room : m.stack.length < 16) :
    m.step.result = .ok () ∧ m.step.state.pc.toNat = word.toNat % 4096 ∧
      m.step.state.stack = (m.pc + 2) :: m.stack := by
  have decoded : ofWord? word = some (.call (Word.nnn word)) := by
    simp only [ofWord?, Word.family, call]
  have found := (m.fetch_ok_iff word _).mpr ⟨stands, decoded⟩
  have fits : ¬ maxDepth ≤ (m.past word (.call (Word.nnn word))).stack.length :=
    Nat.not_le_of_lt room
  have target : (UInt16.ofNat (Word.nnn word).val).toNat = word.toNat % 4096 :=
    UInt16.toNat_ofNat_of_lt' (Nat.lt_trans (Word.nnn word).isLt (by decide))
  simp only [step, running, fetchAndExecute_eq, found, execute, Machine.call, if_neg fits]
  exact ⟨rfl, target, rfl⟩

end Step

variable [Screen δ] [Keypad κ] [Speaker τ]

/-- Only a step moves the stack. -/
private theorem stack_perform {m : Machine δ κ τ} {action : Action δ κ τ}
    (single : action.single) (other : action ≠ .step) :
    (m.perform action).state.stack = m.stack := by
  cases action with
  | step => exact absurd rfl other
  | cycle | run => cases single
  | load program =>
    rw [perform, Outcome.state_map, load]
    cases m.memory.load program <;> rfl
  | loadFrom source =>
    rw [perform, Outcome.state_map, loadFrom]
    cases source.readAll with
    | error error => rfl
    | ok program =>
      dsimp only [load]
      cases m.memory.load program <;> rfl
  | pressKey key =>
    simp only [perform, pressKey]
    split
    · rfl
    · split <;> rfl
  | tick | screen | keypad | speaker => rfl

/-- Whether the stack holds more than `depth` addresses throughout a history. -/
def staysAbove (depth : Nat) (m : Machine δ κ τ) : List (Action δ κ τ) → Bool
  | [] => depth < m.stack.length
  | action :: rest => depth < m.stack.length && staysAbove depth (m.perform action).state rest

private theorem above_of_staysAbove {depth : Nat} {m : Machine δ κ τ}
    {actions : List (Action δ κ τ)} (stays : staysAbove depth m actions) :
    depth < m.stack.length := by
  cases actions with
  | nil => exact of_decide_eq_true stays
  | cons action rest =>
    rw [staysAbove, Bool.and_eq_true] at stays
    exact of_decide_eq_true stays.1

/-- One action on a stack with a return address above `below`: unless it returns to that address,
the address stays and so does what is below it. -/
private theorem frame_perform {m : Machine δ κ τ} {action : Action δ κ τ} {target : UInt16}
    {rest below : List UInt16} (single : action.single)
    (stack : m.stack = rest ++ target :: below) :
    (∃ rest, (m.perform action).state.stack = rest ++ target :: below) ∨
      (action = .step ∧ m.mode = .running ∧ m.Stands 0x00ee ∧ m.step.result = .ok () ∧
        m.step.state.pc = target ∧ m.step.state.stack = below) := by
  by_cases step : action = .step
  · subst step
    have performed : (m.perform .step).state = m.step.state := Outcome.state_map ..
    rw [performed]
    cases stackMoves_step m with
    | kept same => exact .inl ⟨rest, by rw [same, stack]⟩
    | pushed top more => exact .inl ⟨top :: rest, by rw [more, stack]; rfl⟩
    | popped running stands done top =>
      rw [stack] at top
      cases rest with
      | nil =>
        obtain ⟨same, left⟩ := List.cons.inj top
        exact .inr ⟨rfl, running, stands, done, same.symm, left.symm⟩
      | cons inner rest =>
        obtain ⟨_, left⟩ := List.cons.inj top
        exact .inl ⟨rest, left.symm⟩
  · exact .inl ⟨rest, by rw [stack_perform single step, stack]⟩

private theorem frame_performAll {m : Machine δ κ τ} {actions : List (Action δ κ τ)}
    {target : UInt16} {rest below : List UInt16} (single : ∀ action ∈ actions, action.single)
    (stays : staysAbove below.length m actions) (stack : m.stack = rest ++ target :: below) :
    ∃ rest, (m.performAll actions).stack = rest ++ target :: below := by
  -- What lies above the return address varies from action to action, so `rest` is generalized too.
  induction actions generalizing m rest with
  | nil => exact ⟨rest, stack⟩
  | cons action later ih =>
    rw [staysAbove, Bool.and_eq_true] at stays
    have first := single action List.mem_cons_self
    have others : ∀ action ∈ later, action.single :=
      fun other member => single other (List.mem_cons_of_mem _ member)
    rcases frame_perform first stack with ⟨rest, framed⟩ | ⟨isStep, _, _, _, _, returned⟩
    · exact ih others stays.2 framed
    · have above := above_of_staysAbove stays.2
      subst isStep
      have performed : (m.perform .step).state = m.step.state := Outcome.state_map ..
      rw [performed, returned] at above
      exact absurd above (Nat.lt_irrefl _)

/-- A call with room for its return address goes to its target with that address on the stack.
Whatever single steps, loads, keys and ticks follow: as long as the stack has stayed above the depth
of before the call, it holds the return address right above what it held then; and the first action
after which it has not stayed above is a return to that address, which leaves the stack just as it
was before the call. -/
theorem calls_nest {m : Machine δ κ τ} {word : UInt16} (running : m.mode = .running)
    (stands : m.Stands word) (call : word.toNat / 4096 = 0x2) (room : m.stack.length < 16) :
    m.step.result = .ok () ∧ m.step.state.pc.toNat = word.toNat % 4096 ∧
      m.step.state.stack = (m.pc + 2) :: m.stack ∧
      ∀ actions : List (Action δ κ τ), (∀ action ∈ actions, action.single) →
        staysAbove m.stack.length m.step.state actions →
        (∃ rest, (m.step.state.performAll actions).stack = rest ++ (m.pc + 2) :: m.stack) ∧
        ∀ action : Action δ κ τ, action.single →
          let before := m.step.state.performAll actions
          let after := (before.perform action).state
          after.stack.length ≤ m.stack.length →
          action = .step ∧ before.mode = .running ∧ before.Stands 0x00ee ∧
            before.step.result = .ok () ∧ after.pc = m.pc + 2 ∧ after.stack = m.stack := by
  obtain ⟨done, target, pushed⟩ := step_of_call running stands call room
  refine ⟨done, target, pushed, ?_⟩
  intro actions single stays
  have top : m.step.state.stack = [] ++ (m.pc + 2) :: m.stack := pushed
  obtain ⟨rest, framed⟩ := frame_performAll single stays top
  refine ⟨⟨rest, framed⟩, ?_⟩
  intro action alone before after level
  rcases frame_perform alone framed with ⟨rest, still⟩ | ⟨isStep, running, stands, done, pc, stack⟩
  · have length : after.stack.length = _ := congrArg List.length still
    rw [List.length_append, List.length_cons] at length
    have above : m.stack.length < after.stack.length := by omega
    exact absurd level (Nat.not_le_of_lt above)
  · have performed : after = before.step.state := by
      subst isStep
      exact Outcome.state_map ..
    rw [performed]
    exact ⟨isStep, running, stands, done, pc, stack⟩

/-- A machine about to call the routine at `0x206`, which calls the one at `0x20a` and returns. -/
def caller : Machine (HeadlessScreen Grid.standard) ScriptedKeypad MuteSpeaker :=
  (create {} (HeadlessScreen.blank Grid.standard) {} {}).performAll
    [.load [0x22, 0x06, 0x12, 0x02, 0x00, 0x00, 0x22, 0x0a, 0x00, 0xee, 0x00, 0xee]]

theorem caller_returns :
    caller.mode = .running ∧ caller.Stands 0x2206 ∧
      let before := caller.step.state.performAll [.step, .tick, .pressKey 3, .step]
      (before.perform .step).state.pc = 0x202 ∧ (before.perform .step).state.stack = [] := by
  have start : caller.mode = .running ∧ caller.Stands 0x2206 ∧ caller.pc + 2 = 0x202 := by
    decide +kernel
  obtain ⟨running, stands, next⟩ := start
  have stays : staysAbove 0 caller.step.state [.step, .tick, .pressKey 3, .step] := by
    decide +kernel
  have single : ∀ action ∈ ([.step, .tick, .pressKey 3, .step] :
      List (Action (HeadlessScreen Grid.standard) ScriptedKeypad MuteSpeaker)), action.single := by
    simp [Action.single]
  have empty : caller.stack = [] := rfl
  obtain ⟨_, _, _, nested⟩ := calls_nest running stands (by decide) (by rw [empty]; decide)
  obtain ⟨_, returns⟩ := nested _ single stays
  obtain ⟨_, _, _, _, pc, stack⟩ := returns .step rfl (by decide +kernel)
  refine ⟨running, stands, ?_, stack⟩
  rw [pc, next]

end Machine

end Chip8
