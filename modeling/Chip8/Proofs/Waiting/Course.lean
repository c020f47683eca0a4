import Chip8.Proofs.Device.Scripted
import Chip8.Proofs.Machine.History
import Chip8.Proofs.Outcome

/-! What happens to keys, moment by moment. A history of whole cycles and main loops is a course of
moments: single instructions, polls, ends of cycles, and what the host and the user do in between.
Each moment that concerns a key leaves an event, and a course leaves them in order. -/
namespace Chip8

variable {grid : Grid} {τ : Type}

/-- What happens to a key, or to a wait for one. -/
inductive KeyEvent where
  -- The user pressed a key, and the press was queued.
  | queued (key : Key)
  -- An instruction started to wait for a key for register `x`.
  | began (x : Register)
  -- A cycle of the waiting machine asked for a press and there was none.
  | unheard (x : Register)
  -- A cycle of the waiting machine took a press off the queue and put its key into `x`.
  | taken (x : Register) (key : Key)
  -- The host reported a key to the waiting machine, which put it into `x`.
  | given (x : Register) (key : UInt8)
  deriving DecidableEq, Repr

namespace KeyEvent

/-- Whether an event hands a key to a waiting machine. -/
def delivers : KeyEvent → Bool
  | taken _ _ | given _ _ => true
  | _ => false

def press? : KeyEvent → Option Key
  | queued key => some key
  | _ => none

end KeyEvent

/-- What a host does with a machine and a user with its keypad. -/
inductive Doing where
  | step
  | cycle
  | run (frames : Option UInt64)
  | pressKey (key : UInt8)
  | press (key : Key)
  | hold (key : Key)
  | release (key : Key)
  deriving DecidableEq, Repr

namespace Doing

def press? : Doing → Option Key
  | press key => some key
  | _ => none

def action : Doing → Action (HeadlessScreen grid) ScriptedKeypad τ
  | step => .step
  | cycle => .cycle
  | run frames => .run frames
  | pressKey key => .pressKey key
  | press key => .keypad fun keypad => keypad.press key
  | hold key => .keypad fun keypad => keypad.hold key
  | release key => .keypad fun keypad => keypad.release key

end Doing

namespace Machine

/-- Whether neither showing the screen nor taking a press fails. -/
structure Reliable (m : ScriptedMachine grid τ) : Prop where
  render : m.screen.renderFailure = none
  presses : m.keypad.nextPressFailure = none

/-- Whether no press is left to a machine that waits, as is so whenever a cycle of it ends. -/
def Unattended (m : ScriptedMachine grid τ) : Prop :=
  ∀ x, m.mode = .awaiting x → m.keypad.queue = []

theorem unattended_of_running {m : ScriptedMachine grid τ} (running : m.mode = .running) :
    m.Unattended := by
  intro x waiting
  cases running.symm.trans waiting

variable [Speaker τ]

/-- One thing that happens to a machine, the event that it leaves, and the machine afterwards. -/
inductive Moment : ScriptedMachine grid τ → Option KeyEvent → ScriptedMachine grid τ → Prop where
  | queued (m : ScriptedMachine grid τ) (key : Key) :
      Moment m (some (.queued key)) { m with keypad := m.keypad.press key }
  -- Keys are held down and let go, the user is asked whether to leave, the journal is kept.
  | aside {m : ScriptedMachine grid τ} (keypad : ScriptedKeypad) (journal : Journal)
      (presses : keypad.queue = m.keypad.queue)
      (failure : keypad.nextPressFailure = m.keypad.nextPressFailure) :
      Moment m none { m with keypad, journal }
  | given {m : ScriptedMachine grid τ} {x : Register} {key : UInt8}
      (waiting : m.mode = .awaiting x) (isKey : key ≤ 0xf) :
      Moment m (some (.given x key)) (m.pressKey key).2
  | unheard {m : ScriptedMachine grid τ} {x : Register} (waiting : m.mode = .awaiting x)
      (empty : m.keypad.queue = []) : Moment m (some (.unheard x)) m.pollKey.state
  | taken {m : ScriptedMachine grid τ} {x : Register} {key : Key} {rest : List Key}
      (waiting : m.mode = .awaiting x) (presses : m.keypad.queue = key :: rest) :
      Moment m (some (.taken x key)) m.pollKey.state
  | began {m : ScriptedMachine grid τ} {word : UInt16} {x : Register} (running : m.mode = .running)
      (found : m.fetch = .ok (word, .waitKey x)) :
      Moment m (some (.began x)) m.fetchAndExecute.state
  | executed {m after : ScriptedMachine grid τ} {word : UInt16} {instruction : Instruction}
      (running : m.mode = .running) (found : m.fetch = .ok (word, instruction))
      (other : ∀ x, instruction ≠ .waitKey x) (done : m.fetchAndExecute = .done () after) :
      Moment m none after
  | faulted {m left : ScriptedMachine grid τ} {fault : Fault} (running : m.mode = .running)
      (failed : m.fetchAndExecute = .failed fault left) : Moment m none (left.halt fault)
  | closed {m after : ScriptedMachine grid τ} (unattended : m.Unattended)
      (done : m.endCycle = .done () after) : Moment m none after

/-- One moment after the other, with the events that they leave. -/
inductive Course (m : ScriptedMachine grid τ) :
    List KeyEvent → ScriptedMachine grid τ → Prop where
  | start : Course m [] m
  | onward {trace : List KeyEvent} {middle after : ScriptedMachine grid τ}
      {event : Option KeyEvent} (course : Course m trace middle)
      (moment : Moment middle event after) : Course m (trace ++ event.toList) after

theorem Moment.course {m after : ScriptedMachine grid τ} {event : Option KeyEvent}
    (moment : Moment m event after) : Course m event.toList after :=
  .onward .start moment

theorem Course.trans {m middle after : ScriptedMachine grid τ} {trace later : List KeyEvent}
    (first : Course m trace middle) (second : Course middle later after) :
    Course m (trace ++ later) after := by
  induction second with
  | start =>
    rw [List.append_nil]
    exact first
  | onward _ moment ih =>
    rw [← List.append_assoc]
    exact .onward ih moment

section Reliable

variable {m : ScriptedMachine grid τ}

/-- The end of a cycle on devices that do not fail. It leaves the keypad alone, and the whole core
and picture of a machine that waits. -/
theorem endCycle_of_reliable (reliable : m.Reliable) :
    ∃ after, m.endCycle = .done () after ∧ after.mode = m.mode ∧ after.keypad = m.keypad ∧
      after.screen = { m.screen with renders := m.screen.renders + 1 } ∧
      (m.mode ≠ .running → after.toCore = m.toCore) := by
  have shown : Screen.render m.screen =
      ⟨.ok (), { m.screen with renders := m.screen.renders + 1 }, []⟩ := by
    simp only [Screen.render, reliable.render]
  have closed := closed_endCycle m
  have result := closed.result
  rw [shown] at result
  cases outcome : m.endCycle with
  | failed fault left =>
    rw [outcome] at result
    cases result
  | done value after =>
    rw [outcome] at closed
    have mode : after.mode = m.mode := by
      have mode := closed.mode
      rw [shown] at mode
      exact mode
    have screen : after.screen = { m.screen with renders := m.screen.renders + 1 } := by
      have screen := closed.screen
      rw [shown] at screen
      exact screen
    refine ⟨after, rfl, mode, closed.keypad, screen, ?_⟩
    intro still
    have delay := closed.delay
    have sound := closed.sound
    rw [if_neg still] at delay sound
    have core : after.toCore = { m.toCore with
      delay := after.delay, sound := after.sound, mode := after.mode } := closed.core
    have sameDelay : after.delay = m.delay := UInt8.toNat_inj.mp delay
    have sameSound : after.sound = m.sound := UInt8.toNat_inj.mp sound
    rw [core, sameDelay, sameSound, mode]

omit [Speaker τ] in
/-- What executing one instruction does to the failures of the devices: nothing. -/
theorem reliable_fetchAndExecute (reliable : m.Reliable) : m.fetchAndExecute.state.Reliable where
  render := by
    rw [HeadlessScreen.renderFailure_painted (stepped_fetchAndExecute m).screen]
    exact reliable.render
  presses := by
    rw [fetchAndExecute_eq]
    split
    · exact reliable.presses
    · rename_i word instruction _
      have passed : (m.past word instruction).keypad.nextPressFailure = none := reliable.presses
      by_cases waits : ∃ x, instruction = .waitKey x
      · obtain ⟨x, same⟩ := waits
        rw [same] at passed ⊢
        rw [execute_waitKey passed]
        exact passed
      · have other : ∀ x, instruction ≠ .waitKey x := fun x same => waits ⟨x, same⟩
        rw [keypad_execute _ other]
        exact passed

omit [Speaker τ] in
/-- An instruction that waits for a key forgets the presses, and finishes. -/
theorem fetchAndExecute_of_wait {word : UInt16} {x : Register} (reliable : m.Reliable)
    (found : m.fetch = .ok (word, .waitKey x)) :
    ∃ after, m.fetchAndExecute = .done () after ∧ after.mode = .awaiting x ∧
      after.keypad.queue = [] :=
  ⟨_, fetchAndExecute_waitKey reliable.presses found, rfl, rfl⟩

omit [Speaker τ] in
theorem mode_of_executed {after : ScriptedMachine grid τ} {word : UInt16}
    {instruction : Instruction} (running : m.mode = .running)
    (found : m.fetch = .ok (word, instruction)) (other : ∀ x, instruction ≠ .waitKey x)
    (done : m.fetchAndExecute = .done () after) : after.mode = .running := by
  rw [fetchAndExecute_eq, found] at done
  have finished : (m.past word instruction).execute instruction = .done () after := done
  have executed := executed_execute (m.past word instruction) instruction
  rw [finished] at executed
  rcases executed.mode with same | ⟨x, waits, _⟩
  · exact same.trans running
  · exact absurd waits (other x)

theorem Moment.reliable {after : ScriptedMachine grid τ} {event : Option KeyEvent}
    (moment : Moment m event after) (reliable : m.Reliable) : after.Reliable := by
  cases moment with
  | queued key => exact ⟨reliable.render, reliable.presses⟩
  | aside keypad journal presses failure => exact ⟨reliable.render, failure.trans reliable.presses⟩
  | given waiting isKey =>
    obtain ⟨journal, heard⟩ := pressKey_of_waiting waiting isKey
    rw [heard]
    exact ⟨reliable.render, reliable.presses⟩
  | unheard waiting empty =>
    rw [pollKey_of_empty reliable.presses waiting empty]
    exact reliable
  | taken waiting presses =>
    obtain ⟨journal, polled⟩ := pollKey_of_press reliable.presses waiting presses
    rw [polled]
    exact ⟨reliable.render, reliable.presses⟩
  | began running found => exact reliable_fetchAndExecute reliable
  | executed running found other done =>
    have kept := reliable_fetchAndExecute reliable
    rw [done] at kept
    exact kept
  | faulted running failed =>
    have kept := reliable_fetchAndExecute reliable
    rw [failed] at kept
    rw [halt_eq]
    exact ⟨kept.render, kept.presses⟩
  | closed unattended done =>
    obtain ⟨other, finished, _, keypad, screen, _⟩ := endCycle_of_reliable reliable
    rw [finished] at done
    cases done
    exact ⟨by rw [screen]; exact reliable.render, by rw [keypad]; exact reliable.presses⟩

theorem Course.reliable {after : ScriptedMachine grid τ} {trace : List KeyEvent}
    (course : Course m trace after) (reliable : m.Reliable) : after.Reliable := by
  induction course with
  | start => exact reliable
  | onward _ moment ih => exact moment.reliable ih

end Reliable

/-- Whether a course in which the user presses nothing leads from one machine to another. -/
def Comes (m after : ScriptedMachine grid τ) : Prop :=
  ∃ trace, Course m trace after ∧ trace.filterMap KeyEvent.press? = []

namespace Comes

variable {m middle after : ScriptedMachine grid τ}

theorem refl (m : ScriptedMachine grid τ) : Comes m m := ⟨[], .start, rfl⟩

theorem trans (first : Comes m middle) (second : Comes middle after) : Comes m after := by
  obtain ⟨trace, course, quiet⟩ := first
  obtain ⟨later, rest, silent⟩ := second
  refine ⟨trace ++ later, course.trans rest, ?_⟩
  rw [List.filterMap_append, quiet, silent]
  rfl

theorem reliable (comes : Comes m after) (reliable : m.Reliable) : after.Reliable := by
  obtain ⟨trace, course, _⟩ := comes
  exact course.reliable reliable

theorem note (m : ScriptedMachine grid τ) (event : Event) : Comes m (m.note event) :=
  ⟨_, (Moment.aside m.keypad _ rfl rfl).course, rfl⟩

theorem wantsExit (m : ScriptedMachine grid τ) :
    Comes m (m.afterKeypad (Keypad.wantsExit m.keypad)) := by
  have same := m.keypad.device_wantsExit
  refine ⟨_, (Moment.aside (Keypad.wantsExit m.keypad).device _ ?_ ?_).course, rfl⟩
  · rw [same]
  · rw [same]

end Comes

section History

variable {m : ScriptedMachine grid τ}

/-- What a part of a cycle comes to, if nothing that it does fails but instructions. -/
private def Unfolds {α : Type} (m : ScriptedMachine grid τ)
    (outcome : Outcome (ScriptedMachine grid τ) α) : Prop :=
  outcome.Leaves (fun after => Comes m after ∧ after.Unattended)
    fun fault left => Comes m (left.halt fault)

private theorem Unfolds.andThen {α β : Type} {outcome : Outcome (ScriptedMachine grid τ) α}
    {next : α → ScriptedMachine grid τ → Outcome (ScriptedMachine grid τ) β}
    (first : Unfolds m outcome)
    (later : ∀ value middle, Comes m middle → middle.Unattended →
      Unfolds middle (next value middle)) :
    Unfolds m (outcome.andThen next) := by
  apply Outcome.Leaves.andThen first
  rintro value middle ⟨comes, unattended⟩
  have rest := later value middle comes unattended
  cases outcome : next value middle with
  | done value after =>
    rw [outcome] at rest
    exact ⟨comes.trans rest.1, rest.2⟩
  | failed fault left =>
    rw [outcome] at rest
    exact comes.trans rest

private theorem comes_guarded {α : Type} {outcome : Outcome (ScriptedMachine grid τ) α}
    (unfolds : Unfolds m outcome) : Comes m (guarded outcome).state := by
  cases outcome with
  | done value after => exact unfolds.1
  | failed fault left => exact unfolds

private theorem unfolds_fetchAndExecute (reliable : m.Reliable) (running : m.mode = .running) :
    Unfolds m m.fetchAndExecute := by
  cases outcome : m.fetchAndExecute with
  | failed fault left => exact ⟨_, (Moment.faulted running outcome).course, rfl⟩
  | done value after =>
    cases found : m.fetch with
    | error fault =>
      rw [fetchAndExecute_eq, found] at outcome
      cases outcome
    | ok fetched =>
      obtain ⟨word, instruction⟩ := fetched
      by_cases waits : ∃ x, instruction = .waitKey x
      · obtain ⟨x, same⟩ := waits
        rw [same] at found
        obtain ⟨_, finished, _, empty⟩ := fetchAndExecute_of_wait reliable found
        have moment := Moment.began running found
        rw [finished] at outcome moment
        cases outcome
        exact ⟨⟨_, moment.course, rfl⟩, fun _ _ => empty⟩
      · have other : ∀ x, instruction ≠ .waitKey x := fun x same => waits ⟨x, same⟩
        have runs := mode_of_executed running found other outcome
        exact ⟨⟨_, (Moment.executed running found other outcome).course, rfl⟩,
          unattended_of_running runs⟩

private theorem unfolds_batch (count : Nat) (reliable : m.Reliable) (unattended : m.Unattended) :
    Unfolds m (m.batch count) := by
  induction count generalizing m with
  | zero => exact ⟨.refl m, unattended⟩
  | succ count ih =>
    unfold batch
    split
    · rename_i running
      exact (unfolds_fetchAndExecute reliable running).andThen
        fun _ _ comes unattended => ih (comes.reliable reliable) unattended
    · exact ⟨.refl m, unattended⟩

private theorem unfolds_pollKey (reliable : m.Reliable) : Unfolds m m.pollKey := by
  cases mode : m.mode with
  | halted =>
    have stays : m.halt .halted = m := by simp only [halt, mode]
    have comes : Comes m (m.halt .halted) := by
      rw [stays]
      exact .refl m
    simp only [pollKey, mode]
    exact comes
  | running =>
    simp only [pollKey, mode]
    exact ⟨.refl m, unattended_of_running mode⟩
  | awaiting x =>
    cases presses : m.keypad.queue with
    | nil =>
      have moment := Moment.unheard mode presses
      rw [pollKey_of_empty reliable.presses mode presses] at moment ⊢
      exact ⟨⟨_, moment.course, rfl⟩, fun _ _ => presses⟩
    | cons key rest =>
      have moment := Moment.taken mode presses
      obtain ⟨journal, polled⟩ := pollKey_of_press reliable.presses mode presses
      rw [polled] at moment ⊢
      exact ⟨⟨_, moment.course, rfl⟩, unattended_of_running rfl⟩

private theorem unfolds_endCycle (reliable : m.Reliable) (unattended : m.Unattended) :
    Unfolds m m.endCycle := by
  obtain ⟨after, done, mode, keypad, _⟩ := endCycle_of_reliable reliable
  rw [done]
  refine ⟨⟨_, (Moment.closed unattended done).course, rfl⟩, ?_⟩
  intro x waiting
  rw [keypad]
  exact unattended x (mode.symm.trans waiting)

theorem comes_cycle (reliable : m.Reliable) : Comes m m.cycle.state := by
  apply comes_guarded
  have batched : Unfolds m (m.pollKey.andThen fun _ m => m.batch m.batchSize) :=
    (unfolds_pollKey reliable).andThen
      fun _ _ comes unattended => unfolds_batch _ (comes.reliable reliable) unattended
  exact batched.andThen fun _ _ comes unattended =>
    unfolds_endCycle (comes.reliable reliable) unattended

theorem comes_step (reliable : m.Reliable) : Comes m m.step.state := by
  unfold step
  split
  · exact .refl m
  · exact .refl m
  · rename_i running
    exact comes_guarded (unfolds_fetchAndExecute reliable running)

theorem comes_runFrom (limit count : Nat) (reliable : m.Reliable) :
    Comes m (runFrom limit count m).state := by
  induction limit generalizing count m with
  | zero => exact .refl m
  | succ limit ih =>
    have asked := Comes.wantsExit m
    simp only [runFrom]
    split
    · exact asked.trans (.note _ _)
    · have reliable := asked.reliable reliable
      have cycled := comes_cycle reliable
      cases outcome : (m.afterKeypad (Keypad.wantsExit m.keypad)).cycle with
      | done value after =>
        rw [outcome] at cycled
        exact (asked.trans cycled).trans (ih _ (cycled.reliable reliable))
      | failed fault stopped =>
        rw [outcome] at cycled
        exact asked.trans cycled

/-- A key that the host reports to a machine that does not wait for one. -/
private theorem pressKey_elsewhere (key : UInt8)
    (elsewhere : 0xf < key ∨ ∀ x, m.mode ≠ .awaiting x) : Comes m (m.pressKey key).2 := by
  unfold pressKey
  split
  · exact .note m _
  · rename_i isKey
    split
    · rename_i x waiting
      rcases elsewhere with noKey | busy
      · exact absurd noKey isKey
      · exact absurd waiting (busy x)
    · exact .refl m

private theorem comes_pressKey (key : UInt8) : Comes m (m.pressKey key).2 := by
  by_cases noKey : 0xf < key
  · exact pressKey_elsewhere key (.inl noKey)
  · cases mode : m.mode with
    | awaiting x => exact ⟨_, (Moment.given mode (UInt8.not_lt.mp noKey)).course, rfl⟩
    | running | halted =>
      refine pressKey_elsewhere key (.inr ?_)
      intro x waiting
      rw [mode] at waiting
      cases waiting

/-- Does one thing after the other, whatever comes of each. -/
def doAll (m : ScriptedMachine grid τ) (doings : List Doing) : ScriptedMachine grid τ :=
  m.performAll (doings.map Doing.action)

theorem doAll_cons (m : ScriptedMachine grid τ) (doing : Doing) (rest : List Doing) :
    m.doAll (doing :: rest) = (m.perform doing.action).state.doAll rest :=
  rfl

private theorem course_doing (reliable : m.Reliable) (doing : Doing) :
    ∃ trace, Course m trace (m.perform doing.action).state ∧
      trace.filterMap KeyEvent.press? = doing.press?.toList := by
  cases doing with
  | step =>
    simp only [Doing.action, perform, Outcome.state_map]
    exact comes_step reliable
  | cycle =>
    simp only [Doing.action, perform, Outcome.state_map]
    exact comes_cycle reliable
  | run frames =>
    simp only [Doing.action, perform, Outcome.state_map]
    have noted := Comes.note m (.running m.settings.rate m.batchSize)
    exact noted.trans (comes_runFrom _ 0 (noted.reliable reliable))
  | pressKey key => exact comes_pressKey key
  | press key => exact ⟨_, (Moment.queued m key).course, rfl⟩
  | hold key => exact ⟨[], (Moment.aside (m.keypad.hold key) m.journal rfl rfl).course, rfl⟩
  | release key => exact ⟨[], (Moment.aside (m.keypad.release key) m.journal rfl rfl).course, rfl⟩

/-- Every history of a machine with devices that do not fail is a course, which queues just the
presses of that history. -/
theorem course_doAll (reliable : m.Reliable) (doings : List Doing) :
    ∃ trace, Course m trace (m.doAll doings) ∧
      trace.filterMap KeyEvent.press? = doings.filterMap Doing.press? := by
  induction doings generalizing m with
  | nil => exact ⟨[], .start, rfl⟩
  | cons doing rest ih =>
    obtain ⟨trace, course, presses⟩ := course_doing reliable doing
    obtain ⟨later, onward, others⟩ := ih (course.reliable reliable)
    refine ⟨trace ++ later, course.trans onward, ?_⟩
    rw [List.filterMap_append, presses, others]
    cases doing <;> rfl

end History

end Machine

end Chip8
