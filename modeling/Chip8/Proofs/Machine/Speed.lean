import Chip8.Proofs.Device.Scripted
import Chip8.Proofs.Machine.Correspondence

/-! What the speed of a machine makes a difference to. Between batches of instructions the timers
tick, the speaker is driven and the screen is shown. Only the instruction that reads the delay timer
and the one that waits for a key take notice of that. A program that executes neither comes to the
same in batches of any size as in single steps. -/
namespace Chip8

/-- Whether an instruction reads the delay timer or waits for a key. -/
def Instruction.heedsClock : Instruction → Bool
  | .loadDelay _ | .waitKey _ => true
  | _ => false

variable {grid : Grid} {κ τ : Type}

namespace Machine

/-- The instruction that a machine executes next, if it gets to one. -/
def next? {δ : Type} (m : Machine δ κ τ) : Option Instruction :=
  match m.fetch with
  | .ok (_, instruction) => some instruction
  | .error _ => none

/-- Whether none of the instructions that the next `count` steps execute heeds the clock. -/
def isClockless {δ : Type} [Screen δ] [Keypad κ] : Nat → Machine δ κ τ → Bool
  | 0, _ => true
  | count + 1, m => !m.next?.any Instruction.heedsClock && isClockless count m.step.state

def atSpeed {δ : Type} (speed : Nat) (m : Machine δ κ τ) : Machine δ κ τ :=
  { m with settings := { m.settings with speed } }

/-- Whether two machines are the same but for the timers, the speed, the speaker and what is
remembered of its failure, how often the screen was shown, and the journal. -/
structure SameButClock (m m' : Machine (HeadlessScreen grid) κ τ) : Prop where
  core : m'.toCore = { m.toCore with delay := m'.delay, sound := m'.sound }
  screen : m'.screen = { m.screen with renders := m'.screen.renders }
  keypad : m'.keypad = m.keypad
  settings : m'.settings = { m.settings with speed := m'.settings.speed }

end Machine

/-- Machines with any timers and speeds, on screens that were shown any number of times. -/
def untimed (grid : Grid) (κ τ : Type) [Keypad κ] :
    Correspondence (HeadlessScreen grid) κ τ (HeadlessScreen grid) κ τ where
  screens screen screen' := screen' = { screen with renders := screen'.renders }
  keypads := Eq
  speakers _ _ _ _ := True
  timers _ _ := True
  settings settings settings' := settings' = { settings with speed := settings'.speed }
  journals := anyJournals
  timer _ := trivial
  inclusive similar := by rw [similar]
  record _ _ _ := trivial
  clear same := by
    rw [same]
    rfl
  toggle x y same := by
    rw [same]
    exact ⟨rfl, rfl, fun _ => trivial⟩
  isPressed := @isPressed_of_eq κ _
  takePress := @takePress_of_eq κ _
  discardPresses := @discardPresses_of_eq κ _

namespace Machine

variable {m m' : Machine (HeadlessScreen grid) κ τ}

theorem untimed_iff [Keypad κ] : (untimed grid κ τ).Alike m m' ↔ m.SameButClock m' := by
  constructor
  · intro alike
    cases alike with
    | intro memory v i pc stack mode random delays sounds screens keypads speakers similar =>
      exact ⟨rfl, screens, keypads.symm, similar⟩
  · rintro ⟨core, screen, keypad, settings⟩
    obtain ⟨⟨memory, v, i, pc, stack, delay, sound, mode, random⟩, _, _, _, _, _, _⟩ := m
    obtain ⟨⟨memory', v', i', pc', stack', delay', sound', mode', random'⟩, _, _, _, _, _, _⟩ := m'
    cases core
    exact .intro _ _ _ _ _ _ _ trivial trivial screen keypad.symm trivial settings trivial

namespace SameButClock

theorem symm (same : m.SameButClock m') : m'.SameButClock m where
  core := by rw [same.core]
  screen := by rw [same.screen]
  keypad := same.keypad.symm
  settings := by rw [same.settings]

theorem trans {m'' : Machine (HeadlessScreen grid) κ τ} (first : m.SameButClock m')
    (second : m'.SameButClock m'') : m.SameButClock m'' where
  core := by rw [second.core, first.core]
  screen := by rw [second.screen, first.screen]
  keypad := second.keypad.trans first.keypad
  settings := by rw [second.settings, first.settings]

end SameButClock

variable [Keypad κ]

section Steps

variable {δ : Type} [Screen δ]

private theorem isClockless_succ {count : Nat} {m : Machine δ κ τ}
    (clockless : m.isClockless (count + 1)) :
    (∀ word instruction, m.fetch = .ok (word, instruction) → instruction.heedsClock = false) ∧
      m.step.state.isClockless count := by
  simp only [isClockless, Bool.and_eq_true, Bool.not_eq_true'] at clockless
  refine ⟨?_, clockless.2⟩
  intro word instruction found
  have heeds := clockless.1
  simp only [next?, found, Option.any_some] at heeds
  exact heeds

private theorem isClockless_add {first second : Nat} {m middle : Machine δ κ τ}
    (clockless : m.isClockless (first + second)) (done : steps first m = .done () middle) :
    m.isClockless first ∧ middle.isClockless second := by
  induction first generalizing m with
  | zero =>
    cases done
    rw [Nat.zero_add] at clockless
    exact ⟨rfl, clockless⟩
  | succ first ih =>
    obtain ⟨next, stepped, rest⟩ := steps_succ done
    rw [Nat.succ_add] at clockless
    simp only [isClockless, Bool.and_eq_true, stepped, Outcome.state] at clockless ⊢
    obtain ⟨before, after⟩ := ih clockless.2 rest
    exact ⟨⟨clockless.1, before⟩, after⟩

/-- Only the instruction that waits for a key stops a machine that meets no fault. -/
private theorem running_of_step {m next : Machine δ κ τ} (running : m.mode = .running)
    (done : m.step = .done () next)
    (clockless : ∀ word instruction, m.fetch = .ok (word, instruction) →
      instruction.heedsClock = false) : next.mode = .running := by
  obtain ⟨word, instruction, found, outcome⟩ := step_done running done
  have executed := executed_execute (m.past word instruction) instruction
  rw [outcome] at executed
  rcases executed.mode with same | ⟨x, rfl, _⟩
  · exact same.trans running
  · cases clockless word _ found

private theorem running_of_steps {count : Nat} {m last : Machine δ κ τ}
    (running : m.mode = .running) (clockless : m.isClockless count)
    (done : steps count m = .done () last) : last.mode = .running := by
  induction count generalizing m with
  | zero =>
    cases done
    exact running
  | succ count ih =>
    obtain ⟨next, stepped, rest⟩ := steps_succ done
    obtain ⟨first, later⟩ := isClockless_succ clockless
    rw [stepped] at later
    exact ih (running_of_step running stepped first) later rest

end Steps

/-- Clockless steps do the same whatever the timers show. -/
private theorem steps_untimed {count : Nat} (alike : (untimed grid κ τ).Alike m m')
    (clockless : m'.isClockless count) :
    (untimed grid κ τ).Outcomes (steps count m) (steps count m') := by
  induction count generalizing m m' with
  | zero => exact .done () alike
  | succ count ih =>
    obtain ⟨first, later⟩ := isClockless_succ clockless
    have stepped : (untimed grid κ τ).Outcomes m.step m'.step := by
      apply alike.step rfl
      intro word x found
      cases first word _ found
    unfold steps
    generalize m.step = outcome at stepped ⊢
    generalize m'.step = outcome' at stepped later ⊢
    cases stepped with
    | done value alike => exact ih alike later
    | failed fault alike => exact .failed fault alike

variable [Speaker τ]

/-- What a cycle of a running machine adds to the steps of its batch. -/
private theorem cycle_of_steps {reached : Machine (HeadlessScreen grid) κ τ}
    (running : m.mode = .running) (shows : m.screen.renderFailure = none)
    (done : steps m.batchSize m = .done () reached) :
    ∃ after, m.cycle = .done () after ∧ reached.SameButClock after ∧
      after.settings = m.settings ∧ after.screen.renderFailure = none := by
  have awake : m.mode ≠ .halted := by
    rw [running]
    nofun
  have batched : m.batch m.batchSize = .done () reached := by
    have same := guarded_batch m.batchSize awake
    rw [done] at same
    cases outcome : m.batch m.batchSize with
    | done value after =>
      rw [outcome] at same
      exact same
    | failed fault left =>
      rw [outcome] at same
      cases same
  have stepped := stepped_steps m.batchSize m
  rw [done] at stepped
  have still : reached.screen.renderFailure = none :=
    (HeadlessScreen.renderFailure_painted stepped.screen).trans shows
  have shown : Screen.render reached.screen =
      ⟨.ok (), { reached.screen with renders := reached.screen.renders + 1 }, []⟩ := by
    simp only [Screen.render, still]
  have closed := closed_endCycle reached
  have cycled : m.cycle = guarded reached.endCycle := by
    simp only [cycle, pollKey, running, finish, Outcome.andThen_done, batched]
  rw [← cycled] at closed
  obtain ⟨result, core, _, _, mode, screen, keypad, settings, _, _⟩ := closed
  rw [shown] at result mode screen
  cases outcome : m.cycle with
  | failed fault left =>
    rw [outcome] at result
    cases result
  | done value after =>
    rw [outcome] at core mode screen keypad settings
    have mode : after.mode = reached.mode := mode
    have core : after.toCore = { reached.toCore with
      delay := after.delay, sound := after.sound, mode := after.mode } := core
    have screen : after.screen = { reached.screen with renders := reached.screen.renders + 1 } :=
      screen
    have settings : after.settings = reached.settings := settings
    refine ⟨after, rfl, ⟨?_, ?_, keypad, ?_⟩, settings.trans stepped.settings, ?_⟩
    · rw [core, mode]
    · rw [screen]
    · rw [settings]
    · rw [screen, still]

/-- The cycles of a machine come, up to the clock, to the steps of one that differs in the clock
alone. -/
private theorem cycles_of_steps {count : Nat} {last : Machine (HeadlessScreen grid) κ τ}
    (same : m.SameButClock m') (running : m.mode = .running)
    (shows : m.screen.renderFailure = none) (clockless : m'.isClockless (count * m.batchSize))
    (done : steps (count * m.batchSize) m' = .done () last) :
    ∃ reached, cycles count m = .done () reached ∧ last.SameButClock reached := by
  induction count generalizing m m' with
  | zero =>
    rw [Nat.zero_mul] at done
    cases done
    exact ⟨m, rfl, same.symm⟩
  | succ count ih =>
    rw [Nat.succ_mul, Nat.add_comm] at done clockless
    obtain ⟨middle', first', rest'⟩ := steps_add done
    obtain ⟨first, later⟩ := isClockless_add clockless first'
    have alike := untimed_iff.mpr same
    have batch := steps_untimed alike first
    rw [first'] at batch
    cases stepped : steps m.batchSize m with
    | failed fault left =>
      rw [stepped] at batch
      cases batch
    | done value middle =>
      rw [stepped] at batch
      cases batch with
      | done _ middles =>
        obtain ⟨next, cycled, closed, settings, still⟩ := cycle_of_steps running shows stepped
        have together : next.SameButClock middle' := closed.symm.trans (untimed_iff.mp middles)
        have runs : next.mode = .running := by
          rw [(untimed_iff.mpr together).mode]
          exact running_of_steps (alike.mode.symm.trans running) first first'
        have size : next.batchSize = m.batchSize := by rw [batchSize, settings, batchSize]
        rw [← size] at later rest'
        obtain ⟨reached, cycles, lasts⟩ := ih together runs still later rest'
        refine ⟨reached, ?_, lasts⟩
        simp only [Machine.cycles, cycled, Outcome.andThen_done, cycles]

private theorem cycles_atSpeed {count speed : Nat} {last : Machine (HeadlessScreen grid) κ τ}
    (running : m.mode = .running) (shows : m.screen.renderFailure = none) (positive : 1 ≤ speed)
    (clockless : m.isClockless (count * speed)) (done : steps (count * speed) m = .done () last) :
    ∃ reached, cycles count (m.atSpeed speed) = .done () reached ∧ last.SameButClock reached := by
  have size : (m.atSpeed speed).batchSize = speed := Nat.max_eq_left positive
  rw [← size] at clockless done
  have same : (m.atSpeed speed).SameButClock m := ⟨rfl, rfl, rfl, rfl⟩
  exact cycles_of_steps same running shows clockless done

/-- A program that neither reads the delay timer nor waits for a key comes to the same at every
speed, and in single steps. What differs is the timers, the tone and the number of times that the
screen was shown. -/
theorem speed_makes_no_difference {last : Machine (HeadlessScreen grid) κ τ}
    {count speed₁ speed₂ cycles₁ cycles₂ : Nat} (running : m.mode = .running)
    (shows : m.screen.renderFailure = none) (positive₁ : 1 ≤ speed₁) (positive₂ : 1 ≤ speed₂)
    (whole₁ : cycles₁ * speed₁ = count) (whole₂ : cycles₂ * speed₂ = count)
    (clockless : m.isClockless count) (done : steps count m = .done () last) :
    ∃ last₁ last₂, cycles cycles₁ (m.atSpeed speed₁) = .done () last₁ ∧
      cycles cycles₂ (m.atSpeed speed₂) = .done () last₂ ∧
      last.SameButClock last₁ ∧ last.SameButClock last₂ ∧ last₁.SameButClock last₂ := by
  have first : ∃ last₁, cycles cycles₁ (m.atSpeed speed₁) = .done () last₁ ∧
      last.SameButClock last₁ := by
    rw [← whole₁] at clockless done
    exact cycles_atSpeed running shows positive₁ clockless done
  have second : ∃ last₂, cycles cycles₂ (m.atSpeed speed₂) = .done () last₂ ∧
      last.SameButClock last₂ := by
    rw [← whole₂] at clockless done
    exact cycles_atSpeed running shows positive₂ clockless done
  obtain ⟨last₁, done₁, same₁⟩ := first
  obtain ⟨last₂, done₂, same₂⟩ := second
  exact ⟨last₁, last₂, done₁, done₂, same₁, same₂, same₁.symm.trans same₂⟩

/-- A machine about to set both timers to three, to draw a random byte and a zero, and to count. -/
def metronome : Machine (HeadlessScreen Grid.standard) ScriptedKeypad MuteSpeaker :=
  (create {} (HeadlessScreen.blank Grid.standard) {} {}).performAll
    [.load [0x60, 0x03, 0xf0, 0x15, 0xf0, 0x18, 0xc1, 0xff, 0xd0, 0x05, 0x70, 0x01]]

/-- Two cycles of three instructions and three of two leave the timers at different values. -/
theorem metronome_keeps_pace :
    metronome.mode = .running ∧ metronome.screen.renderFailure = none ∧
      metronome.isClockless 6 = true ∧ ∃ last last₁ last₂, steps 6 metronome = .done () last ∧
        cycles 2 (metronome.atSpeed 3) = .done () last₁ ∧
        cycles 3 (metronome.atSpeed 2) = .done () last₂ ∧ last.SameButClock last₁ ∧
        last.SameButClock last₂ ∧ last₁.SameButClock last₂ ∧
        last.delay = 3 ∧ last₁.delay = 1 ∧ last₂.delay = 0 := by
  have start : metronome.mode = .running ∧ metronome.isClockless 6 = true ∧
      (steps 6 metronome).fault? = none := by decide +kernel
  obtain ⟨running, clockless, fine⟩ := start
  have done := Outcome.eq_done_of_fault? fine
  have positive : 1 ≤ 3 ∧ 1 ≤ 2 := by decide
  have whole : 2 * 3 = 6 ∧ 3 * 2 = 6 := by decide
  obtain ⟨last₁, last₂, done₁, done₂, same₁, same₂, same⟩ :=
    speed_makes_no_difference running rfl positive.1 positive.2 whole.1 whole.2 clockless done
  have timers : (steps 6 metronome).state.delay = 3 ∧
      (cycles 2 (metronome.atSpeed 3)).state.delay = 1 ∧
      (cycles 3 (metronome.atSpeed 2)).state.delay = 0 := by decide +kernel
  rw [done₁, done₂] at timers
  exact ⟨running, rfl, clockless, _, last₁, last₂, done, done₁, done₂, same₁, same₂, same, timers⟩

end Machine

end Chip8
