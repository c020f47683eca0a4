import Chip8.Device.Headless
import Chip8.Proofs.Machine.Cycle
import Chip8.Proofs.Machine.History
import Chip8.Proofs.Outcome

/-! A machine halts when running it meets a fault, for no other reason and for good. From then on it
does nothing but refuse to run, and a main loop asks the keypad once whether to leave before it
comes to that. -/
namespace Chip8

variable {δ κ τ : Type}

def Action.runs : Action δ κ τ → Bool
  | .step | .cycle | .run _ => true
  | _ => false

namespace Machine

/-- What running leaves of a machine that has not halted: it halts exactly at a fault, and the fault
is not that it had halted before. -/
def Halts {α : Type} (outcome : Outcome (Machine δ κ τ) α) : Prop :=
  outcome.Leaves (·.mode ≠ .halted) fun fault stopped => fault ≠ .halted ∧ stopped.mode = .halted

/-- What a part of a run leaves before a fault has halted the machine. -/
def Proceeds {α : Type} (outcome : Outcome (Machine δ κ τ) α) : Prop :=
  outcome.Leaves (·.mode ≠ .halted) fun fault left => fault ≠ .halted ∧ left.mode ≠ .halted

private theorem halts_guarded {α : Type} {outcome : Outcome (Machine δ κ τ) α}
    (proceeds : Proceeds outcome) : Halts (guarded outcome) := by
  cases outcome with
  | done value after => exact proceeds
  | failed fault left =>
    refine ⟨proceeds.1, ?_⟩
    have core := congrArg Core.mode (left.toCore_halt fault)
    exact core

section Parts

variable [Screen δ] [Keypad κ]

omit [Screen δ] [Keypad κ] in
private theorem fetch_ne_halted {m : Machine δ κ τ} {fault : Fault}
    (refused : m.fetch = .error fault) : fault ≠ .halted := by
  unfold fetch at refused
  split at refused
  · rename_i unread
    cases refused
    obtain ⟨_, same⟩ := (m.memory.readWord_eq_error_iff m.pc _).mp unread
    rw [same]
    nofun
  · rename_i word _
    unfold Instruction.decode at refused
    cases decoded : Instruction.ofWord? word with
    | some instruction =>
      rw [decoded] at refused
      cases refused
    | none =>
      rw [decoded] at refused
      cases refused
      nofun

private theorem proceeds_fetchAndExecute {m : Machine δ κ τ} (running : m.mode = .running) :
    Proceeds m.fetchAndExecute := by
  cases outcome : m.fetchAndExecute with
  | done value after => exact awake_of_fetched running outcome
  | failed fault left =>
    have awake : m.mode ≠ .halted := by
      rw [running]
      nofun
    rw [fetchAndExecute_eq] at outcome
    split at outcome
    · rename_i refused
      cases outcome
      exact ⟨fetch_ne_halted refused, awake⟩
    · cases fails_of_execute outcome <;> exact ⟨nofun, awake⟩

private theorem proceeds_batch (count : Nat) {m : Machine δ κ τ} (awake : m.mode ≠ .halted) :
    Proceeds (m.batch count) := by
  induction count generalizing m with
  | zero => exact awake
  | succ count ih =>
    unfold batch
    split
    · rename_i running
      exact (proceeds_fetchAndExecute running).andThen fun _ _ => ih
    · exact awake

omit [Screen δ] [Keypad κ] in
private theorem awake_pressKey {m : Machine δ κ τ} (awake : m.mode ≠ .halted) (key : UInt8) :
    (m.pressKey key).2.mode ≠ .halted := by
  unfold pressKey
  split
  · exact awake
  · split
    · nofun
    · exact awake

omit [Screen δ] in
private theorem proceeds_pollKey {m : Machine δ κ τ} (awake : m.mode ≠ .halted) :
    Proceeds m.pollKey := by
  unfold pollKey
  split
  · rename_i halted
    exact absurd halted awake
  · exact awake
  · dsimp only
    split
    · exact ⟨Fault.noConfusion, awake⟩
    · exact awake
    · exact awake_pressKey (m := m.afterKeypad _) awake _

omit [Keypad κ] in
private theorem proceeds_endCycle [Speaker τ] {m : Machine δ κ τ} (awake : m.mode ≠ .halted) :
    Proceeds m.endCycle := by
  have spoken : m.tickWhenRunning.driveSpeaker.mode ≠ .halted := by
    have core := congrArg Core.mode (toCore_driveSpeaker m.tickWhenRunning)
    rw [core]
    unfold tickWhenRunning
    split <;> exact awake
  unfold endCycle render
  dsimp only
  split
  · exact spoken
  · exact ⟨nofun, spoken⟩

end Parts

section Run

variable [Screen δ] [Keypad κ]

theorem halts_step {m : Machine δ κ τ} (awake : m.mode ≠ .halted) : Halts m.step := by
  unfold step
  split
  · rename_i halted
    exact absurd halted awake
  · exact awake
  · rename_i running
    exact halts_guarded (proceeds_fetchAndExecute running)

variable [Speaker τ]

/-- A cycle up to the fault that cuts it short, if one does. -/
def attempt (m : Machine δ κ τ) : Outcome (Machine δ κ τ) Unit :=
  (m.pollKey.andThen fun _ m => m.batch m.batchSize).andThen fun _ m => m.endCycle

theorem cycle_eq_guarded (m : Machine δ κ τ) : m.cycle = guarded m.attempt := rfl

theorem proceeds_attempt {m : Machine δ κ τ} (awake : m.mode ≠ .halted) : Proceeds m.attempt := by
  have batched : Proceeds (m.pollKey.andThen fun _ m => m.batch m.batchSize) :=
    (proceeds_pollKey awake).andThen fun _ polled awake => proceeds_batch _ awake
  exact batched.andThen fun _ _ => proceeds_endCycle

theorem halts_cycle {m : Machine δ κ τ} (awake : m.mode ≠ .halted) : Halts m.cycle :=
  halts_guarded (proceeds_attempt awake)

theorem halts_runFrom (limit count : Nat) {m : Machine δ κ τ} (awake : m.mode ≠ .halted) :
    Halts (runFrom limit count m) := by
  induction limit generalizing count m with
  | zero => exact awake
  | succ limit ih =>
    simp only [runFrom]
    split
    · exact awake
    · have asked : (m.afterKeypad (Keypad.wantsExit m.keypad)).mode ≠ .halted := awake
      exact (halts_cycle asked).andThen fun _ _ => ih _

/-- What a halted machine answers, and what it leaves as it is. -/
structure AtRest (m : Machine δ κ τ) : Prop where
  step : m.step = .failed .halted m
  cycle : m.cycle = .failed .halted m
  run (frames : Option UInt64) : (m.run frames).result =
    if cycleLimit frames = 0 ∨ (Keypad.wantsExit m.keypad).answer then .ok 0 else .error .halted
  runState (frames : Option UInt64) : ∃ journal, (m.run frames).state = { m with
    keypad := if cycleLimit frames = 0 then m.keypad else (Keypad.wantsExit m.keypad).device
    journal := journal }
  pressKey (key : UInt8) : ∃ journal, m.pressKey key = (false, { m with journal })

omit [Speaker τ] in
private theorem step_of_halted {m : Machine δ κ τ} (halted : m.mode = .halted) :
    m.step = .failed .halted m := by
  simp only [Machine.step, halted]

private theorem cycle_of_halted {m : Machine δ κ τ} (halted : m.mode = .halted) :
    m.cycle = .failed .halted m := by
  have stays : m.halt .halted = m := by simp only [halt, halted]
  simp only [Machine.cycle, pollKey, halted, Outcome.andThen_failed, guarded, stays]

private theorem runFrom_of_halted (limit : Nat) {m : Machine δ κ τ} (halted : m.mode = .halted) :
    (runFrom limit 0 m).result =
        (if limit = 0 ∨ (Keypad.wantsExit m.keypad).answer then .ok 0 else .error .halted) ∧
      ∃ journal, (runFrom limit 0 m).state = { m with
        keypad := if limit = 0 then m.keypad else (Keypad.wantsExit m.keypad).device
        journal := journal } := by
  cases limit with
  | zero => exact ⟨rfl, m.journal, rfl⟩
  | succ limit =>
    have asked : (m.afterKeypad (Keypad.wantsExit m.keypad)).mode = .halted := halted
    cases answer : (Keypad.wantsExit m.keypad).answer with
    | true =>
      simp only [runFrom, answer]
      exact ⟨rfl, _, rfl⟩
    | false =>
      simp only [runFrom, answer, cycle_of_halted asked]
      exact ⟨rfl, _, rfl⟩

theorem atRest_of_halted {m : Machine δ κ τ} (halted : m.mode = .halted) : AtRest m where
  step := step_of_halted halted
  cycle := cycle_of_halted halted
  run frames := (runFrom_of_halted (m := m.note _) _ halted).1
  runState frames := (runFrom_of_halted (m := m.note _) _ halted).2
  pressKey key := by
    unfold Machine.pressKey
    split
    · exact ⟨_, rfl⟩
    · simp only [halted]
      exact ⟨m.journal, rfl⟩

/-- The fault that an action meets in running the machine. -/
def runFault? (m : Machine δ κ τ) (action : Action δ κ τ) : Option Fault :=
  if action.runs then (m.perform action).fault? else none

/-- The faults that a history meets in running the machine. -/
def runFaults (m : Machine δ κ τ) : List (Action δ κ τ) → List Fault
  | [] => []
  | action :: rest => (m.runFault? action).toList ++ (m.perform action).state.runFaults rest

omit [Speaker τ] in
private theorem halted_kept : Kept δ κ τ (fun c => c.mode = .halted) where
  load _ _ halted := halted
  fetch m running halted := by
    rw [running] at halted
    cases halted
  halt _ _ := rfl
  key c x _ waiting _ halted := by
    rw [waiting] at halted
    cases halted
  tick _ halted := halted

/-- In a halted machine nothing but its having halted is met. -/
private theorem runFault?_of_halted {m : Machine δ κ τ} (halted : m.mode = .halted)
    (action : Action δ κ τ) :
    m.runFault? action = none ∨ m.runFault? action = some .halted := by
  have rest := atRest_of_halted halted
  cases action with
  | step =>
    simp only [runFault?, Action.runs, perform, rest.step]
    exact .inr rfl
  | cycle =>
    simp only [runFault?, Action.runs, perform, rest.cycle]
    exact .inr rfl
  | run frames =>
    have result := rest.run frames
    simp only [runFault?, Action.runs, perform]
    cases outcome : m.run frames with
    | done count after => exact .inl rfl
    | failed fault after =>
      rw [outcome] at result
      split at result
      · cases result
      · cases result
        exact .inr rfl
  | _ => exact .inl rfl

private theorem runFaults_of_halted (actions : List (Action δ κ τ)) {m : Machine δ κ τ}
    (halted : m.mode = .halted) :
    (m.performAll actions).mode = .halted ∧
      ∃ count, m.runFaults actions = List.replicate count .halted := by
  induction actions generalizing m with
  | nil => exact ⟨halted, 0, rfl⟩
  | cons action rest ih =>
    have stays : (m.perform action).state.mode = .halted := halted_kept.perform m action halted
    obtain ⟨still, count, refusals⟩ := ih stays
    refine ⟨still, ?_⟩
    rcases runFault?_of_halted halted action with none | refused
    · refine ⟨count, ?_⟩
      simp only [runFaults, none, refusals]
      rfl
    · refine ⟨count + 1, ?_⟩
      simp only [runFaults, refused, refusals]
      rfl

omit [Screen δ] [Keypad κ] [Speaker τ] in
private theorem halts_map {α : Type} {outcome : Outcome (Machine δ κ τ) α} (halts : Halts outcome)
    (answer : α → Answer) : Halts (outcome.map answer) := by
  cases outcome <;> exact halts

omit [Screen δ] [Keypad κ] [Speaker τ] in
private theorem awake_load {m : Machine δ κ τ} (awake : m.mode ≠ .halted) (program : List UInt8) :
    (m.load program).state.mode ≠ .halted := by
  unfold load
  cases m.memory.load program <;> exact awake

/-- Only running halts a machine, and it does so at a fault. -/
private theorem runFault?_of_awake {m : Machine δ κ τ} (awake : m.mode ≠ .halted)
    (action : Action δ κ τ) :
    (m.runFault? action = none ∧ (m.perform action).state.mode ≠ .halted) ∨
      ∃ fault, fault ≠ .halted ∧ m.runFault? action = some fault ∧
        (m.perform action).state.mode = .halted := by
  have running : ∀ outcome : Outcome (Machine δ κ τ) Answer, Halts outcome →
      (outcome.fault? = none ∧ outcome.state.mode ≠ .halted) ∨
        ∃ fault, fault ≠ .halted ∧ outcome.fault? = some fault ∧ outcome.state.mode = .halted := by
    intro outcome halts
    cases outcome with
    | done answer after => exact .inl ⟨rfl, halts⟩
    | failed fault after => exact .inr ⟨fault, halts.1, rfl, halts.2⟩
  cases action with
  | step => exact running _ (halts_map (halts_step awake) _)
  | cycle => exact running _ (halts_map (halts_cycle awake) _)
  | run frames =>
    have noted : (m.note (.running m.settings.rate m.batchSize)).mode ≠ .halted := awake
    exact running _ (halts_map (halts_runFrom _ 0 noted) _)
  | load program =>
    refine .inl ⟨rfl, ?_⟩
    rw [perform, Outcome.state_map]
    exact awake_load awake program
  | loadFrom source =>
    refine .inl ⟨rfl, ?_⟩
    rw [perform, Outcome.state_map, loadFrom]
    cases source.readAll with
    | error error => exact awake
    | ok program => exact awake_load awake program
  | pressKey key => exact .inl ⟨rfl, awake_pressKey awake key⟩
  | tick | screen change | keypad change | speaker change => exact .inl ⟨rfl, awake⟩

/-- The first fault of a run halts the machine, and all later ones say that it has halted. -/
private theorem runFaults_of_awake (actions : List (Action δ κ τ)) {m : Machine δ κ τ}
    (awake : m.mode ≠ .halted) :
    ((m.performAll actions).mode ≠ .halted ∧ m.runFaults actions = []) ∨
      ((m.performAll actions).mode = .halted ∧ ∃ fault count, fault ≠ .halted ∧
        m.runFaults actions = fault :: List.replicate count .halted) := by
  induction actions generalizing m with
  | nil => exact .inl ⟨awake, rfl⟩
  | cons action rest ih =>
    -- From the action that halts the machine on, the induction for halted machines takes over.
    rcases runFault?_of_awake awake action with ⟨none, still⟩ | ⟨fault, first, met, halted⟩
    · simp only [runFaults, none]
      exact ih still
    · obtain ⟨stays, count, refusals⟩ := runFaults_of_halted rest halted
      refine .inr ⟨stays, fault, count, first, ?_⟩
      simp only [runFaults, met, refusals]
      rfl

/-- Whether a machine was just switched on, with any start of its random bytes. -/
def IsNew (m : Machine δ κ τ) : Prop :=
  ∃ settings screen keypad speaker journal random,
    m = { create settings screen keypad speaker journal with random }

/-- After any history a new machine has halted exactly if running it met a fault. At most one such
fault is not that it had halted before, namely the first. Once it has halted it refuses to run and
leaves everything as it is; a scripted keypad keeps its keys and presses even when a main loop asks
it whether to leave. -/
theorem halted_iff_run_faulted {m : Machine δ κ τ} (new : m.IsNew)
    (actions : List (Action δ κ τ)) :
    ((m.performAll actions).mode = .halted ↔ m.runFaults actions ≠ []) ∧
      (m.runFaults actions).countP (· ≠ .halted) ≤ 1 ∧
      (∀ fault ∈ (m.runFaults actions).head?, fault ≠ .halted) ∧
      ((m.performAll actions).mode = .halted → AtRest (m.performAll actions)) ∧
      ∀ scripted : ScriptedKeypad, (Keypad.wantsExit scripted).device.queue = scripted.queue ∧
        (Keypad.wantsExit scripted).device.held = scripted.held := by
  have awake : m.mode ≠ .halted := by
    obtain ⟨settings, screen, keypad, speaker, journal, random, same⟩ := new
    rw [same]
    nofun
  have asked : ∀ scripted : ScriptedKeypad,
      (Keypad.wantsExit scripted).device.queue = scripted.queue ∧
        (Keypad.wantsExit scripted).device.held = scripted.held := by
    intro scripted
    simp only [Keypad.wantsExit]
    split <;> exact ⟨rfl, rfl⟩
  rcases runFaults_of_awake actions awake with ⟨still, none⟩ | ⟨halted, fault, count, first, met⟩
  · rw [none]
    exact ⟨⟨fun halted => absurd halted still, fun some => absurd rfl some⟩, Nat.zero_le 1, nofun,
      atRest_of_halted, asked⟩
  · rw [met]
    refine ⟨⟨fun _ => nofun, fun _ => halted⟩, ?_, ?_, atRest_of_halted, asked⟩
    · simp [first]
    · intro other same
      cases same
      exact first

end Run

def bare : Machine (HeadlessScreen Grid.standard) ScriptedKeypad MuteSpeaker :=
  create {} (HeadlessScreen.blank Grid.standard) {} {}

theorem isNew_create (settings : Settings) (screen : δ) (keypad : κ) (speaker : τ)
    (journal : Journal) : (create settings screen keypad speaker journal).IsNew :=
  ⟨settings, screen, keypad, speaker, journal, _, rfl⟩

/-- A return with an empty stack, then a cycle and a main loop that are refused. -/
def refusals : List (Action (HeadlessScreen Grid.standard) ScriptedKeypad MuteSpeaker) :=
  [.load [0x00, 0xee], .step, .cycle, .run (some 3), .pressKey 5]

theorem bare_halts :
    bare.IsNew ∧ bare.runFaults refusals = [.stackUnderflow, .halted, .halted] ∧
      (bare.performAll refusals).mode = .halted ∧ AtRest (bare.performAll refusals) := by
  have new : bare.IsNew := isNew_create ..
  have faults : bare.runFaults refusals = [.stackUnderflow, .halted, .halted] := by decide +kernel
  obtain ⟨halted_iff, _, _, rests, _⟩ := halted_iff_run_faulted new refusals
  have halted : (bare.performAll refusals).mode = .halted := by
    rw [halted_iff, faults]
    nofun
  exact ⟨new, faults, halted, rests halted⟩

end Machine

end Chip8
