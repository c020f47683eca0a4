import Chip8.Proofs.Device.Scripted
import Chip8.Proofs.Machine.Faults
import Chip8.Proofs.Machine.Life
import Chip8.Proofs.Machine.Trace

/-! The timers count cycles. A cycle ticks if it comes through its instructions and is then still
running, whether or not its screen can be shown. Nothing else moves a timer but the instruction that
sets it and the tick that a host asks for. -/
namespace Chip8

open Instruction

/-- One of the two timers. -/
inductive Timer where
  | delay
  | sound
  deriving DecidableEq, Repr

namespace Timer

/-- The low byte of the word that sets a timer. -/
def code : Timer → Nat
  | delay => 0x15
  | sound => 0x18

def setting : Timer → Register → Instruction
  | delay => .setDelay
  | sound => .setSound

end Timer

def Core.timer (c : Core) : Timer → UInt8
  | .delay => c.delay
  | .sound => c.sound

def Action.isTick {δ κ τ : Type} : Action δ κ τ → Bool
  | .tick => true
  | _ => false

namespace Machine

variable {δ κ τ : Type}

/-- Whether the word at `pc` sets a timer. -/
def Sets (timer : Timer) (m : Machine δ κ τ) : Prop :=
  m.pc.toNat + 2 ≤ 4096 ∧ m.memory.wordValue m.pc.toNat / 4096 = 0xf ∧
    m.memory.wordValue m.pc.toNat % 256 = timer.code

instance (timer : Timer) (m : Machine δ κ τ) : Decidable (m.Sets timer) :=
  inferInstanceAs (Decidable (_ ∧ _))

variable {timer : Timer}

section Execution

private theorem timer_skipWhen (m : Machine δ κ τ) (condition : Bool) :
    (m.skipWhen condition).timer timer = m.timer timer := by
  cases condition <;> cases timer <;> rfl

private theorem timer_stored (m : Machine δ κ τ) (written : Except Fault Memory) :
    (m.stored written).state.timer timer = m.timer timer := by
  cases written <;> cases timer <;> rfl

private theorem timer_halt (m : Machine δ κ τ) (fault : Fault) :
    (m.halt fault).timer timer = m.timer timer := by
  rw [toCore_halt]
  cases timer <;> rfl

private theorem timer_pressKey (m : Machine δ κ τ) (key : UInt8) :
    (m.pressKey key).2.timer timer = m.timer timer := by
  unfold pressKey
  split
  · cases timer <;> rfl
  · split <;> cases timer <;> rfl

variable [Keypad κ]

private theorem timer_skipOnKey (m : Machine δ κ τ) (x : Register) (down : Bool) :
    (m.skipOnKey x down).state.timer timer = m.timer timer := by
  simp only [skipOnKey]
  split
  · exact timer_skipWhen m _
  · have asked : (m.afterKeypad (Keypad.isPressed m.keypad (keyOfByte (m.v.get x)))).timer timer =
        m.timer timer := by cases timer <;> rfl
    split
    · exact asked
    · exact (timer_skipWhen _ _).trans asked

private theorem timer_waitKey (m : Machine δ κ τ) (x : Register) :
    (m.waitKey x).state.timer timer = m.timer timer := by
  simp only [waitKey]
  split <;> cases timer <;> rfl

private theorem timer_pollKey (m : Machine δ κ τ) :
    m.pollKey.state.timer timer = m.timer timer := by
  unfold pollKey
  split
  · rfl
  · rfl
  · have asked : (m.afterKeypad (Keypad.takePress m.keypad)).timer timer = m.timer timer := by
      cases timer <;> rfl
    dsimp only
    split
    · exact asked
    · exact asked
    · exact (timer_pressKey _ _).trans asked

variable [Screen δ]

omit [Keypad κ] in
private theorem timer_draw (m : Machine δ κ τ) (x y : Register) (n : Nat) :
    (m.draw x y n).state.timer timer = m.timer timer := by
  unfold draw
  split <;> cases timer <;> rfl

/-- Only the instruction that sets a timer moves it. -/
private theorem timer_execute (m : Machine δ κ τ) {instruction : Instruction}
    (other : ∀ x, instruction ≠ timer.setting x) :
    (m.execute instruction).state.timer timer = m.timer timer := by
  cases instruction with
  | ret => simp only [execute, ret]; split <;> cases timer <;> rfl
  | call nnn => simp only [execute, call]; split <;> cases timer <;> rfl
  | skipEqImm x kk | skipNeImm x kk | skipEqReg x y | skipNeReg x y => exact timer_skipWhen m _
  | skipKeyPressed x | skipKeyNotPressed x => exact timer_skipOnKey m x _
  | draw x y n => exact timer_draw m x y n.val
  | waitKey x => exact timer_waitKey m x
  | storeBcd x | storeRegs x => exact timer_stored m _
  | loadRegs x => simp only [execute]; split <;> cases timer <;> rfl
  | setDelay x =>
    cases timer with
    | delay => exact absurd rfl (other x)
    | sound => rfl
  | setSound x =>
    cases timer with
    | delay => rfl
    | sound => exact absurd rfl (other x)
  | _ => cases timer <;> rfl

omit [Keypad κ] [Screen δ] in
private theorem sets_of_fetch {m : Machine δ κ τ} {word : UInt16} {x : Register}
    (found : m.fetch = .ok (word, timer.setting x)) : m.Sets timer := by
  obtain ⟨⟨inside, same⟩, decoded⟩ := (m.fetch_ok_iff ..).mp found
  have digits := congrArg UInt16.toNat (encode_of_ofWord? decoded)
  have digit := x.isLt
  cases timer with
  | delay =>
    simp only [Timer.setting, encode, wordOfByte, UInt16.toNat_ofNat'] at digits
    exact ⟨inside, by omega, show _ = 0x15 by omega⟩
  | sound =>
    simp only [Timer.setting, encode, wordOfByte, UInt16.toNat_ofNat'] at digits
    exact ⟨inside, by omega, show _ = 0x18 by omega⟩

private theorem timer_fetch {m : Machine δ κ τ} (spared : ¬ m.Sets timer) :
    m.fetchAndExecute.state.timer timer = m.timer timer := by
  rw [fetchAndExecute_eq]
  split
  · rfl
  · rename_i word instruction found
    have passed : (m.past word instruction).timer timer = m.timer timer := by cases timer <;> rfl
    refine (timer_execute _ ?_).trans passed
    rintro x rfl
    exact spared (sets_of_fetch found)

private theorem timer_step {m : Machine δ κ τ}
    (spared : ∀ visit ∈ m.traceStep.visits, ¬ visit.Sets timer) :
    m.step.state.timer timer = m.timer timer := by
  unfold traceStep at spared
  unfold step
  split
  · rfl
  · rfl
  · rename_i running
    simp only [running, traceGuarded, traceFetch] at spared
    have fetched := timer_fetch (spared m List.mem_cons_self)
    cases outcome : m.fetchAndExecute with
    | done value after =>
      rw [outcome] at fetched
      exact fetched
    | failed fault after =>
      rw [outcome] at fetched
      exact (timer_halt after fault).trans fetched

/-- A batch moves a timer only in one of its instructions. -/
private theorem timer_batch (count : Nat) {m : Machine δ κ τ}
    (spared : ∀ visit ∈ (m.traceBatch count).visits, ¬ visit.Sets timer) :
    (m.batch count).state.timer timer = m.timer timer := by
  induction count generalizing m with
  | zero => rfl
  | succ count ih =>
    unfold traceBatch at spared
    unfold batch
    split
    · rename_i running
      simp only [running, Traced.andThen, traceFetch, List.singleton_append] at spared
      have fetched := timer_fetch (spared m List.mem_cons_self)
      cases outcome : m.fetchAndExecute with
      | done value after =>
        rw [outcome] at fetched spared
        have rest := ih fun visit visited => spared visit (List.mem_cons_of_mem _ visited)
        exact rest.trans fetched
      | failed fault after =>
        rw [outcome] at fetched
        exact fetched
    · rfl

end Execution

variable [Screen δ] [Keypad κ]

def opening (m : Machine δ κ τ) : Outcome (Machine δ κ τ) Unit :=
  m.pollKey.andThen fun _ m => m.batch m.batchSize

/-- Whether a cycle that `m` begins ticks. It comes through its instructions without a fault, and
the machine is running after the last of them. -/
def ticks (m : Machine δ κ τ) : Bool :=
  match m.opening with
  | .done _ reached => decide (reached.mode = .running)
  | .failed _ _ => false

/-- The machines whose cycle reaches its tick, told by single steps. -/
inductive ReachesTick : Machine δ κ τ → Prop where
  -- It takes all the steps of a cycle, and none of them has made it wait for a key.
  | ran {m reached : Machine δ κ τ} (running : m.mode = .running)
      (ran : steps m.batchSize m = .done () reached) (still : reached.mode = .running) :
      ReachesTick m
  -- It waits for a key, and goes on with the one that its keypad gives it.
  | resumed {m : Machine δ κ τ} {x : Register} {key : UInt8} (waiting : m.mode = .awaiting x)
      (taken : (Keypad.takePress m.keypad).answer = .ok (some key))
      (heard : ((m.afterKeypad (Keypad.takePress m.keypad)).pressKey key).1 = true)
      (rest : ReachesTick ((m.afterKeypad (Keypad.takePress m.keypad)).pressKey key).2) :
      ReachesTick m

omit [Screen δ] [Keypad κ] in
private theorem mode_pressKey (m : Machine δ κ τ) (key : UInt8) :
    (m.pressKey key).2.mode = if (m.pressKey key).1 then .running else m.mode := by
  unfold pressKey
  split
  · rfl
  · split <;> rfl

/-- After the poll it is single steps alone that decide whether a cycle ticks. -/
private theorem ticks_of_polled {m next : Machine δ κ τ} (polled : m.pollKey = .done () next) :
    m.ticks = true ↔ next.mode = .running ∧
      ∃ reached, steps next.batchSize next = .done () reached ∧ reached.mode = .running := by
  simp only [ticks, opening, polled, Outcome.andThen_done]
  -- A machine that does not run executes nothing in its batch, and is then still not running.
  by_cases running : next.mode = .running
  · have awake : next.mode ≠ .halted := by
      rw [running]
      nofun
    rw [← guarded_batch next.batchSize awake]
    cases next.batch next.batchSize with
    | done value reached => simp [guarded, running]
    | failed fault stopped => simp [guarded]
  · rw [batch_of_idle _ running]
    simp [finish, running]

omit [Screen δ] in
private theorem pollKey_of_running {m : Machine δ κ τ} (running : m.mode = .running) :
    m.pollKey = .done () m := by
  simp only [pollKey, running, finish]

omit [Screen δ] in
private theorem pollKey_of_taken {m : Machine δ κ τ} {x : Register} {key : UInt8}
    (waiting : m.mode = .awaiting x)
    (taken : (Keypad.takePress m.keypad).answer = .ok (some key)) :
    m.pollKey = .done () ((m.afterKeypad (Keypad.takePress m.keypad)).pressKey key).2 := by
  simp only [pollKey, waiting, taken, finish]

private theorem ticks_of_told {m : Machine δ κ τ} (told : m.ReachesTick) : m.ticks = true := by
  induction told with
  | ran running ran still =>
    exact (ticks_of_polled (pollKey_of_running running)).mpr ⟨running, _, ran, still⟩
  | @resumed m x key waiting taken heard _ ih =>
    have running : ((m.afterKeypad (Keypad.takePress m.keypad)).pressKey key).2.mode =
        .running := by
      rw [mode_pressKey, if_pos heard]
    have ran := (ticks_of_polled (pollKey_of_running running)).mp ih
    exact (ticks_of_polled (pollKey_of_taken waiting taken)).mpr ran

private theorem told_of_ticks {m : Machine δ κ τ} (ticked : m.ticks = true) : m.ReachesTick := by
  cases mode : m.mode with
  | halted =>
    simp only [ticks, opening, pollKey, mode, Outcome.andThen_failed] at ticked
    cases ticked
  | running =>
    obtain ⟨_, reached, ran, still⟩ := (ticks_of_polled (pollKey_of_running mode)).mp ticked
    exact .ran mode ran still
  | awaiting x =>
    have asked : (m.afterKeypad (Keypad.takePress m.keypad)).mode = .awaiting x := mode
    cases answer : (Keypad.takePress m.keypad).answer with
    | error error =>
      simp only [ticks, opening, pollKey, mode, answer, Outcome.andThen_failed] at ticked
      cases ticked
    | ok press =>
      cases press with
      | none =>
        have polled : m.pollKey = .done () (m.afterKeypad (Keypad.takePress m.keypad)) := by
          simp only [pollKey, mode, answer, finish]
        obtain ⟨running, _⟩ := (ticks_of_polled polled).mp ticked
        cases asked.symm.trans running
      | some key =>
        obtain ⟨running, reached, ran, still⟩ :=
          (ticks_of_polled (pollKey_of_taken mode answer)).mp ticked
        have heard : ((m.afterKeypad (Keypad.takePress m.keypad)).pressKey key).1 = true := by
          have same := mode_pressKey (m.afterKeypad (Keypad.takePress m.keypad)) key
          rw [running] at same
          split at same
          · assumption
          · cases same.trans asked
        exact .resumed mode answer heard (.ran running ran still)

variable [Speaker τ]

/-- What decides whether a cycle ticks, and what it tells of the end of the cycle. -/
structure TickRule (m : Machine δ κ τ) : Prop where
  told : m.ticks = true ↔ m.ReachesTick
  -- A cycle that finishes has ticked exactly if it leaves the machine running.
  finished (fine : m.cycle.result.isOk) : m.ticks = true ↔ m.cycle.state.mode = .running
  -- A cycle that ticks can fail only to show its screen.
  shown (ticked : m.ticks = true) :
    ∃ screen : δ, m.cycle.result = (Screen.render screen).answer.mapError .device

/-- A cycle is closed where its instructions have led without a fault, and else it fails there. -/
private theorem cycle_cases (m : Machine δ κ τ) :
    (∃ reached, m.opening = .done () reached ∧ m.ticks = decide (reached.mode = .running) ∧
      Closed reached m.cycle) ∨
    ∃ fault stopped, m.opening = .failed fault stopped ∧ m.ticks = false ∧
      m.cycle = .failed fault (stopped.halt fault) := by
  have cycled : m.cycle = guarded (m.opening.andThen fun _ m => m.endCycle) := rfl
  rw [cycled, ticks]
  cases m.opening with
  | done value reached => exact .inl ⟨reached, rfl, rfl, closed_endCycle reached⟩
  | failed fault stopped => exact .inr ⟨fault, stopped, rfl, rfl, rfl⟩

private theorem tickRule (m : Machine δ κ τ) : m.TickRule where
  told := ⟨told_of_ticks, ticks_of_told⟩
  finished fine := by
    rcases cycle_cases m with ⟨reached, _, ticked, closed⟩ | ⟨fault, stopped, _, _, cycled⟩
    · have shown : (Screen.render reached.screen).answer.isOk := by
        rw [closed.result] at fine
        cases answer : (Screen.render reached.screen).answer with
        | ok value => rfl
        | error error =>
          rw [answer] at fine
          cases fine
      rw [closed.mode, if_pos shown, ticked, decide_eq_true_iff]
    · rw [cycled] at fine
      cases fine
  shown ticked := by
    rcases cycle_cases m with ⟨reached, _, _, closed⟩ | ⟨_, _, _, silent, _⟩
    · exact ⟨reached.screen, closed.result⟩
    · cases silent.symm.trans ticked

private theorem timer_opening {m : Machine δ κ τ}
    (spared : ∀ visit ∈ m.traceCycle.visits, ¬ visit.Sets timer) :
    m.opening.state.timer timer = m.timer timer := by
  have polling : m.pollKey.state.timer timer = m.timer timer := timer_pollKey m
  simp only [traceCycle, traceGuarded, Traced.andThen, Traced.quiet] at spared
  unfold opening
  cases polled : m.pollKey with
  | done value next =>
    rw [polled] at spared polling
    have batched := timer_batch next.batchSize fun visit visited =>
      spared visit (List.mem_append_left _ visited)
    exact batched.trans polling
  | failed fault stopped =>
    rw [polled] at polling
    exact polling

private theorem timer_cycle {m : Machine δ κ τ}
    (spared : ∀ visit ∈ m.traceCycle.visits, ¬ visit.Sets timer) :
    (m.cycle.state.timer timer).toNat = (m.timer timer).toNat - if m.ticks then 1 else 0 := by
  have before := timer_opening spared
  rcases cycle_cases m with
    ⟨reached, opened, ticked, closed⟩ | ⟨fault, stopped, opened, silent, cycled⟩
  · rw [opened] at before
    have closing : (m.cycle.state.timer timer).toNat =
        if reached.mode = .running then (reached.timer timer).toNat - 1
        else (reached.timer timer).toNat := by
      cases timer with
      | delay => exact closed.delay
      | sound => exact closed.sound
    have before : reached.timer timer = m.timer timer := before
    rw [closing, ticked, before]
    by_cases running : reached.mode = .running
    · simp [running]
    · simp [running]
  · rw [opened] at before
    rw [cycled, silent]
    exact congrArg UInt8.toNat ((timer_halt stopped fault).trans before)

/-- Main loops count as the cycles in them. -/
private theorem timer_runFrom (limit count : Nat) {m : Machine δ κ τ}
    (spared : ∀ visit ∈ (m.traceRunFrom limit count).visits, ¬ visit.Sets timer) :
    ((m.runFrom limit count).state.timer timer).toNat =
      (m.timer timer).toNat - (cyclesFrom limit m).countP ticks := by
  induction limit generalizing count m with
  | zero => rfl
  | succ limit ih =>
    have asked : (m.afterKeypad (Keypad.wantsExit m.keypad)).timer timer = m.timer timer := by
      cases timer <;> rfl
    -- Asking for the end moves no timer, so the round is taken from the machine that has asked.
    rw [← asked]
    simp only [traceRunFrom] at spared
    simp only [runFrom, cyclesFrom]
    generalize m.afterKeypad (Keypad.wantsExit m.keypad) = start at *
    split
    · cases timer <;> rfl
    · rename_i stays
      rw [if_neg stays] at spared
      have first := timer_cycle fun visit visited =>
        spared visit (List.mem_append_left _ visited)
      simp only [Traced.andThen, outcome_traceCycle] at spared
      rw [List.countP_cons]
      cases outcome : start.cycle with
      | done value next =>
        rw [outcome] at first spared
        have rest := ih (count + 1) fun visit visited =>
          spared visit (List.mem_append_right _ visited)
        have first : (next.timer timer).toNat = _ := first
        dsimp only [Outcome.andThen]
        rw [rest, first]
        omega
      | failed fault stopped =>
        rw [outcome] at first
        rw [List.countP_nil, Nat.zero_add]
        exact first

/-- An action counts as the cycles in it, or as a tick if it is one. -/
private theorem timer_perform {m : Machine δ κ τ} {action : Action δ κ τ}
    (spared : ∀ visit ∈ (m.tracePerform action).visits, ¬ visit.Sets timer) :
    ((m.perform action).state.timer timer).toNat = (m.timer timer).toNat -
      ((m.cyclesIn action).countP ticks + if action.isTick then 1 else 0) := by
  cases action with
  | load program =>
    rw [perform, Outcome.state_map, load]
    cases m.memory.load program <;> cases timer <;> rfl
  | loadFrom source =>
    rw [perform, Outcome.state_map, loadFrom]
    cases source.readAll with
    | ok program =>
      dsimp only
      rw [load]
      cases m.memory.load program <;> cases timer <;> rfl
    | error error => cases timer <;> rfl
  | step =>
    rw [perform, Outcome.state_map]
    exact congrArg UInt8.toNat (timer_step spared)
  | cycle =>
    rw [perform, Outcome.state_map, timer_cycle spared, cyclesIn, List.countP_singleton]
    rfl
  | run frames =>
    have noted : (m.note (.running m.settings.rate m.batchSize)).timer timer = m.timer timer := by
      cases timer <;> rfl
    rw [perform, Outcome.state_map, run, timer_runFrom _ _ spared, noted]
    rfl
  | tick =>
    cases timer with
    | delay => exact toNat_ticked m.delay
    | sound => exact toNat_ticked m.sound
  | pressKey key => exact congrArg UInt8.toNat (timer_pressKey m key)
  | screen change | keypad change | speaker change => cases timer <;> rfl

/-- Over every history in which no instruction sets it, a timer counts the cycles that tick and the
ticks that the host asks for, and stops at zero. -/
theorem timers_count_cycles {timer : Timer} {m : Machine δ κ τ} {actions : List (Action δ κ τ)}
    (spared : ∀ visit ∈ m.visits actions, ¬ visit.Sets timer) :
    ((m.performAll actions).timer timer).toNat = (m.timer timer).toNat -
        ((m.cyclesOver actions).countP ticks + actions.countP Action.isTick) ∧
      ∀ start : Machine δ κ τ, start.TickRule := by
  refine ⟨?_, tickRule⟩
  induction actions generalizing m with
  | nil => rfl
  | cons action rest ih =>
    have first := timer_perform fun visit visited => spared visit (List.mem_append_left _ visited)
    have later := ih fun visit visited => spared visit (List.mem_append_right _ visited)
    have performed : m.performAll (action :: rest) = (m.perform action).state.performAll rest := rfl
    rw [performed, later, first, cyclesOver, List.countP_append, List.countP_cons]
    omega

/-- A cycle that comes to wait for a key executes nothing after that. -/
private theorem traceCycle_of_waitKey {m : Machine δ ScriptedKeypad τ}
    {word : UInt16} {x : Register} (running : m.mode = .running)
    (reliable : m.keypad.nextPressFailure = none) (found : m.fetch = .ok (word, .waitKey x)) :
    m.opening = .done () ((m.past word (.waitKey x)).attentive x) ∧
      m.traceCycle = ⟨[m], guarded ((m.past word (.waitKey x)).attentive x).endCycle⟩ := by
  have polled : m.pollKey = .done () m := pollKey_of_running running
  have fetched := fetchAndExecute_waitKey reliable found
  have idle (count : Nat) : ((m.past word (.waitKey x)).attentive x).traceBatch count =
      .quiet (finish ((m.past word (.waitKey x)).attentive x)) := by
    cases count <;> rfl
  obtain ⟨count, size⟩ : ∃ count, m.batchSize = count + 1 :=
    Nat.exists_eq_add_one.mpr (Nat.le_max_right _ _)
  have batch : m.traceBatch (count + 1) =
      ⟨[m], .done () ((m.past word (.waitKey x)).attentive x)⟩ := by
    simp only [traceBatch, running, traceFetch, Traced.andThen, fetched, Outcome.andThen_done, idle,
      Traced.quiet, List.append_nil]
    rfl
  constructor
  · rw [opening, polled, Outcome.andThen_done, size, ← outcome_traceBatch, batch]
  · simp only [traceCycle, traceGuarded, Traced.andThen, Traced.quiet, polled,
      Outcome.andThen_done, size, batch, List.append_nil, List.nil_append]

/-- A machine about to wait for a key and then to go round in a circle, two instructions a cycle,
with its delay timer at ten. -/
def hourglass : Machine (HeadlessScreen Grid.standard) ScriptedKeypad MuteSpeaker :=
  { (create { speed := 2 } (HeadlessScreen.blank Grid.standard) {} {}).performAll
      [.load [0xf0, 0x0a, 0x12, 0x02]] with delay := 10 }

/-- Two cycles in which it comes to wait and waits, two after it has been given a key, and two after
its screen has failed, with a step and a tick among them. -/
def turns : List (Action (HeadlessScreen Grid.standard) ScriptedKeypad MuteSpeaker) :=
  [.cycle, .cycle, .keypad fun keypad => { keypad with queue := [Nibble.ofNat 7] }, .cycle, .cycle,
    .step, .tick, .screen fun screen => { screen with renderFailure := some (.reported "gone") },
    .cycle, .cycle]

/-- Three of its cycles tick, the one that fails to show the screen among them. -/
theorem hourglass_runs :
    (∀ visit ∈ hourglass.visits turns, ¬ visit.Sets .delay) ∧
      (hourglass.cyclesOver turns).map ticks = [false, false, true, true, true, false] ∧
      ((hourglass.performAll turns).timer .delay).toNat = 6 := by
  have found : hourglass.fetch = .ok (0xf00a, .waitKey 0) := by
    rw [fetch_eq_ok_iff, Memory.readWord_eq_ok_iff]
    exact ⟨by decide +kernel, rfl⟩
  obtain ⟨opening, trace⟩ := traceCycle_of_waitKey (by decide +kernel) (by decide +kernel) found
  have cycle : hourglass.cycle = _ := (outcome_traceCycle _).symm.trans (congrArg _ trace)
  have start : (∀ visit ∈ hourglass.visits turns, ¬ visit.Sets .delay) ∧
      (hourglass.cyclesOver turns).map ticks = [false, false, true, true, true, false] ∧
      (hourglass.cyclesOver turns).countP ticks = 3 ∧ turns.countP Action.isTick = 1 ∧
      (hourglass.timer .delay).toNat = 10 := by
    rw [turns, visits, cyclesOver, cyclesIn, tracePerform, perform, Outcome.state_map, trace, cycle]
    simp only [List.map_cons, List.map_append, List.countP_append, List.countP_cons, ticks, opening]
    decide +kernel
  obtain ⟨spared, ticking, cycles, asked, full⟩ := start
  have counted := (timers_count_cycles spared).1
  rw [cycles, asked, full] at counted
  exact ⟨spared, ticking, counted⟩

end Machine

end Chip8
