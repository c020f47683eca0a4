import Chip8.Proofs.Waiting.Course

/-! The protocol of waiting for a key. While a machine waits, nothing changes but its keypad and its
journal. The wait ends with the first key that the host reports or with the first cycle that finds a
press, and a press that a cycle finds was made during this wait and before all others of it. -/
namespace Chip8

variable {grid : Grid} {τ : Type}

namespace KeyEvent

/-- The events of a wait so far: the instruction that began it, the cycles that found no press, and
the presses queued since. Only a press that no cycle has met yet can come last. -/
def waitSoFar (x : Register) (idle : Nat) (presses : List Key) : List KeyEvent :=
  .began x :: (List.replicate idle (.unheard x) ++ presses.map .queued)

/-- Whether every key was handed to the wait that was then open. A press that was taken is the first
that was queued in that wait, and of two presses that were taken the later one was queued after
the earlier one had been taken. -/
structure Attributed (trace : List KeyEvent) : Prop where
  taken (before after : List KeyEvent) (x : Register) (key : Key)
    (split : trace = before ++ .taken x key :: after) :
    ∃ earlier idle presses, before = earlier ++ waitSoFar x idle (key :: presses)
  given (before after : List KeyEvent) (x : Register) (key : UInt8)
    (split : trace = before ++ .given x key :: after) :
    key ≤ 0xf ∧ ∃ earlier idle presses, before = earlier ++ waitSoFar x idle presses
  apart (before between after : List KeyEvent) (x y : Register) (first second : Key)
    (split : trace = before ++ .taken x first :: (between ++ .taken y second :: after)) :
    ∃ earlier idle presses, between = earlier ++ waitSoFar y idle (second :: presses)

private theorem delivers_of_mem_waitSoFar {x : Register} {idle : Nat} {presses : List Key}
    {event : KeyEvent} (member : event ∈ waitSoFar x idle presses) : event.delivers = false := by
  rcases List.mem_cons.mp member with same | member
  · rw [same]
    rfl
  · rcases List.mem_append.mp member with poll | press
    · rw [(List.mem_replicate.mp poll).2]
      rfl
    · obtain ⟨key, _, same⟩ := List.mem_map.mp press
      rw [← same]
      rfl

/-- A wait holds no event that hands over a key, so it lies behind the last such event. -/
private theorem wait_behind {before between earlier presses : List KeyEvent} {event : KeyEvent}
    (delivers : event.delivers) (silent : ∀ other ∈ presses, other.delivers = false)
    (same : before ++ event :: between = earlier ++ presses) :
    ∃ earlier, between = earlier ++ presses := by
  rcases List.append_eq_append_iff.mp same with ⟨middle, head, tail⟩ | ⟨middle, head, tail⟩
  · cases middle with
    | nil =>
      rw [List.nil_append] at tail
      have member : event ∈ presses := by
        rw [← tail]
        exact List.mem_cons_self
      rw [silent event member] at delivers
      cases delivers
    | cons first middle => exact ⟨middle, (List.cons.inj tail).2⟩
  · have member : event ∈ presses := by
      rw [tail]
      exact List.mem_append_right _ List.mem_cons_self
    rw [silent event member] at delivers
    cases delivers

/-- An event of a trace with one more event is that event or one of the trace. -/
private theorem split_concat {trace before after : List KeyEvent} {event last : KeyEvent}
    (split : trace ++ [last] = before ++ event :: after) :
    (trace = before ∧ last = event) ∨ ∃ rest, trace = before ++ event :: rest := by
  rcases List.eq_nil_or_concat after with empty | ⟨rest, other, same⟩
  · rw [empty] at split
    obtain ⟨traces, events⟩ := List.append_inj' split rfl
    exact .inl ⟨traces, (List.cons.inj events).1⟩
  · rw [same, List.concat_eq_append, ← List.cons_append, ← List.append_assoc] at split
    exact .inr ⟨rest, (List.append_inj' split rfl).1⟩

theorem attributed_nil : Attributed [] where
  taken before after x key split := absurd split (by simp)
  given before after x key split := absurd split (by simp)
  apart before between after x y first second split := absurd split (by simp)

/-- One more event keeps a trace attributed if it is itself. -/
theorem Attributed.concat {trace : List KeyEvent} {last : KeyEvent} (attributed : Attributed trace)
    (taken : ∀ x key, last = .taken x key →
      ∃ earlier idle presses, trace = earlier ++ waitSoFar x idle (key :: presses))
    (given : ∀ x key, last = .given x key →
      key ≤ 0xf ∧ ∃ earlier idle presses, trace = earlier ++ waitSoFar x idle presses) :
    Attributed (trace ++ [last]) := by
  have takes : ∀ (before after : List KeyEvent) (x : Register) (key : Key),
      trace ++ [last] = before ++ .taken x key :: after →
      ∃ earlier idle presses, before = earlier ++ waitSoFar x idle (key :: presses) := by
    intro before after x key split
    rcases split_concat split with ⟨same, event⟩ | ⟨rest, inside⟩
    · rw [← same]
      exact taken x key event
    · exact attributed.taken before rest x key inside
  refine ⟨takes, ?_, ?_⟩
  · intro before after x key split
    rcases split_concat split with ⟨same, event⟩ | ⟨rest, inside⟩
    · rw [← same]
      exact given x key event
    · exact attributed.given before rest x key inside
  · intro before between after x y first second split
    rw [← List.cons_append, ← List.append_assoc] at split
    obtain ⟨earlier, idle, presses, same⟩ := takes _ after y second split
    obtain ⟨rest, behind⟩ :=
      wait_behind rfl (fun _ member => delivers_of_mem_waitSoFar member) same
    exact ⟨rest, idle, presses, behind⟩

end KeyEvent

open KeyEvent

namespace Machine

variable [Speaker τ]

section Trace

variable {m : ScriptedMachine grid τ}

/-- Whether a machine that waits has done so since a place in the trace, its queue holding exactly
the presses made since. -/
private def Follows (trace : List KeyEvent) (m : ScriptedMachine grid τ) : Prop :=
  ∀ x, m.mode = .awaiting x →
    ∃ earlier idle, trace = earlier ++ waitSoFar x idle m.keypad.queue

omit [Speaker τ] in
private theorem follows_of_running {trace : List KeyEvent} (running : m.mode = .running) :
    Follows trace m := by
  intro x waiting
  cases running.symm.trans waiting

private theorem follows_moment {trace : List KeyEvent} {after : ScriptedMachine grid τ}
    {event : Option KeyEvent} (reliable : m.Reliable) (follows : Follows trace m)
    (moment : Moment m event after) : Follows (trace ++ event.toList) after := by
  cases moment with
  | queued key =>
    intro x waiting
    obtain ⟨earlier, idle, same⟩ := follows x waiting
    refine ⟨earlier, idle, ?_⟩
    rw [same]
    simp [waitSoFar, ScriptedKeypad.press]
  | aside keypad journal presses failure =>
    intro x waiting
    obtain ⟨earlier, idle, same⟩ := follows x waiting
    exact ⟨earlier, idle, by rw [Option.toList_none, List.append_nil, presses, same]⟩
  | given waiting isKey =>
    obtain ⟨journal, heard⟩ := pressKey_of_waiting waiting isKey
    rw [heard]
    exact follows_of_running rfl
  | unheard waiting empty =>
    rw [pollKey_of_empty reliable.presses waiting empty]
    intro x still
    obtain ⟨earlier, idle, same⟩ := follows x still
    cases waiting.symm.trans still
    refine ⟨earlier, idle + 1, ?_⟩
    rw [Outcome.state, same, empty]
    simp [waitSoFar, List.replicate_succ']
  | taken waiting presses =>
    obtain ⟨journal, polled⟩ := pollKey_of_press reliable.presses waiting presses
    rw [polled]
    exact follows_of_running rfl
  | @began word x running found =>
    -- The presses from before are forgotten, so the wait starts with none.
    obtain ⟨after, finished, mode, empty⟩ := fetchAndExecute_of_wait reliable found
    rw [finished]
    intro y waiting
    cases mode.symm.trans waiting
    refine ⟨trace, 0, ?_⟩
    rw [Outcome.state, empty]
    rfl
  | executed running found other done =>
    exact follows_of_running (mode_of_executed running found other done)
  | @faulted left fault running failed =>
    have halted : (left.halt fault).mode = .halted := congrArg Core.mode (toCore_halt left fault)
    intro x waiting
    cases halted.symm.trans waiting
  | closed unattended done =>
    obtain ⟨other, finished, mode, keypad, _⟩ := endCycle_of_reliable reliable
    rw [finished] at done
    cases done
    intro x waiting
    obtain ⟨earlier, idle, same⟩ := follows x (mode.symm.trans waiting)
    exact ⟨earlier, idle, by rw [Option.toList_none, List.append_nil, keypad, same]⟩

private theorem attributed_moment {trace : List KeyEvent}
    {after : ScriptedMachine grid τ} {event : Option KeyEvent} (follows : Follows trace m)
    (attributed : Attributed trace) (moment : Moment m event after) :
    Attributed (trace ++ event.toList) := by
  cases moment with
  | aside | executed | faulted | closed =>
    rw [Option.toList_none, List.append_nil]
    exact attributed
  | queued | unheard | began => exact attributed.concat nofun nofun
  | given waiting isKey =>
    refine attributed.concat nofun ?_
    rintro x key same
    cases same
    obtain ⟨earlier, idle, split⟩ := follows _ waiting
    exact ⟨isKey, earlier, idle, _, split⟩
  | taken waiting presses =>
    refine attributed.concat ?_ nofun
    rintro x key same
    cases same
    obtain ⟨earlier, idle, split⟩ := follows _ waiting
    rw [presses] at split
    exact ⟨earlier, idle, _, split⟩

private theorem attributed_course {trace : List KeyEvent} {after : ScriptedMachine grid τ}
    (reliable : m.Reliable) (running : m.mode = .running) (course : Course m trace after) :
    Attributed trace := by
  -- `Follows` carries the induction: it says where the wait began that an event may be credited to.
  have both : Follows trace after ∧ Attributed trace := by
    induction course with
    | start => exact ⟨follows_of_running running, attributed_nil⟩
    | onward course moment ih =>
      obtain ⟨follows, attributed⟩ := ih
      have steady := course.reliable reliable
      exact ⟨follows_moment steady follows moment, attributed_moment follows attributed moment⟩
  exact both.2

end Trace

/-- Whether a machine has the same core and the same picture as before. -/
structure Still (m after : ScriptedMachine grid τ) : Prop where
  core : after.toCore = m.toCore
  frame : after.screen.frame = m.screen.frame

namespace Still

variable {m middle after : ScriptedMachine grid τ}

omit [Speaker τ]

theorem refl (m : ScriptedMachine grid τ) : Still m m := ⟨rfl, rfl⟩

theorem trans (first : Still m middle) (second : Still middle after) : Still m after :=
  ⟨second.core.trans first.core, second.frame.trans first.frame⟩

theorem mode (still : Still m after) : after.mode = m.mode := congrArg Core.mode still.core

end Still

section Waiting

variable {m : ScriptedMachine grid τ} {x : Register}

private theorem still_moment {after : ScriptedMachine grid τ} {event : Option KeyEvent}
    (reliable : m.Reliable) (waiting : m.mode = .awaiting x) (moment : Moment m event after)
    (silent : ∀ key ∈ event, key.delivers = false) : Still m after := by
  have idle : m.mode ≠ .running := by
    rw [waiting]
    nofun
  cases moment with
  | queued | aside => exact ⟨rfl, rfl⟩
  | given | taken => cases silent _ rfl
  | unheard waiting empty =>
    rw [pollKey_of_empty reliable.presses waiting empty]
    exact .refl m
  | began running | executed running | faulted running => exact absurd running idle
  | closed unattended done =>
    obtain ⟨other, finished, _, _, screen, core⟩ := endCycle_of_reliable reliable
    rw [finished] at done
    cases done
    exact ⟨core idle, by rw [screen]⟩

private theorem still_course {trace : List KeyEvent} {after : ScriptedMachine grid τ}
    (reliable : m.Reliable) (waiting : m.mode = .awaiting x) (course : Course m trace after)
    (silent : ∀ event ∈ trace, event.delivers = false) : Still m after := by
  induction course with
  | start => exact .refl m
  | onward course moment ih =>
    have still := ih fun event member => silent event (List.mem_append_left _ member)
    have idle := still.mode.trans waiting
    refine still.trans (still_moment (course.reliable reliable) idle moment ?_)
    intro event member
    exact silent event (List.mem_append_right _ (Option.mem_toList.mpr member))

private theorem cycle_of_press {key : Key} {rest : List Key} (reliable : m.Reliable)
    (waiting : m.mode = .awaiting x) (queued : m.keypad.queue = key :: rest) :
    ∃ journal, m.cycle = ({ m with
      v := m.v.put x (byteOfKey key), mode := .running
      keypad := { m.keypad with queue := rest }, journal } : ScriptedMachine grid τ).cycle := by
  obtain ⟨journal, polled⟩ := pollKey_of_press reliable.presses waiting queued
  refine ⟨journal, ?_⟩
  simp only [cycle, polled, Outcome.andThen_done]
  rfl

private theorem cycle_of_empty (reliable : m.Reliable) (waiting : m.mode = .awaiting x)
    (empty : m.keypad.queue = []) :
    ∃ after, m.cycle = .done () after ∧ Still m after ∧ after.keypad = m.keypad ∧
      after.Reliable := by
  have idle : m.mode ≠ .running := by
    rw [waiting]
    nofun
  have unexecuted : m.batch m.batchSize = finish m := batch_of_idle _ idle
  obtain ⟨after, done, _, keypad, screen, core⟩ := endCycle_of_reliable reliable
  have cycled : m.cycle = .done () after := by
    simp only [cycle, pollKey_of_empty reliable.presses waiting empty, Outcome.andThen_done,
      unexecuted, finish, done, guarded]
  refine ⟨after, cycled, ⟨core idle, by rw [screen]⟩, keypad, ?_⟩
  exact ⟨by rw [screen]; exact reliable.render, by rw [keypad]; exact reliable.presses⟩

private theorem runFrom_of_empty (limit count : Nat) (reliable : m.Reliable)
    (waiting : m.mode = .awaiting x) (empty : m.keypad.queue = []) :
    ∃ cycles after, runFrom limit count m = .done cycles after ∧ Still m after := by
  induction limit generalizing count m with
  | zero => exact ⟨count, m, rfl, .refl m⟩
  | succ limit ih =>
    have same := m.keypad.device_wantsExit
    have asked : Still m (m.afterKeypad (Keypad.wantsExit m.keypad)) := ⟨rfl, rfl⟩
    have steady := (Comes.wantsExit m).reliable reliable
    have nothing : (m.afterKeypad (Keypad.wantsExit m.keypad)).keypad.queue = [] :=
      (congrArg ScriptedKeypad.queue same).trans empty
    obtain ⟨after, cycled, still, keypad, reliable⟩ :=
      cycle_of_empty steady (asked.mode.trans waiting) nothing
    simp only [runFrom, cycled, Outcome.andThen_done]
    split
    · exact ⟨count, _, rfl, asked.core, asked.frame⟩
    · obtain ⟨cycles, last, ran, rest⟩ :=
        ih (count + 1) reliable ((asked.trans still).mode.trans waiting) (by rw [keypad, nothing])
      exact ⟨cycles, last, ran, (asked.trans still).trans rest⟩

end Waiting

/-- What a machine does that waits for a key for register `x`. A cycle or main loop that finds a
press goes on as that of a machine with the key in `x` that is running. -/
structure Awaits (x : Register) (m : ScriptedMachine grid τ) : Prop where
  noKey (key : UInt8) (high : 0xf < key) : ∃ journal, m.pressKey key = (false, { m with journal })
  pressKey (key : UInt8) (isKey : key ≤ 0xf) : ∃ journal,
    m.pressKey key = (true, { m with v := m.v.put x key, mode := .running, journal })
  step : m.step = .done () m
  idleCycle (empty : m.keypad.queue = []) : ∃ after, m.cycle = .done () after ∧ Still m after
  cycle (key : Key) (rest : List Key) (queued : m.keypad.queue = key :: rest) : ∃ journal,
    m.cycle = ({ m with
      v := m.v.put x (byteOfKey key), mode := .running
      keypad := { m.keypad with queue := rest }, journal } : ScriptedMachine grid τ).cycle
  idleRun (frames : Option UInt64) (empty : m.keypad.queue = []) :
    ∃ cycles after, m.run frames = .done cycles after ∧ Still m after
  run (frames : Option UInt64) (key : Key) (rest : List Key) (queued : m.keypad.queue = key :: rest)
    (limit : cycleLimit frames ≠ 0) (stays : (Keypad.wantsExit m.keypad).answer = false) :
    ∃ journal, m.run frames = ({ m with
      v := m.v.put x (byteOfKey key), mode := .running
      keypad := { (Keypad.wantsExit m.keypad).device with queue := rest }
      journal } : ScriptedMachine grid τ).cycle.andThen
        fun _ m => runFrom (cycleLimit frames - 1) 1 m

private theorem run_of_press {m : ScriptedMachine grid τ} {x : Register} {key : Key}
    {rest : List Key} (frames : Option UInt64) (reliable : m.Reliable)
    (waiting : m.mode = .awaiting x) (queued : m.keypad.queue = key :: rest)
    (limit : cycleLimit frames ≠ 0) (stays : (Keypad.wantsExit m.keypad).answer = false) :
    ∃ journal, m.run frames = ({ m with
      v := m.v.put x (byteOfKey key), mode := .running
      keypad := { (Keypad.wantsExit m.keypad).device with queue := rest }
      journal } : ScriptedMachine grid τ).cycle.andThen
        fun _ m => runFrom (cycleLimit frames - 1) 1 m := by
  obtain ⟨others, positive⟩ := Nat.exists_eq_succ_of_ne_zero limit
  have same := m.keypad.device_wantsExit
  let noted := m.note (.running m.settings.rate m.batchSize)
  have steady : (noted.afterKeypad (Keypad.wantsExit m.keypad)).Reliable :=
    (Comes.wantsExit noted).reliable ((Comes.note m _).reliable reliable)
  have presses : (noted.afterKeypad (Keypad.wantsExit m.keypad)).keypad.queue = key :: rest :=
    (congrArg ScriptedKeypad.queue same).trans queued
  obtain ⟨journal, cycled⟩ := cycle_of_press steady waiting presses
  refine ⟨journal, ?_⟩
  have asked : (Keypad.wantsExit (m.note (.running m.settings.rate m.batchSize)).keypad).answer =
    false := stays
  rw [run, positive]
  simp only [runFrom, asked]
  exact congrArg (fun outcome => outcome.andThen fun _ m => runFrom others 1 m) cycled

private theorem awaits_of_waiting {m : ScriptedMachine grid τ} {x : Register}
    (reliable : m.Reliable) (waiting : m.mode = .awaiting x) : Awaits x m where
  noKey key high := by
    simp only [Machine.pressKey, if_pos high]
    exact ⟨_, rfl⟩
  pressKey key isKey := pressKey_of_waiting waiting isKey
  step := by simp only [Machine.step, waiting, finish]
  idleCycle empty := by
    obtain ⟨after, cycled, still, _⟩ := cycle_of_empty reliable waiting empty
    exact ⟨after, cycled, still⟩
  cycle key rest queued := cycle_of_press reliable waiting queued
  idleRun frames empty := by
    have noted := (Comes.note m (.running m.settings.rate m.batchSize)).reliable reliable
    obtain ⟨cycles, after, ran, still⟩ :=
      runFrom_of_empty (cycleLimit frames) 0 noted waiting empty
    exact ⟨cycles, after, ran, still.core, still.frame⟩
  run frames key rest queued limit stays :=
    run_of_press frames reliable waiting queued limit stays

/-- Every history of a running machine on devices that do not fail is a course of moments with just
the presses of that history. On every course each key is handed to the wait that is open, and a
press that is taken is the first one queued in that wait and not yet taken. A machine that waits
takes a reported key, or the first press that a cycle or main loop finds, which changes its register
and its mode alone before anything else is executed; until then its core and its picture stand
still. -/
theorem keys_reach_open_waits {m : ScriptedMachine grid τ} (running : m.mode = .running)
    (reliable : m.Reliable) :
    (∀ doings : List Doing, ∃ trace, Course m trace (m.doAll doings) ∧
      trace.filterMap KeyEvent.press? = doings.filterMap Doing.press?) ∧
    ∀ trace reached, Course m trace reached → Attributed trace ∧
      ∀ x, reached.mode = .awaiting x → Awaits x reached ∧
        ∀ later after, Course reached later after →
          (∀ event ∈ later, event.delivers = false) → Still reached after := by
  refine ⟨course_doAll reliable, ?_⟩
  intro trace reached course
  have steady := course.reliable reliable
  refine ⟨attributed_course reliable running course, ?_⟩
  intro x waiting
  refine ⟨awaits_of_waiting steady waiting, ?_⟩
  intro later after onward silent
  exact still_course steady waiting onward silent

/-- A machine about to wait for a key for register 3. -/
def listener : ScriptedMachine Grid.standard MuteSpeaker :=
  (create {} (HeadlessScreen.blank Grid.standard) {} {}).performAll [.load [0xf3, 0x0a, 0x12, 0x02]]

private theorem fetch_pressed {grid : Grid} {τ : Type} [Speaker τ] (m : ScriptedMachine grid τ)
    (key : Key) : (m.perform (Doing.press key).action).state.fetch = m.fetch := rfl

/-- The same machine once a press has come too early. -/
private def hurried (key : Key) : ScriptedMachine Grid.standard MuteSpeaker :=
  (listener.perform (Doing.press key).action).state

private theorem step_hurried (key : Key) :
    (hurried key).step = .done () (((hurried key).past 0xf30a (.waitKey 3)).attentive 3) := by
  have found : (hurried key).fetch = .ok (0xf30a, .waitKey 3) := by
    rw [hurried, fetch_pressed, fetch_eq_ok_iff, Memory.readWord_eq_ok_iff]
    exact ⟨by decide +kernel, rfl⟩
  exact step_of_done rfl found (execute_waitKey rfl 3)

private theorem doAll_listener (key : Key) (later : List Doing) :
    listener.doAll (.press key :: .step :: later) =
      (((hurried key).past 0xf30a (.waitKey 3)).attentive 3).doAll later := by
  have stepped : (hurried key).doAll (.step :: later) = (hurried key).step.state.doAll later := by
    rw [doAll_cons, Doing.action, perform, Outcome.state_map]
  rw [doAll_cons, ← hurried, stepped, step_hurried]
  rfl

/-- The press from before the wait is forgotten; of those from the wait the first is taken. -/
theorem listener_hears :
    listener.mode = .running ∧ listener.Reliable ∧
      Awaits 3 (listener.doAll [.press 9, .step, .press 7, .press 5]) ∧
      (listener.doAll [.press 9, .step, .press 7, .press 5, .cycle]).v.get 3 = 7 := by
  have running : listener.mode = .running := rfl
  have reliable : listener.Reliable := ⟨rfl, rfl⟩
  obtain ⟨histories, courses⟩ := keys_reach_open_waits running reliable
  obtain ⟨trace, course, _⟩ := histories [.press 9, .step, .press 7, .press 5]
  have waiting : (listener.doAll [.press 9, .step, .press 7, .press 5]).mode = .awaiting 3 := by
    rw [doAll_listener]
    rfl
  obtain ⟨awaits, _⟩ := (courses trace _ course).2 3 waiting
  refine ⟨running, reliable, awaits, ?_⟩
  rw [doAll_listener]
  decide +kernel

end Machine

end Chip8
