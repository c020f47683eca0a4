import Chip8.Proofs.Machine.Step

/-! A cycle as single steps. It is a batch of steps, cut at the first fault, and what closes a cycle
that no fault has cut: the timers, the tone and the picture. Steps do none of that; they draw at
most. The devices may fail wherever they are asked. -/
namespace Chip8

variable {δ κ τ : Type}

/-- Whether a screen came of another by clearing and inverting alone, without being shown. -/
inductive Painted [Screen δ] : δ → δ → Prop where
  | same (screen : δ) : Painted screen screen
  | cleared {before after : δ} (painted : Painted before after) :
      Painted before (Screen.clear after)
  | inverted {before after : δ} (painted : Painted before after) (x y : Nat) :
      Painted before (Screen.toggle after x y).device

theorem Painted.trans [Screen δ] {first second third : δ} (before : Painted first second)
    (after : Painted second third) : Painted first third := by
  induction after with
  | same => exact before
  | cleared _ ih => exact .cleared ih
  | inverted _ x y ih => exact .inverted ih x y

theorem Sprite.painted_draw [Screen δ] (screen : δ) (left top : Nat) (rows : List UInt8) :
    Painted screen (draw screen left top rows).screen := by
  have cells : ∀ (places : List (Nat × Nat)) (drawn : Drawn δ), Painted screen drawn.screen →
      Painted screen (places.foldl (drawCell left top) drawn).screen := by
    intro places
    induction places with
    | nil => exact fun drawn painted => painted
    | cons place rest ih => exact fun drawn painted => ih _ (.inverted painted _ _)
  exact cells _ _ (.same screen)

namespace Machine

/-- What steps leave alone: the speaker, the settings, and the screen but for what they draw. -/
structure Stepped [Screen δ] (m after : Machine δ κ τ) : Prop where
  speaker : after.speaker = m.speaker
  toneLost : after.toneLost = m.toneLost
  settings : after.settings = m.settings
  screen : Painted m.screen after.screen

namespace Stepped

variable [Screen δ]

theorem of_eq {m after : Machine δ κ τ} (speaker : after.speaker = m.speaker)
    (toneLost : after.toneLost = m.toneLost) (settings : after.settings = m.settings)
    (screen : after.screen = m.screen) : Stepped m after :=
  ⟨speaker, toneLost, settings, by rw [screen]; exact .same _⟩

theorem trans {first second third : Machine δ κ τ} (before : Stepped first second)
    (after : Stepped second third) : Stepped first third where
  speaker := after.speaker.trans before.speaker
  toneLost := after.toneLost.trans before.toneLost
  settings := after.settings.trans before.settings
  screen := before.screen.trans after.screen

theorem halt {m after : Machine δ κ τ} (stepped : Stepped m after) (fault : Fault) :
    Stepped m (after.halt fault) := by
  rw [halt_eq]
  exact ⟨stepped.speaker, stepped.toneLost, stepped.settings, stepped.screen⟩

end Stepped

section Execution

variable [Screen δ]

private theorem stepped_skipWhen (m : Machine δ κ τ) (condition : Bool) :
    Stepped m (m.skipWhen condition) := by
  cases condition <;> exact .of_eq rfl rfl rfl rfl

private theorem stepped_stored (m : Machine δ κ τ) (written : Except Fault Memory) :
    Stepped m (m.stored written).state := by
  cases written <;> exact .of_eq rfl rfl rfl rfl

private theorem stepped_draw (m : Machine δ κ τ) (x y : Register) (n : Nat) :
    Stepped m (m.draw x y n).state := by
  unfold draw
  split
  · exact .of_eq rfl rfl rfl rfl
  · exact ⟨rfl, rfl, rfl, Sprite.painted_draw ..⟩

private theorem stepped_skipOnKey [Keypad κ] (m : Machine δ κ τ) (x : Register) (down : Bool) :
    Stepped m (m.skipOnKey x down).state := by
  simp only [skipOnKey]
  split
  · exact stepped_skipWhen m _
  · split
    · exact .of_eq rfl rfl rfl rfl
    · have asked : Stepped m (m.afterKeypad (Keypad.isPressed m.keypad (keyOfByte (m.v.get x)))) :=
        .of_eq rfl rfl rfl rfl
      exact asked.trans (stepped_skipWhen _ _)

private theorem stepped_execute [Keypad κ] (m : Machine δ κ τ) (instruction : Instruction) :
    Stepped m (m.execute instruction).state := by
  cases instruction with
  | clearScreen => exact ⟨rfl, rfl, rfl, .cleared (.same _)⟩
  | ret => simp only [execute, ret]; split <;> exact .of_eq rfl rfl rfl rfl
  | call nnn => simp only [execute, call]; split <;> exact .of_eq rfl rfl rfl rfl
  | skipEqImm x kk | skipNeImm x kk | skipEqReg x y | skipNeReg x y =>
    exact stepped_skipWhen m _
  | draw x y n => exact stepped_draw m x y n.val
  | skipKeyPressed x | skipKeyNotPressed x => exact stepped_skipOnKey m x _
  | waitKey x => simp only [execute, waitKey]; split <;> exact .of_eq rfl rfl rfl rfl
  | storeBcd x | storeRegs x => exact stepped_stored m _
  | loadRegs x => simp only [execute]; split <;> exact .of_eq rfl rfl rfl rfl
  | _ => exact .of_eq rfl rfl rfl rfl

theorem stepped_fetchAndExecute [Keypad κ] (m : Machine δ κ τ) :
    Stepped m m.fetchAndExecute.state := by
  rw [fetchAndExecute_eq]
  split
  · exact .of_eq rfl rfl rfl rfl
  · rename_i word instruction _
    have passed : Stepped m (m.past word instruction) := .of_eq rfl rfl rfl rfl
    exact passed.trans (stepped_execute _ instruction)

theorem stepped_step [Keypad κ] (m : Machine δ κ τ) : Stepped m m.step.state := by
  have fetched := stepped_fetchAndExecute m
  unfold step
  split
  · exact .of_eq rfl rfl rfl rfl
  · exact .of_eq rfl rfl rfl rfl
  · cases outcome : m.fetchAndExecute with
    | done value after =>
      rw [outcome] at fetched
      exact fetched
    | failed fault after =>
      rw [outcome] at fetched
      exact fetched.halt fault

/-- Takes `count` steps, or as many as there are before the first fault. -/
def steps [Keypad κ] : Nat → Machine δ κ τ → Outcome (Machine δ κ τ) Unit
  | 0, m => finish m
  | count + 1, m => m.step.andThen fun _ m => steps count m

theorem steps_succ [Keypad κ] {count : Nat} {m last : Machine δ κ τ}
    (done : steps (count + 1) m = .done () last) :
    ∃ next, m.step = .done () next ∧ steps count next = .done () last := by
  unfold steps at done
  cases outcome : m.step with
  | done value next =>
    rw [outcome] at done
    exact ⟨next, rfl, done⟩
  | failed fault stopped =>
    rw [outcome] at done
    cases done

theorem steps_add [Keypad κ] {first second : Nat} {m last : Machine δ κ τ}
    (done : steps (first + second) m = .done () last) :
    ∃ middle, steps first m = .done () middle ∧ steps second middle = .done () last := by
  induction first generalizing m with
  | zero =>
    rw [Nat.zero_add] at done
    exact ⟨m, rfl, done⟩
  | succ first ih =>
    rw [Nat.succ_add] at done
    obtain ⟨next, stepped, rest⟩ := steps_succ done
    obtain ⟨middle, before, after⟩ := ih rest
    refine ⟨middle, ?_, after⟩
    simp only [steps, stepped, Outcome.andThen_done, before]

theorem stepped_steps [Keypad κ] (count : Nat) (m : Machine δ κ τ) :
    Stepped m (steps count m).state := by
  induction count generalizing m with
  | zero => exact .of_eq rfl rfl rfl rfl
  | succ count ih =>
    have first := stepped_step m
    unfold steps
    cases outcome : m.step with
    | done value after =>
      rw [outcome] at first
      exact first.trans (ih after)
    | failed fault after =>
      rw [outcome] at first
      exact first

theorem steps_of_waiting [Keypad κ] {m : Machine δ κ τ} {x : Register} (count : Nat)
    (waiting : m.mode = .awaiting x) : steps count m = finish m := by
  induction count with
  | zero => rfl
  | succ count ih => simp only [steps, step, waiting, finish, Outcome.andThen_done, ih]

/-- An instruction that finishes does not halt the machine. -/
theorem awake_of_fetched [Keypad κ] {m after : Machine δ κ τ} {value : Unit}
    (running : m.mode = .running) (done : m.fetchAndExecute = .done value after) :
    after.mode ≠ .halted := by
  rw [fetchAndExecute_eq] at done
  split at done
  · cases done
  · rename_i word instruction _
    have executed := executed_execute (m.past word instruction) instruction
    rw [done] at executed
    have mode : after.mode = m.mode ∨ _ := executed.mode
    rcases mode with same | ⟨x, _, waiting⟩
    · rw [same, running]
      nofun
    · have waiting : after.mode = .awaiting x := waiting
      rw [waiting]
      nofun

theorem batch_of_idle [Keypad κ] {m : Machine δ κ τ} (count : Nat) (idle : m.mode ≠ .running) :
    m.batch count = finish m := by
  cases count with
  | zero => rfl
  | succ count =>
    unfold batch
    split
    · exact absurd ‹_› idle
    · rfl

/-- The batch of a cycle does what single steps do. The two differ in where they look at the mode
and where a fault halts the machine, so the induction is over machines that have not halted. -/
theorem guarded_batch [Keypad κ] (count : Nat) {m : Machine δ κ τ} (awake : m.mode ≠ .halted) :
    guarded (batch count m) = steps count m := by
  induction count generalizing m with
  | zero => rfl
  | succ count ih =>
    cases mode : m.mode with
    | halted => exact absurd mode awake
    | awaiting x =>
      rw [steps_of_waiting _ mode]
      simp only [batch, mode]
      rfl
    | running =>
      simp only [batch, steps, step, mode]
      cases outcome : m.fetchAndExecute with
      | done value after => exact ih (awake_of_fetched mode outcome)
      | failed fault after => rfl

end Execution

section Closing

variable [Screen δ] [Speaker τ]

/-- What the speaker is asked when the sound timer stands at `sound`. -/
def toneReply (m : Machine δ κ τ) (sound : UInt8) : Reply τ (Except DeviceError Unit) :=
  if 0 < sound then Speaker.play m.speaker m.settings.tone else Speaker.stop m.speaker

/-- What closes a cycle that has reached `reached`: the timers tick if it is running, then the
speaker is asked for a tone or for silence unless it has failed before, then the screen is shown.
Only a screen that fails makes the cycle fail, and it halts the machine and undoes nothing. -/
structure Closed (reached : Machine δ κ τ) (outcome : Outcome (Machine δ κ τ) Unit) : Prop where
  result : outcome.result = (Screen.render reached.screen).answer.mapError .device
  core : outcome.state.toCore = { reached.toCore with
    delay := outcome.state.delay, sound := outcome.state.sound, mode := outcome.state.mode }
  delay : outcome.state.delay.toNat =
    if reached.mode = .running then reached.delay.toNat - 1 else reached.delay.toNat
  sound : outcome.state.sound.toNat =
    if reached.mode = .running then reached.sound.toNat - 1 else reached.sound.toNat
  mode : outcome.state.mode =
    if (Screen.render reached.screen).answer.isOk then reached.mode else .halted
  screen : outcome.state.screen = (Screen.render reached.screen).device
  keypad : outcome.state.keypad = reached.keypad
  settings : outcome.state.settings = reached.settings
  speaker : outcome.state.speaker =
    if reached.toneLost then reached.speaker else (reached.toneReply outcome.state.sound).device
  toneLost : outcome.state.toneLost =
    (reached.toneLost || !(reached.toneReply outcome.state.sound).answer.isOk)

theorem toNat_ticked (timer : UInt8) : (ticked timer).toNat = timer.toNat - 1 := by
  unfold ticked
  split
  · rename_i stopped
    rw [stopped]
    rfl
  · rename_i counting
    have positive : (1 : UInt8) ≤ timer := by
      rw [UInt8.le_iff_toNat_le]
      have nonzero : timer.toNat ≠ 0 := fun zero => counting (UInt8.toNat_inj.mp zero)
      exact Nat.pos_of_ne_zero nonzero
    exact UInt8.toNat_sub_of_le timer 1 positive

omit [Screen δ] in
theorem driveSpeaker_eq (m : Machine δ κ τ) : ∃ journal, m.driveSpeaker = { m with
    speaker := if m.toneLost then m.speaker else (m.toneReply m.sound).device
    toneLost := m.toneLost || !(m.toneReply m.sound).answer.isOk
    journal := journal } := by
  have asked : (if 0 < m.sound then Speaker.play m.speaker m.settings.tone
      else Speaker.stop m.speaker) = m.toneReply m.sound := rfl
  simp only [driveSpeaker, asked]
  cases lost : m.toneLost with
  | true =>
    refine ⟨m.journal, ?_⟩
    simp only [if_true, Bool.true_or]
    rw [← lost]
  | false =>
    simp only [Bool.false_eq_true, if_false, Bool.false_or]
    cases answer : (m.toneReply m.sound).answer with
    | ok value =>
      have kept : (m.afterSpeaker (m.toneReply m.sound)).toneLost = false := lost
      exact ⟨_, congrArg (fun toneLost => ({ m.afterSpeaker (m.toneReply m.sound) with
        toneLost } : Machine δ κ τ)) kept⟩
    | error error => exact ⟨_, rfl⟩

omit [Speaker τ] in
private theorem render_eq (m : Machine δ κ τ) :
    m.render.result = (Screen.render m.screen).answer.mapError .device ∧
      m.render.state = m.afterScreen (Screen.render m.screen) := by
  unfold render
  dsimp only
  split
  · rename_i shown
    rw [shown]
    exact ⟨rfl, rfl⟩
  · rename_i broken
    rw [broken]
    exact ⟨rfl, rfl⟩

omit [Screen δ] [Speaker τ] in
private theorem guarded_eq (outcome : Outcome (Machine δ κ τ) Unit) :
    (guarded outcome).result = outcome.result ∧ ∃ journal, (guarded outcome).state =
      { outcome.state with
        mode := if outcome.result.isOk then outcome.state.mode else .halted, journal } := by
  cases outcome with
  | done value m => exact ⟨rfl, m.journal, rfl⟩
  | failed fault m => exact ⟨rfl, _, m.halt_eq fault⟩

omit [Screen δ] [Speaker τ] in
theorem tickWhenRunning_eq (m : Machine δ κ τ) : ∃ delay sound : UInt8,
    m.tickWhenRunning = { m with delay, sound } ∧
      delay.toNat = (if m.mode = .running then m.delay.toNat - 1 else m.delay.toNat) ∧
      sound.toNat = (if m.mode = .running then m.sound.toNat - 1 else m.sound.toNat) := by
  by_cases running : m.mode = .running
  · have ticks : m.tickWhenRunning = m.tick := by simp only [tickWhenRunning, running]
    refine ⟨ticked m.delay, ticked m.sound, ticks, ?_, ?_⟩
    · rw [if_pos running, toNat_ticked]
    · rw [if_pos running, toNat_ticked]
  · have stands : m.tickWhenRunning = m := by
      unfold tickWhenRunning
      split
      · exact absurd ‹_› running
      · rfl
    refine ⟨m.delay, m.sound, stands, ?_, ?_⟩
    · rw [if_neg running]
    · rw [if_neg running]

theorem closed_endCycle (reached : Machine δ κ τ) :
    Closed reached (guarded reached.endCycle) := by
  obtain ⟨delay, sound, ticking, delayed, sounded⟩ := tickWhenRunning_eq reached
  obtain ⟨_, speaking⟩ := driveSpeaker_eq reached.tickWhenRunning
  obtain ⟨result, shown⟩ := render_eq reached.tickWhenRunning.driveSpeaker
  obtain ⟨same, _, halting⟩ := guarded_eq reached.endCycle
  unfold endCycle at same halting ⊢
  generalize reached.tickWhenRunning = ticked at *
  generalize ticked.driveSpeaker = spoken at *
  generalize spoken.render = rendered at *
  generalize guarded rendered = outcome at *
  subst ticking speaking
  rw [result] at same halting
  rw [shown] at halting
  have mode : outcome.state.mode =
      if (Screen.render reached.screen).answer.isOk then reached.mode else .halted := by
    rw [halting]
    cases (Screen.render reached.screen).answer <;> rfl
  exact {
    result := same
    core := by rw [halting]; rfl
    delay := by rw [halting]; exact delayed
    sound := by rw [halting]; exact sounded
    mode := mode
    screen := by rw [halting]; rfl
    keypad := by rw [halting]; rfl
    settings := by rw [halting]; rfl
    speaker := by rw [halting]; rfl
    toneLost := by rw [halting]; rfl }

end Closing

variable [Screen δ] [Keypad κ] [Speaker τ]

/-- How a cycle of a machine ends. A running machine is stepped, and unless a step has failed the
cycle is closed. A waiting machine takes one press first: it goes on with a cycle if that is the
press of a key, and else closes the cycle without a step. -/
inductive CycleEnd : Machine δ κ τ → Outcome (Machine δ κ τ) Unit → Prop where
  | refused {m : Machine δ κ τ} (halted : m.mode = .halted) : CycleEnd m (.failed .halted m)
  | faulted {m stopped : Machine δ κ τ} {fault : Fault} (running : m.mode = .running)
      (cut : steps (max m.settings.speed 1) m = .failed fault stopped)
      (stepped : Stepped m stopped) : CycleEnd m (.failed fault stopped)
  | closed {m reached : Machine δ κ τ} {outcome : Outcome (Machine δ κ τ) Unit}
      (running : m.mode = .running) (run : steps (max m.settings.speed 1) m = .done () reached)
      (stepped : Stepped m reached) (closed : Closed reached outcome) : CycleEnd m outcome
  | unheard {m : Machine δ κ τ} {x : Register} {error : DeviceError} (waiting : m.mode = .awaiting x)
      (broken : (Keypad.takePress m.keypad).answer = .error error) (journal : Journal) :
      CycleEnd m (.failed (.device error) { m with
        mode := .halted, keypad := (Keypad.takePress m.keypad).device, journal })
  | resumed {m resumed : Machine δ κ τ} {x : Register} {key : UInt8}
      {outcome : Outcome (Machine δ κ τ) Unit} (waiting : m.mode = .awaiting x)
      (taken : (Keypad.takePress m.keypad).answer = .ok (some key)) (isKey : key ≤ 0xf)
      (heard : (m.afterKeypad (Keypad.takePress m.keypad)).pressKey key = (true, resumed))
      (running : resumed.mode = .running) (rest : CycleEnd resumed outcome) : CycleEnd m outcome
  | waited {m : Machine δ κ τ} {x : Register} {press : Option UInt8}
      {outcome : Outcome (Machine δ κ τ) Unit} (waiting : m.mode = .awaiting x)
      (taken : (Keypad.takePress m.keypad).answer = .ok press)
      (noKey : ∀ key, press = some key → 0xf < key) (journal : Journal)
      (closed : Closed { m with keypad := (Keypad.takePress m.keypad).device, journal } outcome) :
      CycleEnd m outcome

/-- What a cycle does after its poll. -/
private def afterPoll (m : Machine δ κ τ) : Outcome (Machine δ κ τ) Unit :=
  guarded ((m.batch m.batchSize).andThen fun _ m => m.endCycle)

private theorem cycleEnd_of_running {m : Machine δ κ τ} (running : m.mode = .running) :
    CycleEnd m m.afterPoll := by
  have awake : m.mode ≠ .halted := by
    rw [running]
    nofun
  have same := guarded_batch m.batchSize awake
  have stepped := stepped_steps m.batchSize m
  unfold afterPoll
  cases batched : m.batch m.batchSize with
  | failed fault stopped =>
    rw [batched] at same
    rw [← same] at stepped
    exact .faulted running same.symm stepped
  | done value reached =>
    rw [batched] at same
    rw [← same] at stepped
    exact .closed running same.symm stepped (closed_endCycle reached)

private theorem closed_of_waiting {m : Machine δ κ τ} {x : Register}
    (waiting : m.mode = .awaiting x) : Closed m m.afterPoll := by
  have idle : m.mode ≠ .running := by
    rw [waiting]
    nofun
  rw [afterPoll, batch_of_idle _ idle]
  exact closed_endCycle m

private theorem cycleEnd_of_press {m : Machine δ κ τ} {x : Register} {key : UInt8}
    (waiting : m.mode = .awaiting x)
    (taken : (Keypad.takePress m.keypad).answer = .ok (some key)) :
    CycleEnd m ((m.afterKeypad (Keypad.takePress m.keypad)).pressKey key).2.afterPoll := by
  have asked : (m.afterKeypad (Keypad.takePress m.keypad)).mode = .awaiting x := waiting
  by_cases isKey : key ≤ 0xf
  · have low : ¬ 0xf < key := UInt8.not_lt.mpr isKey
    have heard : (m.afterKeypad (Keypad.takePress m.keypad)).pressKey key =
        (true, ((m.afterKeypad (Keypad.takePress m.keypad)).pressKey key).2) := by
      simp only [pressKey, if_neg low, asked]
    have running : ((m.afterKeypad (Keypad.takePress m.keypad)).pressKey key).2.mode =
        .running := by
      simp only [pressKey, if_neg low, asked]
    exact .resumed waiting taken isKey heard running (cycleEnd_of_running running)
  · have high : 0xf < key := UInt8.not_le.mp isKey
    have ignored : ((m.afterKeypad (Keypad.takePress m.keypad)).pressKey key).2 =
        (m.afterKeypad (Keypad.takePress m.keypad)).note (.noSuchKey key) := by
      simp only [pressKey, if_pos high]
    have noKey : ∀ other, some key = some other → 0xf < other := by
      intro other same
      cases same
      exact high
    rw [ignored]
    exact .waited waiting taken noKey _ (closed_of_waiting asked)

/-- Every cycle ends in one of the listed ways, whatever the machine and its devices do. -/
theorem cycle_ends (m : Machine δ κ τ) : CycleEnd m m.cycle := by
  have polled : m.cycle = guarded ((m.pollKey.andThen fun _ m => m.batch m.batchSize).andThen
    fun _ m => m.endCycle) := rfl
  rw [polled]
  cases mode : m.mode with
  | halted =>
    have stays : m.halt .halted = m := by simp only [halt, mode]
    simp only [pollKey, mode, Outcome.andThen_failed, guarded, stays]
    exact .refused mode
  | running =>
    simp only [pollKey, mode]
    exact cycleEnd_of_running mode
  | awaiting x =>
    simp only [pollKey, mode]
    cases answer : (Keypad.takePress m.keypad).answer with
    | error error =>
      simp only [Outcome.andThen_failed, guarded]
      rw [halt_eq]
      exact .unheard mode answer _
    | ok press =>
      cases press with
      | none =>
        have noKey : ∀ key, (none : Option UInt8) = some key → 0xf < key := by
          intro key same
          cases same
        exact .waited mode answer noKey _ (closed_of_waiting mode)
      | some key => exact cycleEnd_of_press mode answer

/-- Runs `count` cycles, or as many as there are before the first fault. -/
def cycles : Nat → Machine δ κ τ → Outcome (Machine δ κ τ) Unit
  | 0, m => finish m
  | count + 1, m => m.cycle.andThen fun _ m => cycles count m

theorem cycles_succ {count : Nat} {m last : Machine δ κ τ}
    (done : cycles (count + 1) m = .done () last) :
    ∃ next, m.cycle = .done () next ∧ cycles count next = .done () last := by
  unfold cycles at done
  cases outcome : m.cycle with
  | done value next =>
    rw [outcome] at done
    exact ⟨next, rfl, done⟩
  | failed fault stopped =>
    rw [outcome] at done
    cases done

/-- All cycles finish, or one of them is the first that does not. -/
theorem cycles_end (count : Nat) (m : Machine δ κ τ) :
    (∃ last, cycles count m = .done () last) ∨ ∃ k before fault stopped, k < count ∧
      cycles k m = .done () before ∧ before.cycle = .failed fault stopped := by
  induction count generalizing m with
  | zero => exact .inl ⟨m, rfl⟩
  | succ count ih =>
    cases outcome : m.cycle with
    | failed fault stopped =>
      exact .inr ⟨0, m, fault, stopped, Nat.succ_pos count, rfl, outcome⟩
    | done value next =>
      rcases ih next with ⟨last, done⟩ | ⟨k, before, fault, stopped, early, done, failed⟩
      · left
        refine ⟨last, ?_⟩
        simp only [cycles, outcome, Outcome.andThen_done, done]
      · right
        refine ⟨k + 1, before, fault, stopped, Nat.succ_lt_succ early, ?_, failed⟩
        simp only [cycles, outcome, Outcome.andThen_done, done]

end Machine

end Chip8
