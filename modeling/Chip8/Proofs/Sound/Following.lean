import Chip8.Proofs.Machine.Halting
import Chip8.Proofs.Machine.Life

/-! The tone follows the sound timer. A cycle that comes through its instructions brings the speaker
in line with the timer once, and nothing else touches the speaker. What these updates have seen of
the timer tells of a mute speaker which tone it has and how many it has started, up to the first
call that fails; with that the speaker is given up. -/
namespace Chip8

variable {δ κ τ : Type}

/-- How often a timer above zero follows one at zero, given the one before the first. -/
def rises : (before : UInt8) → List UInt8 → Nat
  | _, [] => 0
  | before, sound :: rest => (if before = 0 ∧ 0 < sound then 1 else 0) + rises sound rest

private theorem rises_concat (before : UInt8) (sounds : List UInt8) (sound : UInt8) :
    rises before (sounds ++ [sound]) =
      rises before sounds + if sounds.getLastD before = 0 ∧ 0 < sound then 1 else 0 := by
  induction sounds generalizing before with
  | nil => exact Nat.add_comm _ _
  | cons first rest ih =>
    rw [List.cons_append, rises, rises, ih, List.getLastD_cons, Nat.add_assoc]

namespace MuteSpeaker

/-- Whether two speakers have the same tone, or none, and have started as many. -/
structure SoundsAs (speaker other : MuteSpeaker) : Prop where
  tone : speaker.tone = other.tone
  starts : speaker.starts = other.starts

theorem SoundsAs.trans {first second third : MuteSpeaker} (before : first.SoundsAs second)
    (after : second.SoundsAs third) : first.SoundsAs third :=
  ⟨before.tone.trans after.tone, before.starts.trans after.starts⟩

variable {speaker : MuteSpeaker}

private theorem of_play {hz : UInt16} (fine : (Speaker.play speaker hz).answer.isOk) :
    (Speaker.play speaker hz).device.tone = some (speaker.tone.getD hz) ∧
      (Speaker.play speaker hz).device.starts =
        speaker.starts + if speaker.tone = none then 1 else 0 := by
  obtain ⟨tone, starts, playFailure, stopFailure⟩ := speaker
  cases playFailure with
  | some error => cases fine
  | none => cases tone <;> exact ⟨rfl, rfl⟩

private theorem of_stop (fine : (Speaker.stop speaker).answer.isOk) :
    (Speaker.stop speaker).device.tone = none ∧
      (Speaker.stop speaker).device.starts = speaker.starts := by
  obtain ⟨tone, starts, playFailure, stopFailure⟩ := speaker
  cases stopFailure with
  | some error => cases fine
  | none => exact ⟨rfl, rfl⟩

private theorem play_of_broken {hz : UInt16}
    (broken : (Speaker.play speaker hz).answer.isOk = false) :
    (Speaker.play speaker hz).device = speaker := by
  obtain ⟨tone, starts, playFailure, stopFailure⟩ := speaker
  cases playFailure with
  | some error => rfl
  | none => cases tone <;> cases broken

private theorem stop_of_broken (broken : (Speaker.stop speaker).answer.isOk = false) :
    (Speaker.stop speaker).device = speaker := by
  obtain ⟨tone, starts, playFailure, stopFailure⟩ := speaker
  cases stopFailure with
  | some error => rfl
  | none => cases broken

end MuteSpeaker

namespace Machine

/-- What a machine is when it brings its speaker in line with the sound timer in the cycle that it
begins, if it comes that far. -/
def atUpdate? [Screen δ] [Keypad κ] (m : Machine δ κ τ) : Option (Machine δ κ τ) :=
  match m.pollKey.andThen fun _ m => m.batch m.batchSize with
  | .done _ reached => some reached.tickWhenRunning
  | .failed _ _ => none

/-- The machines at the sound updates of cycles that begin at the given ones. -/
def updates [Screen δ] [Keypad κ] (starts : List (Machine δ κ τ)) : List (Machine δ κ τ) :=
  starts.filterMap atUpdate?

/-- Whether a machine asks its speaker for a tone or for silence and is refused. -/
def losesTone [Speaker τ] (m : Machine δ κ τ) : Bool :=
  !m.toneLost && !(m.toneReply m.sound).answer.isOk

section Cycles

variable [Screen δ] [Keypad κ]

private theorem stepped_pollKey (m : Machine δ κ τ) : Stepped m m.pollKey.state := by
  unfold pollKey
  split
  · exact .of_eq rfl rfl rfl rfl
  · exact .of_eq rfl rfl rfl rfl
  · have asked : Stepped m (m.afterKeypad (Keypad.takePress m.keypad)) := .of_eq rfl rfl rfl rfl
    dsimp only
    split
    · exact asked
    · exact asked
    · exact asked.trans (stepped_pressKey _ _)

private theorem stepped_batch (count : Nat) (m : Machine δ κ τ) :
    Stepped m (m.batch count).state := by
  induction count generalizing m with
  | zero => exact .of_eq rfl rfl rfl rfl
  | succ count ih =>
    unfold batch
    split
    · have first := stepped_fetchAndExecute m
      cases outcome : m.fetchAndExecute with
      | done value after =>
        rw [outcome] at first
        exact first.trans (ih after)
      | failed fault after =>
        rw [outcome] at first
        exact first
    · exact .of_eq rfl rfl rfl rfl

private theorem stepped_batched (m : Machine δ κ τ) :
    Stepped m (m.pollKey.andThen fun _ m => m.batch m.batchSize).state := by
  have polled := stepped_pollKey m
  cases outcome : m.pollKey with
  | done value after =>
    rw [outcome] at polled
    exact polled.trans (stepped_batch _ after)
  | failed fault after =>
    rw [outcome] at polled
    exact polled

variable [Speaker τ]

/-- A cycle with a sound update has only stepped before it, and only shows the screen after it. -/
private theorem cycle_of_update {m update : Machine δ κ τ} (found : m.atUpdate? = some update) :
    Stepped m update ∧ m.cycle = guarded update.driveSpeaker.render := by
  have batched := stepped_batched m
  unfold atUpdate? at found
  unfold cycle
  cases outcome : m.pollKey.andThen fun _ m => m.batch m.batchSize with
  | done value reached =>
    rw [outcome] at found batched
    cases found
    obtain ⟨delay, sound, ticked, _⟩ := reached.tickWhenRunning_eq
    refine ⟨?_, rfl⟩
    rw [ticked]
    exact batched.trans (.of_eq rfl rfl rfl rfl)
  | failed fault left =>
    rw [outcome] at found
    cases found

/-- A cycle without one fails where steps fail. -/
private theorem cycle_of_none {m : Machine δ κ τ} (none : m.atUpdate? = none) :
    m.cycle.result.isOk = false ∧ Stepped m m.cycle.state := by
  have batched := stepped_batched m
  unfold atUpdate? at none
  unfold cycle
  cases outcome : m.pollKey.andThen fun _ m => m.batch m.batchSize with
  | done value reached =>
    rw [outcome] at none
    cases none
  | failed fault left =>
    rw [outcome] at batched
    exact ⟨rfl, batched.halt fault⟩

end Cycles

section Mute

/-- What is not heard: all that happens to a machine but sound updates. -/
structure Silently (m after : Machine δ κ MuteSpeaker) : Prop where
  speaker : after.speaker.SoundsAs m.speaker
  toneLost : after.toneLost = m.toneLost
  settings : after.settings = m.settings

theorem Silently.of_stepped [Screen δ] {m after : Machine δ κ MuteSpeaker}
    (stepped : Stepped m after) : Silently m after where
  speaker := by
    rw [stepped.speaker]
    exact ⟨rfl, rfl⟩
  toneLost := stepped.toneLost
  settings := stepped.settings

theorem Silently.refl (m : Machine δ κ MuteSpeaker) : Silently m m := ⟨⟨rfl, rfl⟩, rfl, rfl⟩

theorem Silently.trans {first second third : Machine δ κ MuteSpeaker}
    (before : Silently first second) (after : Silently second third) : Silently first third where
  speaker := after.speaker.trans before.speaker
  toneLost := after.toneLost.trans before.toneLost
  settings := after.settings.trans before.settings

/-- Whether the screen is shown or fails makes no difference to the sound. -/
private theorem silently_render [Screen δ] (m : Machine δ κ MuteSpeaker) :
    Silently m (guarded m.render).state ∧ (guarded m.render).state.sound = m.sound := by
  unfold render
  dsimp only
  split
  · exact ⟨⟨⟨rfl, rfl⟩, rfl, rfl⟩, rfl⟩
  · simp only [guarded, Outcome.state]
    rw [halt_eq]
    exact ⟨⟨⟨rfl, rfl⟩, rfl, rfl⟩, rfl⟩

/-- Whether a machine in use sounds as updates have left it that saw `sounds` of the timer. -/
structure InTune (tone : UInt16) (sounds : List UInt8) (m : Machine δ κ MuteSpeaker) : Prop where
  setting : m.settings.tone = tone
  toneLost : m.toneLost = false
  sounding : m.speaker.tone = if 0 < sounds.getLastD 0 then some tone else none
  starts : m.speaker.starts = rises 0 sounds

variable {tone : UInt16} {sounds : List UInt8} {m update : Machine δ κ MuteSpeaker}

theorem InTune.silently {after : Machine δ κ MuteSpeaker} (inTune : InTune tone sounds m)
    (silently : Silently m after) : InTune tone sounds after where
  setting := by rw [silently.settings, inTune.setting]
  toneLost := by rw [silently.toneLost, inTune.toneLost]
  sounding := by rw [silently.speaker.tone, inTune.sounding]
  starts := by rw [silently.speaker.starts, inTune.starts]

private theorem InTune.toneReply (inTune : InTune tone sounds m)
    (fine : (m.toneReply m.sound).answer.isOk) :
    (m.toneReply m.sound).device.tone = (if 0 < m.sound then some tone else none) ∧
      (m.toneReply m.sound).device.starts = rises 0 (sounds ++ [m.sound]) := by
  obtain ⟨setting, _, sounding, starts⟩ := inTune
  rw [rises_concat, ← starts]
  generalize sounds.getLastD 0 = before at sounding ⊢
  unfold Machine.toneReply at fine ⊢
  by_cases positive : 0 < m.sound
  · rw [if_pos positive] at fine ⊢
    obtain ⟨played, started⟩ := MuteSpeaker.of_play fine
    rw [played, started, setting, sounding, if_pos positive]
    by_cases zero : before = 0
    · simp [zero, positive]
    · have sounded : 0 < before := UInt8.pos_iff_ne_zero.mpr zero
      simp [zero, sounded]
  · rw [if_neg positive] at fine ⊢
    obtain ⟨stopped, started⟩ := MuteSpeaker.of_stop fine
    rw [stopped, started, if_neg positive]
    simp [positive]

/-- An update that is not refused keeps a machine in tune. -/
private theorem InTune.driveSpeaker (inTune : InTune tone sounds m) (fine : m.losesTone = false) :
    InTune tone (sounds ++ [m.sound]) m.driveSpeaker := by
  obtain ⟨journal, driven⟩ := m.driveSpeaker_eq
  have answered : (m.toneReply m.sound).answer.isOk = true := by
    unfold losesTone at fine
    rw [inTune.toneLost] at fine
    simpa using fine
  obtain ⟨sounding, starts⟩ := inTune.toneReply answered
  rw [driven, inTune.toneLost, answered]
  exact ⟨inTune.setting, rfl, by rw [List.getLastD_concat]; exact sounding, starts⟩

private theorem driveSpeaker_of_lost (lost : m.toneLost = true) : m.driveSpeaker = m := by
  simp only [driveSpeaker, lost, if_true]

/-- An update that is refused gives the speaker up as it is. -/
private theorem lost_of_losesTone (loses : m.losesTone = true) :
    m.driveSpeaker.toneLost = true ∧ m.driveSpeaker.speaker = m.speaker := by
  unfold losesTone at loses
  rw [Bool.and_eq_true, Bool.not_eq_true', Bool.not_eq_true'] at loses
  obtain ⟨inUse, refused⟩ := loses
  obtain ⟨journal, driven⟩ := m.driveSpeaker_eq
  rw [driven, inUse, refused]
  refine ⟨rfl, ?_⟩
  change (m.toneReply m.sound).device = m.speaker
  unfold toneReply at refused ⊢
  split
  · rename_i positive
    rw [if_pos positive] at refused
    exact MuteSpeaker.play_of_broken refused
  · rename_i positive
    rw [if_neg positive] at refused
    exact MuteSpeaker.stop_of_broken refused

section Lives

variable [Screen δ] [Keypad κ] {last : Machine δ κ MuteSpeaker}
  {starts : List (Machine δ κ MuteSpeaker)}

private theorem InTune.cycle (inTune : InTune tone sounds m) (found : m.atUpdate? = some update)
    (fine : update.losesTone = false) : InTune tone (sounds ++ [update.sound]) m.cycle.state := by
  obtain ⟨stepped, cycle⟩ := cycle_of_update found
  have before := inTune.silently (.of_stepped stepped)
  rw [cycle]
  exact (before.driveSpeaker fine).silently (silently_render _).1

private theorem InTune.life (inTune : InTune tone sounds m) (life : Life Silently m starts last)
    (fine : ∀ update ∈ updates starts, update.losesTone = false) :
    InTune tone (sounds ++ (updates starts).map (·.sound)) last := by
  induction life generalizing sounds with
  | still =>
    rw [updates, List.filterMap_nil, List.map_nil, List.append_nil]
    exact inTune
  | aside change _ ih => exact ih (inTune.silently change) fine
  | @cycled m last starts _ ih =>
    unfold updates at fine ih ⊢
    cases found : m.atUpdate? with
    | none =>
      rw [List.filterMap_cons_none found] at fine ⊢
      exact ih (inTune.silently (.of_stepped (cycle_of_none found).2)) fine
    | some update =>
      rw [List.filterMap_cons_some found, List.forall_mem_cons] at fine
      rw [List.filterMap_cons_some found, List.map_cons, List.append_cons]
      exact ih (inTune.cycle found fine.1) fine.2

/-- A machine whose speaker was given up runs its cycles in silence. -/
private theorem silently_cycle (lost : m.toneLost = true) : Silently m m.cycle.state := by
  cases found : m.atUpdate? with
  | none => exact .of_stepped (cycle_of_none found).2
  | some update =>
    obtain ⟨stepped, cycle⟩ := cycle_of_update found
    have silently := Silently.of_stepped stepped
    rw [cycle, driveSpeaker_of_lost (silently.toneLost.trans lost)]
    exact silently.trans (silently_render update).1

private theorem Silently.life (life : Life Silently m starts last) (lost : m.toneLost = true) :
    Silently m last ∧ ∀ next ∈ starts, Silently m next := by
  induction life with
  | still => exact ⟨.refl _, List.forall_mem_nil _⟩
  | aside change _ ih =>
    obtain ⟨after, cycles⟩ := ih (change.toneLost.trans lost)
    exact ⟨change.trans after, fun next listed => change.trans (cycles next listed)⟩
  | cycled _ ih =>
    have cycle := silently_cycle lost
    obtain ⟨after, cycles⟩ := ih (cycle.toneLost.trans lost)
    refine ⟨cycle.trans after, List.forall_mem_cons.mpr ⟨.refl _, ?_⟩⟩
    exact fun next listed => cycle.trans (cycles next listed)

/-- Up to the next cycle, or to the end, nothing is heard. -/
private theorem silently_head (life : Life Silently m starts last) :
    Silently m (starts.head?.getD last) := by
  induction life with
  | still => exact .refl _
  | aside change _ ih => exact change.trans ih
  | cycled => exact .refl _

/-- What becomes of the tone in the cycle at `start`, after the earlier cycles of a history and
before the later ones and its `last` machine. -/
structure TunedCycle (tone : UInt16) (earlier : List (Machine δ κ MuteSpeaker))
    (start : Machine δ κ MuteSpeaker) (later : List (Machine δ κ MuteSpeaker))
    (last : Machine δ κ MuteSpeaker) : Prop where
  -- Without a sound update the cycle fails and leaves the speaker alone.
  skips (none : start.atUpdate? = none) : start.cycle.result.isOk = false ∧
    start.cycle.state.speaker = start.speaker
  -- With one it leaves the speaker alone up to the update, and shows the screen after it.
  shows {update : Machine δ κ MuteSpeaker} (found : start.atUpdate? = some update) :
    update.speaker = start.speaker ∧ start.cycle = guarded update.driveSpeaker.render
  -- Unless an update up to this one was refused, the tone then follows the timer.
  follows {update : Machine δ κ MuteSpeaker} (found : start.atUpdate? = some update)
    (fine : ∀ other ∈ updates (earlier ++ [start]), other.losesTone = false) :
    (start.cycle.state.isSounding ↔ 0 < start.cycle.state.sound) ∧
      start.cycle.state.speaker.tone =
        (if 0 < start.cycle.state.sound then some tone else none) ∧
      start.cycle.state.speaker.starts =
        rises 0 ((updates (earlier ++ [start])).map (·.sound))
  -- Up to the next cycle, or to the end, the speaker sounds as this one left it.
  stays : (later.head?.getD last).speaker.SoundsAs start.cycle.state.speaker
  -- A refused update is the last that asks the speaker anything, and the last to be heard.
  ceases {update : Machine δ κ MuteSpeaker} (found : start.atUpdate? = some update)
    (loses : update.losesTone = true) :
    last.speaker.SoundsAs start.speaker ∧ start.cycle.state.speaker.SoundsAs start.speaker ∧
      ∀ next ∈ later, next.speaker.SoundsAs start.speaker ∧
        next.cycle.state.speaker.SoundsAs start.speaker ∧
        ∀ unasked, next.atUpdate? = some unasked → unasked.driveSpeaker = unasked

private theorem updates_concat (earlier : List (Machine δ κ MuteSpeaker))
    {start : Machine δ κ MuteSpeaker} (found : start.atUpdate? = some update) :
    updates (earlier ++ [start]) = updates earlier ++ [update] := by
  rw [updates, List.filterMap_append, List.filterMap_cons_some found, List.filterMap_nil]
  rfl

private theorem sound_of_update (found : m.atUpdate? = some update) :
    m.cycle.state.sound = update.sound := by
  have core := congrArg Core.sound (toCore_driveSpeaker update)
  rw [(cycle_of_update found).2, (silently_render update.driveSpeaker).2, core]

private theorem InTune.follows {earlier : List (Machine δ κ MuteSpeaker)}
    {start : Machine δ κ MuteSpeaker} (inTune : InTune tone [] m)
    (life : Life Silently m earlier start) (found : start.atUpdate? = some update)
    (fine : ∀ other ∈ updates (earlier ++ [start]), other.losesTone = false) :
    InTune tone ((updates (earlier ++ [start])).map (·.sound)) start.cycle.state ∧
      ((updates (earlier ++ [start])).map (·.sound)).getLastD 0 = start.cycle.state.sound := by
  rw [updates_concat earlier found] at fine ⊢
  rw [List.forall_mem_append] at fine
  have before := inTune.life life fine.1
  rw [List.nil_append] at before
  have after := before.cycle found (fine.2 update List.mem_cons_self)
  rw [List.map_append, List.map_singleton, List.getLastD_concat, sound_of_update found]
  exact ⟨after, rfl⟩

/-- A refused update gives the speaker up for the rest of the history. -/
private theorem ceases_of_life {start : Machine δ κ MuteSpeaker}
    (life : Life Silently start.cycle.state starts last)
    (found : start.atUpdate? = some update) (loses : update.losesTone = true) :
    Silently start.cycle.state last ∧ start.cycle.state.speaker.SoundsAs start.speaker ∧
      ∀ next ∈ starts, Silently start.cycle.state next ∧ next.toneLost = true := by
  obtain ⟨stepped, cycle⟩ := cycle_of_update found
  have before := Silently.of_stepped stepped
  have after := (silently_render update.driveSpeaker).1
  rw [← cycle] at after
  obtain ⟨lost, same⟩ := lost_of_losesTone loses
  have sounds := after.speaker
  rw [same] at sounds
  have lost := after.toneLost.trans lost
  obtain ⟨silence, cycles⟩ := Silently.life life lost
  refine ⟨silence, sounds.trans before.speaker, ?_⟩
  intro next listed
  exact ⟨cycles next listed, (cycles next listed).toneLost.trans lost⟩

end Lives

end Mute

section Histories

variable [Screen δ] [Keypad κ]

/-- Over every history of a new machine with a mute speaker the tone follows the sound timer from
update to update, until the speaker refuses one. -/
theorem tone_follows_timer {m : Machine δ κ MuteSpeaker} (new : m.IsNew)
    (silent : m.speaker.tone = none) (unused : m.speaker.starts = 0)
    {actions : List (Action δ κ MuteSpeaker)}
    (untouched : ∀ change, .speaker change ∈ actions →
      ∀ speaker : MuteSpeaker, (change speaker).SoundsAs speaker)
    {earlier later : List (Machine δ κ MuteSpeaker)} {start : Machine δ κ MuteSpeaker}
    (parted : m.cyclesOver actions = earlier ++ start :: later) :
    TunedCycle m.settings.tone earlier start later (m.performAll actions) := by
  have inUse : m.toneLost = false := by
    obtain ⟨settings, screen, keypad, speaker, journal, random, same⟩ := new
    rw [same]
    rfl
  have inTune : InTune m.settings.tone [] m := ⟨rfl, inUse, silent, unused⟩
  have life : Life Silently m (m.cyclesOver actions) (m.performAll actions) :=
    life_performAll (fun _ _ stepped => .of_stepped stepped) m
      (fun _ _ m => ⟨⟨rfl, rfl⟩, rfl, rfl⟩)
      fun change listed m => ⟨untouched change listed m.speaker, rfl, rfl⟩
  rw [parted] at life
  obtain ⟨before, after⟩ := life.split
  exact {
    skips none := by
      obtain ⟨failed, stepped⟩ := cycle_of_none none
      exact ⟨failed, stepped.speaker⟩
    shows {update} found := by
      obtain ⟨stepped, cycle⟩ := cycle_of_update found
      exact ⟨stepped.speaker, cycle⟩
    stays := (silently_head after).speaker
    follows {update} found fine := by
      obtain ⟨after, latest⟩ := inTune.follows before found fine
      have sounding := after.sounding
      have plays : start.cycle.state.isSounding = start.cycle.state.speaker.tone.isSome := rfl
      rw [latest] at sounding
      rw [plays, sounding, Option.isSome_ite]
      exact ⟨Iff.rfl, rfl, after.starts⟩
    ceases {update} found loses := by
      obtain ⟨ends, sounds, cycles⟩ := ceases_of_life after found loses
      refine ⟨ends.speaker.trans sounds, sounds, ?_⟩
      intro next listed
      obtain ⟨silently, lost⟩ := cycles next listed
      have same := silently.speaker.trans sounds
      refine ⟨same, (silently_cycle lost).speaker.trans same, ?_⟩
      intro unasked found
      exact driveSpeaker_of_lost ((cycle_of_update found).1.toneLost.trans lost) }

end Histories

def piper : Machine (HeadlessScreen Grid.standard) ScriptedKeypad MuteSpeaker :=
  create { speed := 1 } (HeadlessScreen.blank Grid.standard) {} {}

/-- Sets the sound timer to two in the second of four cycles. The speaker refuses to stop in the
third, and would not in the fourth. -/
def air : List (Action (HeadlessScreen Grid.standard) ScriptedKeypad MuteSpeaker) :=
  [.load [0x60, 0x02, 0xf0, 0x18, 0x12, 0x04], .cycle, .cycle,
    .speaker fun speaker => { speaker with stopFailure := some (.reported "stop failed") }, .cycle,
    .speaker fun speaker => { speaker with stopFailure := none }, .cycle]

/-- The tone starts with the second cycle and sounds for good, although the timer runs out. -/
theorem piper_in_tune :
    let after := fun n => piper.performAll (air.take n)
    let last := piper.performAll air
    piper.IsNew ∧ piper.cyclesOver air = [after 1, after 2, after 4, after 6] ∧
      TunedCycle 440 [after 1] (after 2) [after 4, after 6] last ∧
      TunedCycle 440 [after 1, after 2] (after 4) [after 6] last ∧
      (after 2).cycle.state.isSounding = true ∧ (after 2).cycle.state.sound = 1 ∧
      (after 4).atUpdate?.any losesTone = true ∧ last.isSounding = true ∧ last.sound = 0 := by
  intro after last
  have new : piper.IsNew := isNew_create ..
  have untouched : ∀ change, .speaker change ∈ air →
      ∀ speaker : MuteSpeaker, (change speaker).SoundsAs speaker := by
    intro change listed speaker
    simp only [air, List.mem_cons, Action.speaker.injEq, List.not_mem_nil, reduceCtorEq, false_or,
      or_false] at listed
    rcases listed with rfl | rfl <;> exact ⟨rfl, rfl⟩
  have parted : piper.cyclesOver air = [after 1, after 2, after 4, after 6] := by
    simp only [after, air, cyclesOver, cyclesIn, performAll, List.take_succ_cons, List.take_zero,
      List.foldl_cons, List.foldl_nil, List.nil_append, List.cons_append]
  have second : TunedCycle 440 [after 1] (after 2) [after 4, after 6] last :=
    tone_follows_timer new rfl rfl untouched parted
  have third : TunedCycle 440 [after 1, after 2] (after 4) [after 6] last :=
    tone_follows_timer new rfl rfl untouched parted
  have runs : (after 2).cycle.state.isSounding = true ∧ (after 2).cycle.state.sound = 1 ∧
      (after 4).atUpdate?.any losesTone = true ∧ last.isSounding = true ∧ last.sound = 0 := by
    decide +kernel
  exact ⟨new, parted, second, third, runs⟩

end Machine

end Chip8
