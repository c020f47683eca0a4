import Mathlib.Data.List.Forall2
import Chip8.Proofs.Machine.Correspondence
import Chip8.Proofs.Machine.Trace

namespace Chip8

variable {δ κ τ τ' α : Type}

/-- The same action on a machine with another speaker. Where something happens to the first speaker,
something else may happen to the other. -/
def Action.revoice (change : τ' → τ') : Action δ κ τ → Action δ κ τ'
  | .load program => .load program
  | .loadFrom source => .loadFrom source
  | .step => .step
  | .cycle => .cycle
  | .run frames => .run frames
  | .tick => .tick
  | .pressKey key => .pressKey key
  | .screen change => .screen change
  | .keypad change => .keypad change
  | .speaker _ => .speaker change

/-- Whether two actions are the same, or each of them happens to a speaker. -/
def Action.SameButSound (action : Action δ κ τ) (action' : Action δ κ τ') : Prop :=
  ∃ change, action' = action.revoice change

namespace Machine

/-- Whether two machines are the same but for the speaker, what is remembered of its failure, the
tone, and the journal. -/
structure SameButSound (m : Machine δ κ τ) (m' : Machine δ κ τ') : Prop where
  core : m'.toCore = m.toCore
  screen : m'.screen = m.screen
  keypad : m'.keypad = m.keypad
  settings : m'.settings = { m.settings with tone := m'.settings.tone }

end Machine

variable [Screen δ] [Keypad κ]

/-- Machines with any speakers and tones. -/
def unheard (δ κ τ τ' : Type) [Screen δ] [Keypad κ] : Correspondence δ κ τ δ κ τ' where
  screens := Eq
  keypads := Eq
  speakers _ _ _ _ := True
  timers := Eq
  settings settings settings' := settings' = { settings with tone := settings'.tone }
  journals := anyJournals
  timer _ := rfl
  inclusive similar := by rw [similar]
  record _ _ _ := trivial
  clear := @clear_of_eq δ _
  toggle := @toggle_of_eq δ _
  isPressed := @isPressed_of_eq κ _
  takePress := @takePress_of_eq κ _
  discardPresses := @discardPresses_of_eq κ _

variable {m : Machine δ κ τ} {m' : Machine δ κ τ'}

theorem unheard_iff : (unheard δ κ τ τ').Alike m m' ↔ m.SameButSound m' := by
  constructor
  · intro alike
    cases alike with
    | intro memory v i pc stack mode random delays sounds screens keypads speakers similar =>
      exact ⟨by rw [delays, sounds], screens.symm, keypads.symm, similar⟩
  · rintro ⟨core, screen, keypad, settings⟩
    cases m
    cases m'
    cases core
    exact .intro _ _ _ _ _ _ _ rfl rfl screen.symm keypad.symm trivial settings trivial

/-- Whether two outcomes are those of machines that differ in their speakers and tones alone. -/
abbrev Outcome.SameButSound : Outcome (Machine δ κ τ) α → Outcome (Machine δ κ τ') α → Prop :=
  (unheard δ κ τ τ').Outcomes

section Speakers

variable [Speaker τ] [Speaker τ']

private theorem inStep_unheard : (unheard δ κ τ τ').InStep where
  timers same := same
  speed similar := by rw [similar]
  render same := .of_eq (congrArg Screen.render same)
  driveSpeaker {m m'} alike := by
    -- Whatever the speakers answer, and whether they are asked or not.
    obtain ⟨_, driven⟩ := m.driveSpeaker_eq
    obtain ⟨_, driven'⟩ := m'.driveSpeaker_eq
    rw [driven, driven']
    exact alike.voiced trivial trivial

private theorem runFrom_unheard (alike : (unheard δ κ τ τ').Alike m m') (limit count : Nat) :
    Outcome.SameButSound (m.runFrom limit count) (m'.runFrom limit count) := by
  induction limit generalizing count m m' with
  | zero => exact .done count alike
  | succ limit ih =>
    have replies : (Keypad.wantsExit m.keypad).Alike Eq anyJournals (Keypad.wantsExit m'.keypad) :=
      .of_eq (congrArg Keypad.wantsExit alike.keypads)
    have asked := alike.afterKeypad replies
    simp only [Machine.runFrom, replies.answer]
    split
    · exact .done count (asked.note rfl)
    · exact (inStep_unheard.cycle rfl asked).andThen fun _ _ _ alike => ih alike _

omit [Speaker τ] [Speaker τ'] in
private theorem load_unheard (alike : (unheard δ κ τ τ').Alike m m') (program : List UInt8) :
    Outcome.SameButSound (m.load program) (m'.load program) := by
  have same := alike
  cases alike with
  | intro memory =>
    simp only [Machine.load]
    cases memory.load program with
    | error fault => exact .failed fault same
    | ok memory =>
      have minor : (Event.programLoaded program.length memory.programStart.val).isMinor := rfl
      have noted := same.note minor
      cases noted
      exact .done () (by constructor <;> assumption)

omit [Speaker τ] [Speaker τ'] in
private theorem loadFrom_unheard (alike : (unheard δ κ τ τ').Alike m m') (source : Source) :
    Outcome.SameButSound (m.loadFrom source) (m'.loadFrom source) := by
  unfold Machine.loadFrom
  cases source.readAll with
  | ok program => exact load_unheard alike program
  | error error => exact .failed _ alike

theorem perform_unheard (alike : (unheard δ κ τ τ').Alike m m') {action : Action δ κ τ}
    {action' : Action δ κ τ'} (common : action.SameButSound action') :
    Outcome.SameButSound (m.perform action) (m'.perform action') := by
  obtain ⟨change, rfl⟩ := common
  cases action with
  | load program => exact (load_unheard alike program).map _
  | loadFrom source => exact (loadFrom_unheard alike source).map _
  | step =>
    have delay := congrArg Core.delay (inStep_unheard.toCore alike)
    exact (alike.step rfl fun _ _ _ => delay).map _
  | cycle => exact (inStep_unheard.cycle rfl alike).map _
  | run frames =>
    have noted : (unheard δ κ τ τ').Alike (m.note (.running m.settings.rate m.batchSize))
        (m'.note (.running m'.settings.rate m'.batchSize)) := by
      cases alike
      constructor <;> assumption
    exact (runFrom_unheard noted _ 0).map _
  | tick => exact .done _ (inStep_unheard.tick alike)
  | pressKey key =>
    obtain ⟨heard, pressed⟩ := alike.pressKey key
    simp only [Machine.perform, Action.revoice, heard]
    exact .done _ pressed
  | screen change =>
    have changed := congrArg change alike.screens
    cases alike
    exact .done _ (by constructor <;> assumption)
  | keypad change =>
    have changed := congrArg change alike.keypads
    cases alike
    exact .done _ (by constructor <;> assumption)
  | speaker change => exact .done _ (alike.voiced trivial alike.journals)

end Speakers

namespace Machine

variable [Speaker τ] [Speaker τ']

/-- Whatever is done with two machines that differ in their speakers and tones alone, and whatever
happens to their speakers meanwhile: every answer is the same, and at every point they still differ
in these alone. -/
theorem speaker_has_no_say {m : Machine δ κ τ} {m' : Machine δ κ τ'} (same : m.SameButSound m')
    {actions : List (Action δ κ τ)} {actions' : List (Action δ κ τ')}
    (common : List.Forall₂ Action.SameButSound actions actions') :
    m'.results actions' = m.results actions ∧
      ∀ n, (m.performAll (actions.take n)).SameButSound (m'.performAll (actions'.take n)) := by
  induction common generalizing m m' with
  | nil => exact ⟨rfl, fun n => by rw [List.take_nil, List.take_nil]; exact same⟩
  | @cons action action' rest rest' first _ ih =>
    have performed := perform_unheard (unheard_iff.mpr same) first
    obtain ⟨results, points⟩ := ih (unheard_iff.mp performed.state)
    constructor
    · rw [Machine.results, Machine.results, performed.result, results]
    · intro n
      cases n with
      | zero => exact same
      | succ n => exact points n

/-- Sets the sound timer to five, then goes on for good. -/
def whistle : List UInt8 := [0x60, 0x05, 0xf0, 0x18, 0x12, 0x04]

def whistler (tone : UInt16) (speaker : MuteSpeaker) :
    Machine (HeadlessScreen Grid.standard) ScriptedKeypad MuteSpeaker :=
  create { speed := 2, tone } (HeadlessScreen.blank Grid.standard) {} speaker

/-- A machine that whistles, and one whose speaker fails at the first cycle and then recovers. -/
theorem hoarse_unheard :
    let sound := whistler 440 {}
    let hoarse := whistler 880 { playFailure := some (.reported "play failed") }
    let actions : List (Action (HeadlessScreen Grid.standard) ScriptedKeypad MuteSpeaker) :=
      [.load whistle, .cycle, .speaker id, .run (some 1), .pressKey 3]
    let actions' : List (Action (HeadlessScreen Grid.standard) ScriptedKeypad MuteSpeaker) :=
      [.load whistle, .cycle, .speaker fun speaker => { speaker with playFailure := none },
        .run (some 1), .pressKey 3]
    sound.SameButSound hoarse ∧ List.Forall₂ Action.SameButSound actions actions' ∧
      hoarse.results actions' = sound.results actions ∧
      (sound.performAll actions).SameButSound (hoarse.performAll actions') ∧
      (sound.performAll actions).isSounding = true ∧ (sound.performAll actions).sound = 3 ∧
      (hoarse.performAll actions').isSounding = false := by
  intro sound hoarse actions actions'
  have same : sound.SameButSound hoarse := ⟨rfl, rfl, rfl, rfl⟩
  have common : List.Forall₂ Action.SameButSound actions actions' :=
    .cons ⟨id, rfl⟩ (.cons ⟨id, rfl⟩ (.cons ⟨_, rfl⟩ (.cons ⟨id, rfl⟩ (.cons ⟨id, rfl⟩ .nil))))
  obtain ⟨results, points⟩ := speaker_has_no_say same common
  have runs : (sound.performAll actions).isSounding = true ∧
      (sound.performAll actions).sound = 3 ∧
      (hoarse.performAll actions').isSounding = false := by decide +kernel
  exact ⟨same, common, results, points 5, runs⟩

end Machine

end Chip8
