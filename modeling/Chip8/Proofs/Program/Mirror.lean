import Chip8.Program
import Chip8.Proofs.Device.Scripted
import Chip8.Proofs.Device.Terminal
import Chip8.Proofs.Journal.Errors
import Chip8.Proofs.Machine.Correspondence

/-! A machine in a terminal at which nobody types, and a headless machine with the same settings.
The two go together cycle by cycle. The terminal shows the picture of the headless machine after the
last cycle that finished, and a journal that keeps errors alone holds nothing but the fault that cut
the next. -/
namespace Chip8

namespace Machine

variable {δ κ τ : Type}

theorem journal_halt {m : Machine δ κ τ} (awake : m.mode ≠ .halted) (fault : Fault) :
    (m.halt fault).journal = m.journal.record (.halting m.pc fault) := by
  unfold halt
  split
  · rename_i halted
    exact absurd halted awake
  · rfl

theorem note_of_minor {m : Machine δ κ τ} (errors : m.journal.filter.ErrorsOnly) (event : Event)
    (minor : event.isMinor) : m.note event = m := by
  rw [note, Journal.record_of_minor errors minor]

end Machine

open Machine

namespace MuteSpeaker

theorem events_play (speaker : MuteSpeaker) (hz : UInt16) :
    (Speaker.play speaker hz).events = [] := by
  simp only [Speaker.play]
  split
  · rfl
  · split <;> rfl

theorem events_stop (speaker : MuteSpeaker) : (Speaker.stop speaker).events = [] := by
  simp only [Speaker.stop]
  split <;> rfl

end MuteSpeaker

namespace Program

abbrev HeadlessMachine := ScriptedMachine Grid.standard MuteSpeaker

/-- What the terminal shows after some cycles, if it showed `rows` before them. -/
def rowsAfter (rows : Option (List String)) (count : Nat) (last : HeadlessMachine) :
    Option (List String) :=
  if count = 0 then rows else some last.screen.frame.picture

private theorem rowsAfter_succ (rows : Option (List String)) {count : Nat}
    {next last : HeadlessMachine} (done : cycles count next = .done () last) :
    rowsAfter (some next.screen.frame.picture) count last = rowsAfter rows (count + 1) last := by
  cases count with
  | zero =>
    cases done
    rfl
  | succ count => rfl

theorem getD_rowsAfter (count : Nat) (last : HeadlessMachine) :
    (rowsAfter none count last).getD [] =
      if count = 0 then [] else last.screen.frame.picture := by
  cases count <;> rfl

section Mirroring

variable {journal : Journal} (errors : journal.filter.ErrorsOnly)

include errors

private theorem recordAll_of_keyboard {events : List Event}
    (minor : ∀ event ∈ events, event.isMinor) {written : Journal} (same : written = journal) :
    written.recordAll events = journal := by
  rw [same]
  exact Journal.recordAll_of_minor errors minor

omit errors in
private theorem takePress_of_idle {keyboard : Keyboard} (idle : keyboard.Idle) :
    (Keypad.takePress keyboard).answer = .ok none ∧ (Keypad.takePress keyboard).device.Idle ∧
      (Keypad.takePress keyboard).events = keyboard.readTerminal.events := by
  obtain ⟨answer, read⟩ := idle.read
  simp only [Keypad.takePress, answer, read.presses]
  exact ⟨rfl, ⟨read.looks, read.held, rfl, read.stays⟩, trivial⟩

/-- A terminal on which nothing is typed goes with headless devices, and its journal stays as it is
for as long as no machine halts. -/
def mirror : Correspondence (TerminalScreen Grid.standard) Keyboard MuteSpeaker
    (HeadlessScreen Grid.standard) ScriptedKeypad MuteSpeaker where
  screens screen screen' := screen.frame = screen'.frame ∧ screen.renderFailure = none ∧
    screen'.renderFailure = none
  keypads keyboard keypad := keyboard.Idle ∧ keypad = {}
  speakers speaker toneLost speaker' toneLost' := speaker = speaker' ∧ toneLost = toneLost'
  timers := Eq
  settings := Eq
  journals written _ := written = journal
  timer _ := rfl
  inclusive same := congrArg Settings.inclusive same
  record event minor same := by
    rw [same]
    exact Journal.record_of_minor errors minor
  clear := by
    rintro screen screen' ⟨frame, reliable⟩
    exact ⟨congrArg FrameBuffer.clear frame, reliable⟩
  toggle := by
    rintro screen screen' x y ⟨frame, reliable⟩
    have toggled := congrArg (FrameBuffer.toggle · x y) frame
    exact ⟨congrArg Prod.fst toggled, ⟨congrArg Prod.snd toggled, reliable⟩, fun same => same⟩
  isPressed := by
    rintro keyboard _ key ⟨idle, rfl⟩
    obtain ⟨answer, read⟩ := idle.read
    refine ⟨?_, ⟨read, rfl⟩, recordAll_of_keyboard errors keyboard.minor_readTerminal⟩
    have free : keyboard.readTerminal.device.isHeld key = false := by
      rw [Keyboard.isHeld, read.held key]
      rfl
    have up : ({} : ScriptedKeypad).held.get key = false := by
      change (Vector.replicate 16 false)[key.val] = false
      exact Vector.getElem_replicate _
    simp only [Keypad.isPressed, answer, Except.map, free, up]
  takePress := by
    rintro keyboard _ ⟨idle, rfl⟩
    obtain ⟨answer, left, events⟩ := takePress_of_idle idle
    refine ⟨answer, ⟨left, rfl⟩, ?_⟩
    rw [events]
    exact recordAll_of_keyboard errors keyboard.minor_readTerminal
  discardPresses := by
    rintro keyboard _ ⟨idle, rfl⟩
    obtain ⟨answer, left, events⟩ := takePress_of_idle idle
    rw [Keypad.discardPresses_of_empty answer, ScriptedKeypad.discardPresses_eq]
    refine ⟨rfl, ⟨left, rfl⟩, ?_⟩
    rw [events]
    exact recordAll_of_keyboard errors keyboard.minor_readTerminal

private theorem inStep_mirror : (mirror errors).InStep where
  timers same := same
  speed same := congrArg Settings.speed same
  render := by
    rintro screen screen' ⟨frame, reliable, reliable'⟩
    simp only [Screen.render, reliable, reliable']
    exact ⟨rfl, ⟨frame, rfl, rfl⟩, fun same => same⟩
  driveSpeaker {m m'} alike := by
    have core : m.sound = m'.sound ∧ m.settings = m'.settings := by
      cases alike with
      | intro _ _ _ _ _ _ _ delays sounds screens keypads speakers similar =>
        exact ⟨sounds, similar⟩
    refine alike.driveSpeaker_of_same core.1 (congrArg Settings.tone core.2) Iff.rfl ?_ ?_
    · intro hz _ _ same
      rw [MuteSpeaker.events_play]
      exact same
    · intro _ _ same
      rw [MuteSpeaker.events_stop]
      exact same

/-- A terminal that shows `rows` and goes with a headless machine that has not halted. -/
structure Mirrors (rows : Option (List String)) (m : TerminalMachine MuteSpeaker)
    (m' : HeadlessMachine) : Prop where
  alike : (mirror errors).Alike m m'
  shown : m.screen.shown = rows
  awake : m'.mode ≠ .halted

variable {errors} {rows : Option (List String)} {m : TerminalMachine MuteSpeaker}
  {m' : HeadlessMachine}

/-- Nobody at the terminal wants to leave, and asking leaves nothing behind. -/
private theorem Mirrors.asked (mirrors : Mirrors errors rows m m') :
    (Keypad.wantsExit m.keypad).answer = false ∧
      Mirrors errors rows (m.afterKeypad (Keypad.wantsExit m.keypad)) m' := by
  obtain ⟨alike, shown, awake⟩ := mirrors
  obtain ⟨answer, read⟩ := alike.keypads.1.read
  have stays : (Keypad.wantsExit m.keypad).answer = false := by
    rw [Keyboard.answer_wantsExit, read.stays]
  have left : (Keypad.wantsExit m.keypad).device = m.keypad.readTerminal.device := by
    simp only [Keypad.wantsExit, answer]
  have noted := recordAll_of_keyboard errors m.keypad.minor_wantsExit alike.journals
  refine ⟨stays, ?_, shown, awake⟩
  rw [← left] at read
  cases alike with
  | intro memory v i pc stack mode random delays sounds screens keypads speakers similar =>
    exact .intro _ _ _ _ _ _ _ delays sounds screens ⟨read, keypads.2⟩ speakers similar noted

private theorem Mirrors.cycle_done (mirrors : Mirrors errors rows m m') {after' : HeadlessMachine}
    (done : m'.cycle = .done () after') :
    ∃ after, m.cycle = .done () after ∧
      Mirrors errors (some after'.screen.frame.picture) after after' := by
  obtain ⟨after, finished, alike⟩ := (inStep_mirror errors).cycle_done mirrors.alike done
  have shown := shown_cycle m
  have awake := halts_cycle mirrors.awake
  rw [finished] at shown
  rw [done] at awake
  have frame : after.screen.frame = after'.screen.frame := alike.screens.1
  refine ⟨after, finished, alike, ?_, awake⟩
  rw [← frame]
  exact shown

private theorem Mirrors.cycle_failed (mirrors : Mirrors errors rows m m')
    {stopped' : HeadlessMachine} {fault : Fault} (failed : m'.cycle = .failed fault stopped') :
    ∃ stopped, m.cycle = .failed fault stopped ∧ stopped.screen.shown = rows ∧
      stopped.journal = { journal with kept := .halting stopped'.pc fault :: journal.kept } := by
  -- The journal is compared before the halt, which alone writes into it.
  obtain ⟨left, left', finished, same, alike, awake⟩ :=
    (inStep_mirror errors).cycle_failed mirrors.alike mirrors.awake failed
  have shown := shown_cycle m
  rw [finished] at shown
  refine ⟨left.halt fault, finished, shown.trans mirrors.shown, ?_⟩
  have pc : stopped'.pc = left.pc := by
    rw [same, (inStep_mirror errors).toCore alike, halt_eq]
  have written : left.journal = journal := alike.journals
  rw [journal_halt awake, written, pc]
  exact Journal.record_of_error errors rfl

/-- One turn of the loop is a cycle, since nobody wants to leave. -/
private theorem Mirrors.runFrom_succ (mirrors : Mirrors errors rows m m') (limit count : Nat) :
    ∃ asked, Mirrors errors rows asked m' ∧
      runFrom (limit + 1) count m = asked.cycle.andThen fun _ m => runFrom limit (count + 1) m := by
  obtain ⟨stays, asked⟩ := mirrors.asked
  refine ⟨_, asked, ?_⟩
  simp only [runFrom, stays, Bool.false_eq_true, if_false]

theorem Mirrors.finished (mirrors : Mirrors errors rows m m') {limit : Nat} (count : Nat)
    {last' : HeadlessMachine} (done : cycles limit m' = .done () last') :
    ∃ reached last, runFrom limit count m = .done reached last ∧ last.journal = journal ∧
      last.screen.shown = rowsAfter rows limit last' := by
  -- Each cycle replaces the rows on the terminal, so the induction is for all of them.
  induction limit generalizing count m m' rows with
  | zero =>
    cases done
    exact ⟨count, m, rfl, mirrors.alike.journals, mirrors.shown⟩
  | succ limit ih =>
    obtain ⟨asked, mirrors, turn⟩ := mirrors.runFrom_succ limit count
    obtain ⟨next', first, done⟩ := cycles_succ done
    obtain ⟨next, cycled, mirrors⟩ := mirrors.cycle_done first
    rw [turn, cycled, ← rowsAfter_succ rows done]
    exact ih mirrors (count + 1) done

theorem Mirrors.faulted (mirrors : Mirrors errors rows m m') {limit k : Nat} (count : Nat)
    (early : k < limit) {before stopped' : HeadlessMachine} {fault : Fault}
    (done : cycles k m' = .done () before) (failed : before.cycle = .failed fault stopped') :
    ∃ stopped, runFrom limit count m = .failed fault stopped ∧
      stopped.journal = { journal with kept := .halting stopped'.pc fault :: journal.kept } ∧
      stopped.screen.shown = rowsAfter rows k before := by
  obtain ⟨later, rfl⟩ := Nat.exists_eq_succ_of_ne_zero (Nat.ne_zero_of_lt early)
  induction k generalizing later count m m' rows with
  | zero =>
    obtain ⟨asked, mirrors, turn⟩ := mirrors.runFrom_succ later count
    cases done
    obtain ⟨stopped, cycled, shown, written⟩ := mirrors.cycle_failed failed
    refine ⟨stopped, ?_, written, shown⟩
    rw [turn, cycled, Outcome.andThen_failed]
  | succ k ih =>
    obtain ⟨asked, mirrors, turn⟩ := mirrors.runFrom_succ later count
    obtain ⟨next', first, done⟩ := cycles_succ done
    obtain ⟨next, cycled, mirrors⟩ := mirrors.cycle_done first
    have sooner : k < later := Nat.lt_of_succ_lt_succ early
    obtain ⟨others, rfl⟩ := Nat.exists_eq_succ_of_ne_zero (Nat.ne_zero_of_lt sooner)
    rw [turn, cycled, ← rowsAfter_succ rows done]
    exact ih mirrors (count + 1) done others sooner

end Mirroring

/-- Escape ends a run before its first cycle. -/
theorem runFrom_of_escape {journal : Journal} (errors : journal.filter.ErrorsOnly)
    {m : TerminalMachine MuteSpeaker} {looks : List Look} (keyboard : m.keypad = { looks })
    (escape : ∃ reading ∈ Look.heard 0 looks, reading.event = .escape)
    (written : m.journal = journal) (limit : Nat) :
    ∃ last, runFrom limit 0 m = .done 0 last ∧ last.journal = journal ∧
      last.screen = m.screen := by
  cases limit with
  | zero => exact ⟨m, rfl, written, rfl⟩
  | succ limit =>
    have leaves := Keyboard.wantsExit_of_escape escape
    rw [← keyboard] at leaves
    have read := recordAll_of_keyboard errors m.keypad.minor_wantsExit written
    simp only [runFrom, leaves, if_true]
    refine ⟨_, rfl, ?_, rfl⟩
    have asked : (m.afterKeypad (Keypad.wantsExit m.keypad)).journal = journal := read
    rw [← asked] at errors
    rw [note_of_minor errors (.exitRequested 0) rfl]
    exact asked

end Program

end Chip8
