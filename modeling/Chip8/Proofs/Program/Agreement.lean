import Chip8.Proofs.Options.Accepted
import Chip8.Proofs.Program.Mirror

namespace Chip8

open Machine

namespace Program

section Report

variable {journal : Journal} {rows : Option (List String)}

private def reportOf : Outcome (TerminalMachine MuteSpeaker) Nat → Report
  | .done _ m => Report.ofMachine none (silence m)
  | .failed fault m => Report.ofMachine (some fault) (silence m)

private theorem ofMachine_silence (fault : Option Fault) (m : TerminalMachine MuteSpeaker) :
    Report.ofMachine fault (silence m) = Report.ofMachine fault m := by
  have written : (silence m).journal = m.journal := by
    simp only [silence, afterSpeaker, MuteSpeaker.events_stop]
    rfl
  simp only [Report.ofMachine, written]
  rfl

private theorem report_finished {last : TerminalMachine MuteSpeaker} (empty : journal.kept = [])
    (written : last.journal = journal) (shown : last.screen.shown = rows) :
    Report.ofMachine none (silence last) = { status := 0, screen := some (rows.getD []) } := by
  rw [ofMachine_silence]
  simp only [Report.ofMachine, written, shown, Journal.lines, empty]
  rfl

private theorem report_faulted {stopped : TerminalMachine MuteSpeaker} {pc : UInt16}
    {fault : Fault} (empty : journal.kept = [])
    (written : stopped.journal = { journal with kept := .halting pc fault :: journal.kept })
    (shown : stopped.screen.shown = rows) :
    Report.ofMachine (some fault) (silence stopped) =
      { status := 1
        errors := ["[ERROR chip8::interpreter] halting at pc " ++ Event.addressText pc.toNat ++
            ": " ++ fault.message,
          "Error: " ++ faultText fault]
        screen := some (rows.getD []) } := by
  rw [ofMachine_silence, ← Event.line_halting]
  simp only [Report.ofMachine, written, shown, Journal.lines, empty]
  rfl

end Report

section Load

variable {τ : Type} {surroundings : Surroundings} {options : Options} {source : Source}

/-- A load that fails is told of; nothing else is written, and nothing was shown. -/
theorem play_of_unloaded [Speaker τ] {speaker : τ} {fault : Fault}
    (unloaded : (machine surroundings options speaker).loadFrom source =
      .failed fault (machine surroundings options speaker)) :
    play surroundings options source speaker =
      { status := 1, errors := [(Failure.faulted fault).line], screen := some [] } := by
  rw [play, unloaded]
  rfl

theorem loadFrom_of_long {rom : List UInt8} (speaker : τ) (read : source.readAll = .ok rom)
    (long : 3584 < rom.length) :
    (machine surroundings options speaker).loadFrom source =
      .failed (.programTooLarge rom.length 3584) (machine surroundings options speaker) := by
  rw [loadFrom, read]
  have many : ¬ rom.length ≤ Memory.fresh.capacity := Nat.not_le_of_lt long
  exact congrArg (loaded _ _) (Memory.load_of_many many)

end Load

/-- What it takes for the program to play `rom` for so many cycles, with the speaker left alone and
nothing but errors on the error stream, on a terminal that can be drawn on. -/
structure Plays (surroundings : Surroundings) (options : Options) (rom : List UInt8)
    (seed frames : UInt64) : Prop where
  accepted : Options.ofArguments surroundings.arguments = .ok options
  mute : options.mute = true
  seed : options.seed = some seed
  frames : options.frames = some frames
  rate : options.rate.InRange Options.maxRate
  read : ∃ source, surroundings.openPath options.rom = .ok source ∧ source.readAll = .ok rom
  errors : surroundings.filter.ErrorsOnly
  warnings : surroundings.warnings = []
  shows : surroundings.renderFailure = none

/-- The headless machine with the same settings. -/
def headless (options : Options) : HeadlessMachine :=
  create options.toSettings (HeadlessScreen.blank Grid.standard) {} {}

/-- Whether a report tells of what becomes of a headless machine in `count` cycles. Before the first
cycle has finished, nothing is on the terminal. -/
structure Tells (count : Nat) (m : HeadlessMachine) (report : Report) : Prop where
  ends : (∃ last, cycles count m = .done () last) ∨ ∃ k before fault stopped, k < count ∧
    cycles k m = .done () before ∧ before.cycle = .failed fault stopped
  finished (last : HeadlessMachine) (done : cycles count m = .done () last) :
    report =
      { status := 0
        screen := some (if count = 0 then [] else last.screen.frame.picture) }
  faulted (k : Nat) (before stopped : HeadlessMachine) (fault : Fault) (early : k < count)
    (done : cycles k m = .done () before) (failed : before.cycle = .failed fault stopped) :
    report =
      { status := 1
        errors := ["[ERROR chip8::interpreter] halting at pc " ++
            Event.addressText stopped.pc.toNat ++ ": " ++ fault.message,
          "Error: " ++ faultText fault]
        screen := some (if k = 0 then [] else before.screen.frame.picture) }

section Play

variable {surroundings : Surroundings} {options : Options} {rom : List UInt8} {seed frames : UInt64}

private theorem run_of_plays (plays : Plays surroundings options rom seed frames) :
    ∃ source, source.readAll = .ok rom ∧
      run surroundings = .ok (play surroundings options source ({} : MuteSpeaker)) := by
  obtain ⟨source, opened, read⟩ := plays.read
  refine ⟨source, read, ?_⟩
  have checked := Options.check_of_accepted plays.accepted plays.rate
  have played : runWith surroundings options =
      play surroundings options source ({} : MuteSpeaker) := by
    simp only [runWith, checked, opened, plays.mute, if_true]
  simp only [run, plays.accepted, played, plays.warnings, Report.after, List.nil_append]

/-- Both machines take a program that fits. -/
private theorem load_of_fits (plays : Plays surroundings options rom seed frames)
    {source : Source} (read : source.readAll = .ok rom) (fits : rom.length ≤ 3584) :
    ∃ memory, (headless options).load rom = .done () { headless options with memory } ∧
      (machine surroundings options ({} : MuteSpeaker)).loadFrom source =
        .done () { machine surroundings options ({} : MuteSpeaker) with memory } := by
  have taken : ∃ memory, Memory.fresh.load rom = .ok memory :=
    ⟨_, Memory.load_of_few fits⟩
  obtain ⟨memory, taken⟩ := taken
  have fresh : (machine surroundings options ({} : MuteSpeaker)).memory = Memory.fresh := rfl
  have fresh' : (headless options).memory = Memory.fresh := rfl
  refine ⟨memory, ?_, ?_⟩
  · simp only [load, fresh', taken, loaded]
    rfl
  · simp only [loadFrom, read, load, fresh, taken, loaded]
    rw [note_of_minor plays.errors (.programLoaded ..) rfl]

private theorem play_of_long {source : Source} (read : source.readAll = .ok rom)
    (long : 3584 < rom.length) :
    play surroundings options source ({} : MuteSpeaker) =
      { status := 1
        errors := ["Error: " ++ faultText (.programTooLarge rom.length 3584)]
        screen := some [] } :=
  play_of_unloaded (loadFrom_of_long _ read long)

/-- Once its program is in memory, the run of a machine settles the report. -/
private theorem play_of_loaded (plays : Plays surroundings options rom seed frames)
    {source : Source} {m : TerminalMachine MuteSpeaker}
    (loaded : (machine surroundings options ({} : MuteSpeaker)).loadFrom source = .done () m)
    (errors : m.journal.filter.ErrorsOnly) :
    play surroundings options source ({} : MuteSpeaker) = reportOf (runFrom frames.toNat 0 m) := by
  have ran : m.run options.frames = runFrom frames.toNat 0 m := by
    rw [plays.frames, Machine.run, note_of_minor errors (.running ..) rfl]
    rfl
  simp only [play, loaded, ran]
  cases runFrom frames.toNat 0 m <;> rfl

private theorem tells_of_mirrors {journal : Journal} {errors : journal.filter.ErrorsOnly}
    (empty : journal.kept = []) {m : TerminalMachine MuteSpeaker} {m' : HeadlessMachine}
    (mirrors : Mirrors errors none m m') (limit : Nat) :
    Tells limit m' (reportOf (runFrom limit 0 m)) where
  ends := cycles_end limit m'
  finished last done := by
    obtain ⟨_, reached, ran, written, shown⟩ := mirrors.finished 0 done
    rw [ran, reportOf, report_finished empty written shown, getD_rowsAfter]
  faulted k before stopped fault early done failed := by
    obtain ⟨reached, ran, written, shown⟩ := mirrors.faulted 0 early done failed
    rw [ran, reportOf, report_faulted empty written shown, getD_rowsAfter]

private theorem idle_of_looks {looks : List Look} (idle : ∀ look ∈ looks, look.isIdle) :
    ({ looks } : Keyboard).Idle where
  looks := idle
  held key := by
    change (Vector.replicate 16 none)[key.val] = none
    exact Vector.getElem_replicate _
  presses := rfl
  stays := rfl

/-- The program agrees with the headless machine that has its settings. A program that does not fit
is refused with nothing shown; else escape ends the run with nothing shown if it is typed before the
first cycle, and if neither escape nor a key of the keypad is typed before or during the run, the
report is that of the headless machine. -/
theorem run_agrees (plays : Plays surroundings options rom seed frames) :
    ∃ report, run surroundings = .ok report ∧
      (3584 < rom.length → report =
        { status := 1
          errors := ["Error: " ++ faultText (.programTooLarge rom.length 3584)]
          screen := some [] }) ∧
      (rom.length ≤ 3584 → ∃ m, (headless options).load rom = .done () m ∧
        ((∃ reading ∈ Look.heard 0 surroundings.looks, reading.event = .escape) →
          report = { status := 0, screen := some [] }) ∧
        ((∀ look ∈ surroundings.looks, look.isIdle) → Tells frames.toNat m report)) := by
  obtain ⟨source, read, ran⟩ := run_of_plays plays
  refine ⟨_, ran, play_of_long read, ?_⟩
  intro fits
  obtain ⟨memory, loaded', loaded⟩ := load_of_fits plays read fits
  refine ⟨_, loaded', ?_, ?_⟩
  · intro escape
    obtain ⟨last, ended, written, shown⟩ := runFrom_of_escape plays.errors
      (m := { machine surroundings options ({} : MuteSpeaker) with memory }) rfl escape rfl
      frames.toNat
    have blank : last.screen.shown = none := by
      rw [shown]
      rfl
    have report := report_finished rfl written blank
    rw [play_of_loaded plays loaded plays.errors, ended, reportOf, report]
    rfl
  · intro idle
    rw [play_of_loaded plays loaded plays.errors]
    have alike : (mirror plays.errors).Alike
        { machine surroundings options ({} : MuteSpeaker) with memory }
        { headless options with memory } :=
      .intro _ _ _ _ _ _ _ rfl rfl ⟨rfl, plays.shows, rfl⟩ ⟨idle_of_looks idle, rfl⟩ ⟨rfl, rfl⟩
        rfl rfl
    exact tells_of_mirrors rfl ⟨alike, rfl, nofun⟩ frames.toNat

end Play

/-- A terminal at which nobody types, and the program started there to play `rom` for two cycles of
one instruction. -/
def unattended (rom : List UInt8) : Surroundings where
  arguments := ["--mute", "--seed", "1", "--frames", "2", "--speed", "1", "game.ch8"]
  log := "error"
  openPath path :=
    if path = "game.ch8" then .ok (.chunk rom .finished) else .error (.reported "not found")

def choices : Options :=
  { rom := "game.ch8", speed := 1, mute := true, seed := some 1, frames := some 2 }

private theorem plays_unattended (rom : List UInt8) (looks : List Look) :
    Plays { unattended rom with looks } choices rom 1 2 where
  accepted := by rfl
  mute := rfl
  seed := rfl
  frames := rfl
  rate := by decide +kernel
  read := ⟨.chunk rom .finished, rfl, by simp [Source.readAll]⟩
  errors := by
    have filter : { unattended rom with looks }.filter = (Filter.read "error").1 := rfl
    rw [filter, Filter.read_error]
    exact Filter.errorsOnly_usual
  warnings := by
    have warnings : { unattended rom with looks }.warnings =
      (Filter.read "error").2.flatMap Filter.Warning.lines := rfl
    rw [warnings, Filter.read_error]
    rfl
  shows := rfl

/-- A program that draws a glyph and then meets a word that is no instruction. -/
def glyph : List UInt8 := [0xd0, 0x05, 0xff, 0xff]

theorem unattended_agrees :
    Plays (unattended glyph) choices glyph 1 2 ∧ ∃ m drawn stopped,
      (headless choices).load glyph = .done () m ∧ cycles 1 m = .done () drawn ∧
      drawn.cycle = .failed (.unknownOpcode 0xffff) stopped ∧
      run (unattended glyph) = .ok
        { status := 1
          errors := ["[ERROR chip8::interpreter] halting at pc 0x202: unknown opcode 0xffff",
            "Error: UnknownOpcode(65535)"]
          screen := some drawn.screen.frame.picture } := by
  have plays : Plays (unattended glyph) choices glyph 1 2 := plays_unattended glyph []
  obtain ⟨report, ran, _, fits⟩ := run_agrees plays
  obtain ⟨m, loaded, _, tells⟩ := fits (by decide)
  have start : m = ((headless choices).load glyph).state := by
    rw [loaded]
    rfl
  have done : cycles 1 m = .done () (cycles 1 m).state := by
    apply Outcome.eq_done_of_fault?
    rw [start]
    decide +kernel
  have failed : (cycles 1 m).state.cycle =
      .failed (.unknownOpcode 0xffff) (cycles 1 m).state.cycle.state := by
    apply Outcome.eq_failed_of_fault?
    rw [start]
    decide +kernel
  have pc : (cycles 1 m).state.cycle.state.pc = 0x202 := by
    rw [start]
    decide +kernel
  have texts : ["[ERROR chip8::interpreter] halting at pc " ++
        Event.addressText (0x202 : UInt16).toNat ++ ": " ++ (Fault.unknownOpcode 0xffff).message,
      "Error: " ++ faultText (.unknownOpcode 0xffff)] =
        ["[ERROR chip8::interpreter] halting at pc 0x202: unknown opcode 0xffff",
          "Error: UnknownOpcode(65535)"] := by decide +kernel
  refine ⟨plays, m, _, _, loaded, done, failed, ?_⟩
  rw [ran, (tells nofun).faulted 1 _ _ _ (by decide) done failed, pc, texts]
  rfl

/-- A program that skips a word that is no instruction, if key 0 is pressed, and then goes round in
a circle. -/
def latch : List UInt8 := [0xe0, 0x9e, 0xff, 0xff, 0x12, 0x04]

/-- The same program with a user at the terminal who types the character of key 0. -/
def attended : Surroundings :=
  { unattended latch with looks := [{ found := .ok (some (.character 'x')) }] }

/-- A program that fails in its first cycle leaves nothing on the terminal, not even the frame
around a picture without a pixel. And a key of the keypad that is typed can keep a program from
failing as the headless machine does. -/
theorem run_departs :
    (Plays (unattended [0xff, 0xff]) choices [0xff, 0xff] 1 2 ∧ ∃ m stopped report,
      (headless choices).load [0xff, 0xff] = .done () m ∧ cycles 0 m = .done () m ∧
      m.cycle = .failed (.unknownOpcode 0xffff) stopped ∧
      run (unattended [0xff, 0xff]) = .ok report ∧ report.screen = some [] ∧
      report.screen ≠ some m.screen.frame.picture) ∧
    Plays attended choices latch 1 2 ∧ ∃ m before stopped report,
      (headless choices).load latch = .done () m ∧ cycles 1 m = .done () before ∧
      before.cycle = .failed (.unknownOpcode 0xffff) stopped ∧
      run attended = .ok report ∧ report.status = 0 := by
  have loaded (rom : List UInt8) (fits : rom.length ≤ 3584) :
      (headless choices).load rom = .done () ((headless choices).load rom).state := by
    have taken : (headless choices).memory.load rom = .ok _ := Memory.load_of_few fits
    simp only [load, taken]
    rfl
  have failed : ((headless choices).load [0xff, 0xff]).state.cycle =
      .failed (.unknownOpcode 0xffff) ((headless choices).load [0xff, 0xff]).state.cycle.state := by
    apply Outcome.eq_failed_of_fault?
    decide +kernel
  have skipped : cycles 1 ((headless choices).load latch).state =
      .done () (cycles 1 ((headless choices).load latch).state).state := by
    apply Outcome.eq_done_of_fault?
    decide +kernel
  have fell : (cycles 1 ((headless choices).load latch).state).state.cycle =
      .failed (.unknownOpcode 0xffff)
        (cycles 1 ((headless choices).load latch).state).state.cycle.state := by
    apply Outcome.eq_failed_of_fault?
    decide +kernel
  refine ⟨⟨plays_unattended _ [], _, _, _, loaded _ (by decide), rfl, failed, rfl,
    by decide +kernel, by decide +kernel⟩, plays_unattended _ _, _, _, _, _, loaded _ (by decide),
    skipped, fell, rfl, by decide +kernel⟩

end Program

end Chip8
