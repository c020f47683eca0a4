import Chip8.Proofs.Program.Agreement

/-! What keeps the program from its first cycle, and what it leaves behind then. The terminal is
taken over as soon as the file with the program to run has been opened: what goes wrong before that
is told on a terminal that was left alone, a load that fails is not. -/
namespace Chip8.Program

open Machine

/-- What keeps the program from its first cycle. -/
inductive Obstacle where
  | refused (refusal : Options.Refusal)
  | invalid (reason : Options.Invalid)
  | unopened (error : DeviceError)
  | unloaded (fault : Fault)

/-- Which obstacle is met first. -/
inductive Surroundings.Meets (surroundings : Surroundings) : Obstacle → Prop where
  | refused {refusal : Options.Refusal}
      (refuses : Options.ofArguments surroundings.arguments = .error refusal)
      (uninformed : inform refusal = none) : Meets surroundings (.refused refusal)
  | invalid {options : Options} {reason : Options.Invalid}
      (accepted : Options.ofArguments surroundings.arguments = .ok options)
      (invalid : options.check = .error reason) : Meets surroundings (.invalid reason)
  | unopened {options : Options} {error : DeviceError}
      (accepted : Options.ofArguments surroundings.arguments = .ok options)
      (valid : options.check = .ok ())
      (unopened : surroundings.openPath options.rom = .error error) :
      Meets surroundings (.unopened error)
  | unread {options : Options} {source : Source} {error : DeviceError}
      (accepted : Options.ofArguments surroundings.arguments = .ok options)
      (valid : options.check = .ok ()) (opened : surroundings.openPath options.rom = .ok source)
      (unread : source.readAll = .error error) : Meets surroundings (.unloaded (.device error))
  | tooLong {options : Options} {source : Source} {rom : List UInt8}
      (accepted : Options.ofArguments surroundings.arguments = .ok options)
      (valid : options.check = .ok ()) (opened : surroundings.openPath options.rom = .ok source)
      (read : source.readAll = .ok rom) (long : 3584 < rom.length) :
      Meets surroundings (.unloaded (.programTooLarge rom.length 3584))

/-- Whether the arguments ask for information only. -/
def Surroundings.Inquires (surroundings : Surroundings) : Prop :=
  ∃ refusal report, Options.ofArguments surroundings.arguments = .error refusal ∧
    inform refusal = some report

/-- Whether the program to run is loaded. -/
def Surroundings.Loads (surroundings : Surroundings) : Prop :=
  ∃ options source rom, Options.ofArguments surroundings.arguments = .ok options ∧
    options.check = .ok () ∧ surroundings.openPath options.rom = .ok source ∧
      source.readAll = .ok rom ∧ rom.length ≤ 3584

/-- What is left behind on account of an obstacle. Nothing has been shown on the terminal in any
case, but after a failed load it was taken over. -/
def Obstacle.ending (warnings : List String) : Obstacle → Except Options.Refusal Report
  | refused refusal => .error refusal
  | invalid reason => .ok { status := 1, errors := warnings ++ [(Failure.invalid reason).line] }
  | unopened error => .ok { status := 1, errors := warnings ++ [(Failure.unopened error).line] }
  | unloaded fault =>
    .ok { status := 1, errors := warnings ++ [(Failure.faulted fault).line], screen := some [] }

/-- Whether the terminal was left alone. -/
def LeftAlone : Except Options.Refusal Report → Prop
  | .error _ => True
  | .ok report => report.screen = none

variable {surroundings : Surroundings}

private theorem meets_or_inquires_or_loads (surroundings : Surroundings) :
    (∃ obstacle, surroundings.Meets obstacle) ∨ surroundings.Inquires ∨ surroundings.Loads := by
  cases arguments : Options.ofArguments surroundings.arguments with
  | error refusal =>
    cases informed : inform refusal with
    | none => exact .inl ⟨_, .refused arguments informed⟩
    | some report => exact .inr (.inl ⟨refusal, report, arguments, informed⟩)
  | ok options =>
    cases checked : options.check with
    | error reason => exact .inl ⟨_, .invalid arguments checked⟩
    | ok =>
      cases path : surroundings.openPath options.rom with
      | error error => exact .inl ⟨_, .unopened arguments checked path⟩
      | ok source =>
        cases read : source.readAll with
        | error error => exact .inl ⟨_, .unread arguments checked path read⟩
        | ok rom =>
          rcases Nat.lt_or_ge 3584 rom.length with long | few
          · exact .inl ⟨_, .tooLong arguments checked path read long⟩
          · exact .inr (.inr ⟨options, source, rom, arguments, checked, path, read, few⟩)

private theorem not_inquires_of_meets {obstacle : Obstacle} (meets : surroundings.Meets obstacle) :
    ¬ surroundings.Inquires := by
  rintro ⟨refusal, report, refuses, informed⟩
  cases meets with
  | refused refuses' uninformed =>
    cases refuses.symm.trans refuses'
    rw [uninformed] at informed
    cases informed
  | invalid accepted => cases refuses.symm.trans accepted
  | unopened accepted => cases refuses.symm.trans accepted
  | unread accepted => cases refuses.symm.trans accepted
  | tooLong accepted => cases refuses.symm.trans accepted

private theorem not_loads_of_meets {obstacle : Obstacle} (meets : surroundings.Meets obstacle) :
    ¬ surroundings.Loads := by
  rintro ⟨options, source, rom, accepted, valid, opened, read, few⟩
  cases meets with
  | refused refuses => cases accepted.symm.trans refuses
  | invalid accepted' invalid =>
    cases accepted.symm.trans accepted'
    cases valid.symm.trans invalid
  | unopened accepted' _ unopened =>
    cases accepted.symm.trans accepted'
    cases opened.symm.trans unopened
  | unread accepted' _ opened' unread =>
    cases accepted.symm.trans accepted'
    cases opened.symm.trans opened'
    cases read.symm.trans unread
  | tooLong accepted' _ opened' read' long =>
    cases accepted.symm.trans accepted'
    cases opened.symm.trans opened'
    cases read.symm.trans read'
    exact Nat.not_le_of_lt long few

/-- An obstacle is met unless the program only answers a question or gets to its first cycle. -/
theorem exists_meets_iff (surroundings : Surroundings) :
    (∃ obstacle, surroundings.Meets obstacle) ↔
      ¬ surroundings.Inquires ∧ ¬ surroundings.Loads := by
  constructor
  · rintro ⟨obstacle, meets⟩
    exact ⟨not_inquires_of_meets meets, not_loads_of_meets meets⟩
  · rintro ⟨silent, unloaded⟩
    rcases meets_or_inquires_or_loads surroundings with meets | inquires | loads
    · exact meets
    · exact absurd inquires silent
    · exact absurd loads unloaded

/-- A failed load is told of alike whichever speaker the options ask for. -/
private theorem run_of_unloaded {options : Options} {source : Source} {fault : Fault}
    (accepted : Options.ofArguments surroundings.arguments = .ok options)
    (valid : options.check = .ok ()) (opened : surroundings.openPath options.rom = .ok source)
    (unloaded : ∀ {τ : Type} (speaker : τ), (machine surroundings options speaker).loadFrom source =
      .failed fault (machine surroundings options speaker)) :
    run surroundings = (Obstacle.unloaded fault).ending surroundings.warnings := by
  simp only [run, accepted, runWith, valid, opened, play_of_unloaded (unloaded _), ite_self]
  rfl

private theorem run_of_meets {obstacle : Obstacle} (meets : surroundings.Meets obstacle) :
    run surroundings = obstacle.ending surroundings.warnings := by
  cases meets with
  | refused refuses uninformed => simp only [run, refuses, uninformed, Obstacle.ending]
  | invalid accepted invalid =>
    simp only [run, accepted, runWith, invalid]
    rfl
  | unopened accepted valid unopened =>
    simp only [run, accepted, runWith, valid, unopened]
    rfl
  | unread accepted valid opened unread =>
    refine run_of_unloaded accepted valid opened ?_
    intro τ speaker
    rw [loadFrom, unread]
  | tooLong accepted valid opened read long =>
    exact run_of_unloaded accepted valid opened fun speaker => loadFrom_of_long speaker read long

private theorem leftAlone_ending (warnings : List String) (obstacle : Obstacle) :
    LeftAlone (obstacle.ending warnings) ↔ ∀ fault, obstacle ≠ .unloaded fault := by
  cases obstacle with
  | refused refusal => exact ⟨fun _ _ => nofun, fun _ => trivial⟩
  | invalid reason => exact ⟨fun _ _ => nofun, fun _ => rfl⟩
  | unopened error => exact ⟨fun _ _ => nofun, fun _ => rfl⟩
  | unloaded fault => exact ⟨nofun, fun other => absurd rfl (other fault)⟩

/-- Whatever keeps the program from its first cycle is told, and before the terminal is taken over
unless it is the load that fails. -/
theorem left_alone_unless_unloaded (surroundings : Surroundings) :
    ((∃ obstacle, surroundings.Meets obstacle) ↔
      ¬ surroundings.Inquires ∧ ¬ surroundings.Loads) ∧
    ∀ obstacle, surroundings.Meets obstacle →
      run surroundings = obstacle.ending surroundings.warnings ∧
        (LeftAlone (run surroundings) ↔ ∀ fault, obstacle ≠ .unloaded fault) := by
  refine ⟨exists_meets_iff surroundings, ?_⟩
  intro obstacle meets
  have ends := run_of_meets meets
  refine ⟨ends, ?_⟩
  rw [ends]
  exact leftAlone_ending surroundings.warnings obstacle

/-- The program started with a rate at which nothing would move. -/
def standstill : Surroundings where
  arguments := ["game.ch8", "--fps", "0"]
  log := "error"
  openPath _ := .ok (.chunk [0x12, 0x00] .finished)

theorem standstill_left_alone :
    standstill.Meets (.invalid (.rate ⟨0⟩)) ∧
      run standstill = .ok { status := 1, errors := [(Failure.invalid (.rate ⟨0⟩)).line] } ∧
      LeftAlone (run standstill) := by
  have meets : standstill.Meets (.invalid (.rate ⟨0⟩)) := by
    have accepted : Options.ofArguments standstill.arguments =
        .ok { rom := "game.ch8", rate := ⟨0⟩ } := rfl
    exact .invalid accepted (if_pos (by decide +kernel))
  obtain ⟨ends, alone⟩ := (left_alone_unless_unloaded standstill).2 _ meets
  have warnings : standstill.warnings = [] := by
    have read : standstill.warnings = (Filter.read "error").2.flatMap Filter.Warning.lines := rfl
    rw [read, Filter.read_error]
    rfl
  refine ⟨meets, ?_, alone.mpr nofun⟩
  rw [ends, warnings]
  rfl

/-- A program of one byte more than fits is refused on a terminal that was taken over for it. -/
theorem overlong_takes_terminal :
    (unattended (List.replicate 3585 0)).Meets (.unloaded (.programTooLarge 3585 3584)) ∧
      ¬ LeftAlone (run (unattended (List.replicate 3585 0))) := by
  have read : (Source.chunk (List.replicate 3585 0) .finished).readAll =
      .ok (List.replicate 3585 0) := by
    have some : (List.replicate 3585 (0 : UInt8)).isEmpty = false := by
      rw [List.isEmpty_replicate]
      rfl
    rw [Source.readAll, Source.readAll, some]
    simp only [List.append_nil, Bool.false_eq_true, if_false]
  have accepted : Options.ofArguments (unattended []).arguments = .ok choices := rfl
  have valid : choices.check = .ok () := Options.check_of_accepted accepted (by decide +kernel)
  have meets : (unattended (List.replicate 3585 0)).Meets _ :=
    .tooLong accepted valid rfl read (by rw [List.length_replicate]; decide)
  rw [List.length_replicate] at meets
  refine ⟨meets, ?_⟩
  rw [run_of_meets meets]
  exact Option.some_ne_none []

end Chip8.Program
