import Chip8.Device.Beeper
import Chip8.Device.Headless
import Chip8.Device.Keyboard
import Chip8.Device.Terminal
import Chip8.Journal.Filter.Reader
import Chip8.Machine.Run
import Chip8.Options.Help
import Chip8.Options.Reader

/-!
The program: it reads its arguments, opens the file with the program to run, and runs a machine in
the terminal until a limit, a fault or the user ends it. How long a cycle takes shows in what the
looks at the terminal find, and nowhere else.
-/
namespace Chip8.Program

/-- A machine in the terminal, with a speaker of type `τ`. -/
abbrev TerminalMachine (τ : Type) := Machine (TerminalScreen Grid.standard) Keyboard τ

/-- What the program finds when it is started and while it runs: its arguments, the text of its log
filter, the files, what each look at the terminal will find, and how drawing on the terminal fails,
if it does. -/
structure Surroundings where
  arguments : List String
  log : String
  openPath : String → Except DeviceError Source
  looks : List Look := []
  renderFailure : Option DeviceError := none

inductive Failure where
  | invalid (reason : Options.Invalid)
  | unopened (error : DeviceError)
  | faulted (fault : Fault)

/-- What the program leaves behind. -/
structure Report where
  status : Nat
  errors : List String := []
  output : String := ""
  -- The rows on the terminal, if it was taken over; none if nothing was shown on it.
  screen : Option (List String) := none
  deriving DecidableEq, Repr

def version : String := "chip8-vm 0.1.0"

/-- A named group of fields in braces. -/
def record (name : String) (fields : List (String × String)) : String :=
  let written := fields.map fun (field, value) => field ++ ": " ++ value
  name ++ " \x7b " ++ ", ".intercalate written ++ " \x7d"

def deviceErrorText : DeviceError → String
  | .reported text => record "Custom" [("kind", "Other"), ("error", text.quote)]
  | .system code kind text =>
    record "Os" [("code", toString code), ("kind", kind), ("message", text.quote)]

def faultText : Fault → String
  | .unknownOpcode word => s!"UnknownOpcode({word.toNat})"
  | .stackUnderflow => "StackUnderflow"
  | .stackOverflow depth => record "StackOverflow" [("depth", toString depth)]
  | .memoryOutOfBounds addr len =>
    record "MemoryOutOfBounds" [("addr", toString addr), ("len", toString len)]
  | .programTooLarge size max =>
    record "ProgramTooLarge" [("size", toString size), ("max", toString max)]
  | .halted => "Halted"
  | .device error => "Io(" ++ deviceErrorText error ++ ")"

def Failure.line : Failure → String
  | invalid reason => "Error: " ++ reason.message.quote
  | unopened error => "Error: " ++ deviceErrorText error
  | faulted fault => "Error: " ++ faultText fault

/-- The report of a run that failed before the terminal was taken over. -/
def Report.early (failure : Failure) : Report where
  status := 1
  errors := [failure.line]

def Report.ofMachine {τ : Type} (fault : Option Fault) (m : TerminalMachine τ) : Report where
  status := if fault.isSome then 1 else 0
  errors := m.journal.lines ++ (fault.map fun fault => (Failure.faulted fault).line).toList
  screen := some (m.screen.shown.getD [])

def Report.after (report : Report) (lines : List String) : Report :=
  { report with errors := lines ++ report.errors }

/-- Silences the speaker, whether it obeys or not. -/
def silence {τ : Type} [Speaker τ] (m : TerminalMachine τ) : TerminalMachine τ :=
  m.afterSpeaker (Speaker.stop m.speaker)

def Surroundings.filter (surroundings : Surroundings) : Filter := (Filter.read surroundings.log).1

/-- The lines that warn of what is passed over in the filter. -/
def Surroundings.warnings (surroundings : Surroundings) : List String :=
  (Filter.read surroundings.log).2.flatMap Filter.Warning.lines

def machine {τ : Type} (surroundings : Surroundings) (options : Options) (speaker : τ) :
    TerminalMachine τ :=
  let screen :=
    { TerminalScreen.blank Grid.standard with renderFailure := surroundings.renderFailure }
  Machine.create options.toSettings screen { looks := surroundings.looks } speaker
    ⟨surroundings.filter, []⟩

def play {τ : Type} [Speaker τ] (surroundings : Surroundings) (options : Options) (source : Source)
    (speaker : τ) : Report :=
  match (machine surroundings options speaker).loadFrom source with
  | .failed fault m => Report.ofMachine (some fault) m
  | .done () m =>
    match m.run options.frames with
    | .done _ m => Report.ofMachine none (silence m)
    | .failed fault m => Report.ofMachine (some fault) (silence m)

def runWith (surroundings : Surroundings) (options : Options) : Report :=
  match options.check with
  | .error reason => Report.early (.invalid reason)
  | .ok () =>
    match surroundings.openPath options.rom with
    | .error error => Report.early (.unopened error)
    | .ok source =>
      if options.mute then play surroundings options source ({} : MuteSpeaker)
      else play surroundings options source ({} : Beeper)

/-- Answers a request for information. -/
def inform : Options.Refusal → Option Report
  | .displayVersion => some { status := 0, output := version }
  | .displayHelp => some { status := 0, output := Options.help }
  | _ => none

/-- Runs the program, unless its arguments are refused. Warnings come before all else. -/
def run (surroundings : Surroundings) : Except Options.Refusal Report :=
  match Options.ofArguments surroundings.arguments with
  | .ok options => .ok ((runWith surroundings options).after surroundings.warnings)
  | .error refusal =>
    match inform refusal with
    | some report => .ok (report.after surroundings.warnings)
    | none => .error refusal

end Chip8.Program
