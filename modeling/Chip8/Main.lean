import Chip8.Program

/-!
The command line. This module reads the file, the clock and the keyboard, shows the screen and the
journal, and keeps the pace; what happens in a cycle is settled by the machine.

Keys are typed as lines: each character of a line counts as a key, and an escape character ends the
run.
-/
namespace Chip8

/-- What a typed character reports. -/
def typedEvent (c : Char) : Option TerminalEvent :=
  if c = '\n' ∨ c = '\r' then none
  else if c = '\x1b' then some .escape
  else some (.character c)

def notFound : DeviceError := .system 2 "NotFound" "No such file or directory"

/-- Opens a file. Only whether it could be read is known, so every failure is reported alike. -/
def openFile (path : String) : IO (Except DeviceError Source) := do
  try
    let content ← IO.FS.readBinFile path
    return .ok (.chunk content.toList .finished)
  catch _ => return .error notFound

def showRows (rows : List String) : IO Unit :=
  IO.print ("\x1b[H" ++ "\n".intercalate rows ++ "\n")

def showJournal {τ : Type} (m : Program.TerminalMachine τ) : IO (Program.TerminalMachine τ) := do
  for line in m.journal.lines do IO.eprintln line
  return { m with journal.kept := [] }

/-- Hands over to the keyboard what was typed and what the clock says. -/
def listen {τ : Type} (typing : Task (Except IO.Error String)) (m : Program.TerminalMachine τ) :
    IO (Task (Except IO.Error String) × Program.TerminalMachine τ) := do
  let keyboard := { m.keypad with now := ← IO.monoMsNow <&> (1000 * ·) }
  if ← IO.hasFinished typing then
    match typing.get with
    | .ok line =>
      let events := line.toList.filterMap typedEvent
      let keyboard := events.foldl Keyboard.report keyboard
      let typing ← if line.isEmpty then pure typing else IO.asTask (do (← IO.getStdin).getLine)
      return (typing, { m with keypad := keyboard })
    | .error _ => return (typing, { m with keypad := keyboard })
  else return (typing, { m with keypad := keyboard })

/-- Runs cycles until a limit, a fault or the user ends the run; answers the fault. -/
partial def runInTerminal {τ : Type} [Speaker τ] (pause : UInt32) (limit count : Nat)
    (typing : Task (Except IO.Error String)) (m : Program.TerminalMachine τ) :
    IO (Option Fault × Program.TerminalMachine τ) := do
  if limit ≤ count then return (none, m)
  let (typing, m) ← listen typing m
  match Machine.runFrom 1 count m with
  | .failed fault m => return (some fault, ← showJournal m)
  | .done reached m =>
    let m ← showJournal m
    if reached = count then return (none, m)
    showRows (m.screen.shown.getD [])
    IO.sleep pause
    runInTerminal pause limit reached typing m

def pauseOf (rate : Binary64) : UInt32 := (1000 / Float.ofBits rate.bits).toUInt32

/-- Loads the program to run and runs it in the terminal. -/
def playInTerminal {τ : Type} [Speaker τ] (log : String) (options : Options) (source : Source)
    (speaker : τ) : IO UInt32 := do
  let surroundings : Program.Surroundings :=
    { arguments := [], log, openPath := fun _ => .ok source }
  match (Program.machine surroundings options speaker).loadFrom source with
  | .failed fault _ =>
    IO.eprintln (Program.Failure.faulted fault).line
    return 1
  | .done () m =>
    let m ← showJournal (m.note (.running options.rate m.batchSize))
    let typing ← IO.asTask (do (← IO.getStdin).getLine)
    let limit := Machine.cycleLimit options.frames
    let (fault, m) ← runInTerminal (pauseOf options.rate) limit 0 typing m
    discard (showJournal (Program.silence m))
    match fault with
    | none => return 0
    | some fault =>
      IO.eprintln (Program.Failure.faulted fault).line
      return 1

def runInTerminalWith (log : String) (options : Options) : IO UInt32 := do
  match options.check with
  | .error reason =>
    IO.eprintln (Program.Failure.invalid reason).line
    return 1
  | .ok () =>
    match ← openFile options.rom with
    | .error error =>
      IO.eprintln (Program.Failure.unopened error).line
      return 1
    | .ok source =>
      if options.mute then playInTerminal log options source ({} : MuteSpeaker)
      else playInTerminal log options source ({} : Beeper)

end Chip8

/-- Reads the command line and runs a program in the terminal. -/
def main (arguments : List String) : IO UInt32 := do
  let log := (← IO.getEnv "RUST_LOG").getD ""
  for warning in (Chip8.Filter.read log).2 do warning.lines.forM IO.eprintln
  match Chip8.Options.ofArguments arguments with
  | .ok options => Chip8.runInTerminalWith log options
  | .error .displayVersion =>
    IO.println Chip8.Program.version
    return 0
  | .error .displayHelp =>
    IO.println Chip8.Options.help
    return 0
  | .error _ =>
    IO.eprintln "Usage: chip8-vm [OPTIONS] <ROM>"
    return 2
