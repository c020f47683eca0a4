import Chip8.Machine.Execute

/-!
Running a machine by the instruction (`step`), by the cycle (`cycle`) and by many cycles (`run`).

A cycle executes a batch of instructions, ticks the timers, brings the speaker in line with the
sound timer and shows the screen. A machine that waits for a key first asks the keypad for one;
while it goes on waiting it executes nothing and its timers stand still. A fault of any of these
operations halts the machine, and a halted machine runs no more.

Between two cycles of a run its host sleeps, so that there are as many in a second as the settings
ask for. Nothing here depends on that pause: the rate of cycles is only noted in the journal, and
the time that passes is told by the keypad.
-/
namespace Chip8.Machine

variable {δ κ τ : Type}

def fetchAndExecute [Screen δ] [Keypad κ] (m : Machine δ κ τ) : Outcome (Machine δ κ τ) Unit :=
  match m.memory.readWord m.pc with
  | .error fault => .failed fault m
  | .ok word =>
    match Instruction.decode word with
    | .error fault => .failed fault m
    | .ok instruction =>
      ({ m.note (.executing m.pc word instruction) with pc := m.pc + 2 } : Machine δ κ τ).execute
        instruction

/-- Halts the machine, unless it has halted already. -/
def halt (m : Machine δ κ τ) (fault : Fault) : Machine δ κ τ :=
  match m.mode with
  | .halted => m
  | _ => { m.note (.halting m.pc fault) with mode := .halted }

/-- An operation after which a fault has halted the machine. -/
def guarded {α : Type} : Outcome (Machine δ κ τ) α → Outcome (Machine δ κ τ) α
  | .done value m => .done value m
  | .failed fault m => .failed fault (m.halt fault)

/-- Executes one instruction; a waiting machine does nothing. -/
def step [Screen δ] [Keypad κ] (m : Machine δ κ τ) : Outcome (Machine δ κ τ) Unit :=
  match m.mode with
  | .halted => .failed .halted m
  | .awaiting _ => finish m
  | .running => guarded m.fetchAndExecute

/-- Executes up to `count` instructions, for as long as the machine is running. -/
def batch [Screen δ] [Keypad κ] : Nat → Machine δ κ τ → Outcome (Machine δ κ τ) Unit
  | 0, m => finish m
  | count + 1, m =>
    match m.mode with
    | .running => m.fetchAndExecute.andThen fun _ m => batch count m
    | _ => finish m

/-- Asks the keypad for a key, if the machine waits for one. -/
def pollKey [Keypad κ] (m : Machine δ κ τ) : Outcome (Machine δ κ τ) Unit :=
  match m.mode with
  | .halted => .failed .halted m
  | .running => finish m
  | .awaiting _ =>
    let reply := Keypad.takePress m.keypad
    let m := m.afterKeypad reply
    match reply.answer with
    | .error error => .failed (.device error) m
    | .ok none => finish m
    | .ok (some key) => finish (m.pressKey key).2

def tickWhenRunning (m : Machine δ κ τ) : Machine δ κ τ :=
  match m.mode with
  | .running => m.tick
  | _ => m

/-- Brings the speaker in line with the sound timer. A speaker that fails is given up. -/
def driveSpeaker [Speaker τ] (m : Machine δ κ τ) : Machine δ κ τ :=
  if m.toneLost then m
  else
    let reply :=
      if 0 < m.sound then Speaker.play m.speaker m.settings.tone else Speaker.stop m.speaker
    let m := m.afterSpeaker reply
    match reply.answer with
    | .ok () => m
    | .error error => { m.note (.toneLost error) with toneLost := true }

def render [Screen δ] (m : Machine δ κ τ) : Outcome (Machine δ κ τ) Unit :=
  let reply := Screen.render m.screen
  let m := m.afterScreen reply
  match reply.answer with
  | .ok () => finish m
  | .error error => .failed (.device error) m

/-- What a cycle does after its batch of instructions. -/
def endCycle [Screen δ] [Speaker τ] (m : Machine δ κ τ) : Outcome (Machine δ κ τ) Unit :=
  m.tickWhenRunning.driveSpeaker.render

variable [Screen δ] [Keypad κ] [Speaker τ]

def cycle (m : Machine δ κ τ) : Outcome (Machine δ κ τ) Unit :=
  guarded ((m.pollKey.andThen fun _ m => m.batch m.batchSize).andThen fun _ m => m.endCycle)

/-- Runs up to `limit` cycles after the first `count`, until the keypad asks for the end. -/
def runFrom : (limit count : Nat) → Machine δ κ τ → Outcome (Machine δ κ τ) Nat
  | 0, count, m => .done count m
  | limit + 1, count, m =>
    let reply := Keypad.wantsExit m.keypad
    let m := m.afterKeypad reply
    if reply.answer then .done count (m.note (.exitRequested count))
    else m.cycle.andThen fun _ m => runFrom limit (count + 1) m

/-- Cycles are counted in 64 bits, so a run without a limit ends when the count does. -/
def cycleLimit (frames : Option UInt64) : Nat := frames.elim UInt64.size UInt64.toNat

/-- Runs up to `frames` cycles, until the keypad asks for the end. Answers the number of cycles. -/
def run (m : Machine δ κ τ) (frames : Option UInt64) : Outcome (Machine δ κ τ) Nat :=
  runFrom (cycleLimit frames) 0 (m.note (.running m.settings.rate m.batchSize))

end Chip8.Machine
