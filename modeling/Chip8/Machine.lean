import Chip8.Device
import Chip8.FrameBuffer
import Chip8.Instruction
import Chip8.Journal
import Chip8.Memory
import Chip8.Outcome
import Chip8.Random

namespace Chip8

/-- What a machine does next. -/
inductive Mode where
  | running
  | awaiting (x : Register)
  | halted
  deriving DecidableEq, Repr

structure Settings where
  -- Instructions in a cycle; zero counts as one.
  speed : Nat := 10
  rate : Binary64 := ⟨0x404e000000000000⟩
  tone : UInt16 := 440
  -- The start of the random bytes. Without one they are those of seed zero.
  seed : Option UInt64 := none
  -- Whether a block transfer up to register `x` moves `x` too.
  inclusive : Bool := false
  deriving DecidableEq, Repr

/-- What instructions work on. -/
structure Core where
  memory : Memory
  v : Vector UInt8 16
  i : UInt16
  pc : UInt16
  -- The return addresses, the latest first.
  stack : List UInt16
  delay : UInt8
  sound : UInt8
  mode : Mode
  random : RandomStream

/-- A machine with a screen of type `δ`, a keypad of type `κ` and a speaker of type `τ`. -/
structure Machine (δ κ τ : Type) extends Core where
  screen : δ
  keypad : κ
  speaker : τ
  settings : Settings
  toneLost : Bool := false
  journal : Journal

def Core.initial (seed : Option UInt64) : Core where
  memory := Memory.fresh
  v := Vector.replicate 16 0
  i := 0
  pc := 0x200
  stack := []
  delay := 0
  sound := 0
  mode := .running
  random := RandomStream.ofSeed (seed.getD 0)

namespace Machine

variable {δ κ τ : Type}

def maxDepth : Nat := 16

/-- Switches a machine on. -/
def create (settings : Settings) (screen : δ) (keypad : κ) (speaker : τ)
    (journal : Journal := Journal.silent) : Machine δ κ τ :=
  { Core.initial settings.seed with screen, keypad, speaker, settings, journal }

def batchSize (m : Machine δ κ τ) : Nat := max m.settings.speed 1

def note (m : Machine δ κ τ) (event : Event) : Machine δ κ τ :=
  { m with journal := m.journal.record event }

/-- The machine after its screen has replied. -/
def afterScreen {α : Type} (m : Machine δ κ τ) (reply : Reply δ α) : Machine δ κ τ :=
  { m with screen := reply.device, journal := m.journal.recordAll reply.events }

def afterKeypad {α : Type} (m : Machine δ κ τ) (reply : Reply κ α) : Machine δ κ τ :=
  { m with keypad := reply.device, journal := m.journal.recordAll reply.events }

def afterSpeaker {α : Type} (m : Machine δ κ τ) (reply : Reply τ α) : Machine δ κ τ :=
  { m with speaker := reply.device, journal := m.journal.recordAll reply.events }

def isWaiting (m : Machine δ κ τ) : Bool :=
  match m.mode with
  | .awaiting _ => true
  | _ => false

/-- The register named by the low four bits of a number. -/
def register (m : Machine δ κ τ) (r : Nat) : UInt8 :=
  m.v.get (Nibble.ofNat r)

def isSounding [Speaker τ] (m : Machine δ κ τ) : Bool := Speaker.isPlaying m.speaker

def setRegister (m : Machine δ κ τ) (x : Register) (value : UInt8) : Machine δ κ τ :=
  { m with v := m.v.put x value }

/-- Sets the flag register, then register `x`, so that the second wins where they are the same. -/
def setWithFlag (m : Machine δ κ τ) (x : Register) (value flag : UInt8) : Machine δ κ τ :=
  { m with v := (m.v.put flagRegister flag).put x value }

/-- Passes over the next instruction if `condition` holds. -/
def skipWhen (m : Machine δ κ τ) (condition : Bool) : Machine δ κ τ :=
  if condition then { m with pc := m.pc + 2 } else m

/-- A timer a tick later; it stops at zero. -/
def ticked (timer : UInt8) : UInt8 := if timer = 0 then 0 else timer - 1

def tick (m : Machine δ κ τ) : Machine δ κ τ :=
  { m with delay := ticked m.delay, sound := ticked m.sound }

/-- Takes the outcome of a load. -/
def loaded (m : Machine δ κ τ) (size : Nat) : Except Fault Memory → Outcome (Machine δ κ τ) Unit
  | .ok memory =>
    .done () (({ m with memory } : Machine δ κ τ).note
      (.programLoaded size memory.programStart.val))
  | .error fault => .failed fault m

def load (m : Machine δ κ τ) (program : List UInt8) : Outcome (Machine δ κ τ) Unit :=
  m.loaded program.length (m.memory.load program)

def loadFrom (m : Machine δ κ τ) (source : Source) : Outcome (Machine δ κ τ) Unit :=
  match source.readAll with
  | .ok program => m.load program
  | .error error => .failed (.device error) m

/-- Reports a key going down. Answers whether the machine waited for one. -/
def pressKey (m : Machine δ κ τ) (key : UInt8) : Bool × Machine δ κ τ :=
  if 0xf < key then (false, m.note (.noSuchKey key))
  else
    match m.mode with
    | .awaiting x =>
      (true, { (m.note (.keyDelivered key x)).setRegister x key with mode := .running })
    | _ => (false, m)

end Machine

end Chip8
