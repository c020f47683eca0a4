import Chip8.Binary64.Write
import Chip8.Fault
import Chip8.Instruction.Text

namespace Chip8

/-- How much an event matters, the gravest first. -/
inductive Level where
  | error | warn | info | debug | trace
  deriving DecidableEq, Repr

namespace Level

/-- Position in the order of gravity. -/
def rank : Level → Nat
  | error => 1
  | warn => 2
  | info => 3
  | debug => 4
  | trace => 5

def name : Level → String
  | error => "ERROR"
  | warn => "WARN"
  | info => "INFO"
  | debug => "DEBUG"
  | trace => "TRACE"

def all : List Level := [error, warn, info, debug, trace]

end Level

/-- The part of the console that reports an event. -/
inductive Reporter where
  | memory | interpreter | input | sound
  deriving DecidableEq, Repr

def Reporter.name : Reporter → String
  | memory => "chip8::memory"
  | interpreter => "chip8::interpreter"
  | input => "chip8::input"
  | sound => "chip8::sound"

/-- Something worth reporting. -/
inductive Event where
  | programLoaded (size start : Nat)
  | running (rate : Binary64) (speed : Nat)
  | exitRequested (cycles : Nat)
  | executing (pc word : UInt16) (instruction : Instruction)
  | routineIgnored (target : Address)
  | called (target : Address) (depth : Nat)
  | returned (target : UInt16) (depth : Nat)
  | waiting (x : Register)
  | keyDelivered (key : UInt8) (x : Register)
  | noSuchKey (key : UInt8)
  | toneLost (error : DeviceError)
  | halting (pc : UInt16) (fault : Fault)
  | unmappedCharacter (c : Char)
  | unknownKey (name : String)
  | escapePressed
  | notAKey
  | keyboardFailed (error : DeviceError)
  | toneStarted (hz : UInt16)
  | toneStopped
  deriving DecidableEq, Repr

namespace Event

def level : Event → Level
  | halting .. => .error
  | noSuchKey .. | toneLost .. | unmappedCharacter .. | unknownKey .. | keyboardFailed .. => .warn
  | programLoaded .. | running .. | exitRequested .. => .info
  | routineIgnored .. | called .. | returned .. | waiting .. | keyDelivered .. | escapePressed
  | notAKey | toneStarted .. | toneStopped => .debug
  | executing .. => .trace

def reporter : Event → Reporter
  | programLoaded .. => .memory
  | unmappedCharacter .. | unknownKey .. | escapePressed | notAKey | keyboardFailed .. => .input
  | toneStarted .. | toneStopped => .sound
  | _ => .interpreter

/-- An address with at least three digits. -/
def addressText (addr : Nat) : String := "0x" ++ Hex.padded 3 addr

def registerText (x : Register) : String := "V" ++ (Hex.padded 1 x.val).toUpper

def message : Event → String
  | programLoaded size start => s!"loaded {size} byte program at " ++ addressText start
  | running rate speed => s!"running at {rate.write} cycles/s, {speed} instructions/cycle"
  | exitRequested cycles => s!"exit requested after {cycles} cycles"
  | executing pc word instruction =>
    Hex.padded 3 pc.toNat ++ ": " ++ Hex.padded 4 word.toNat ++ " " ++ instruction.text
  | routineIgnored target => "ignoring SYS " ++ addressText target.val
  | called target depth => "call " ++ addressText target.val ++ s!", depth {depth}"
  | returned target depth => "return to " ++ addressText target.toNat ++ s!", depth {depth}"
  | waiting x => "waiting for a key for " ++ registerText x
  | keyDelivered key x =>
    "key 0x" ++ Hex.padded 1 key.toNat ++ " -> " ++ registerText x ++ ", resuming"
  | noSuchKey key => "ignoring press of non-existent key 0x" ++ Hex.padded 2 key.toNat
  | toneLost error => "tone sink failed, carrying on silently: " ++ error.message
  | halting pc fault => "halting at pc " ++ addressText pc.toNat ++ ": " ++ fault.message
  | unmappedCharacter c => "can't map " ++ c.quote ++ " to a COSMAC key"
  | unknownKey name => "unknown key event received: " ++ name
  | escapePressed => "escape pressed, requesting exit"
  | notAKey => "ignoring non-key terminal event"
  | keyboardFailed error => "failed to read keyboard: " ++ error.message
  | toneStarted hz => s!"beep on at {hz.toNat}Hz"
  | toneStopped => "beep off"

/-- The journal's line: level in five columns, reporter, text. -/
def line (event : Event) : String :=
  let level := event.level.name
  let blanks := String.ofList (List.replicate (5 - level.length) ' ')
  "[" ++ level ++ blanks ++ " " ++ event.reporter.name ++ "] " ++ event.message

end Event

end Chip8
