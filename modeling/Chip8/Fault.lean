import Chip8.Hex

namespace Chip8

/-- A failure of a device or a file. -/
inductive DeviceError where
  | reported (text : String)
  | system (code : Nat) (kind text : String)
  deriving DecidableEq, Inhabited, Repr

def DeviceError.message : DeviceError → String
  | .reported text => text
  | .system code _ text => s!"{text} (os error {code})"

/-- The cause of a failed step, cycle, run or load. -/
inductive Fault where
  | unknownOpcode (word : UInt16)
  | stackUnderflow
  -- A call with `depth` return addresses already held, which is as many as fit.
  | stackOverflow (depth : Nat)
  | memoryOutOfBounds (addr len : Nat)
  | programTooLarge (size max : Nat)
  | halted
  | device (error : DeviceError)
  deriving DecidableEq, Repr

def Fault.message : Fault → String
  | .unknownOpcode word => "unknown opcode 0x" ++ Hex.padded 4 word.toNat
  | .stackUnderflow => "return with an empty call stack"
  | .stackOverflow depth => s!"call stack overflow ({depth} frames)"
  | .memoryOutOfBounds addr len =>
    "memory access out of bounds: 0x" ++ Hex.padded 4 addr ++ s!" (+{len} bytes)"
  | .programTooLarge size max => s!"program is {size} bytes, only {max} bytes fit after 0x200"
  | .halted => "interpreter is halted"
  | .device error => "device i/o failed: " ++ error.message

end Chip8
