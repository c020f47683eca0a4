import Chip8.Binary64.Read
import Chip8.Binary64.Write
import Chip8.Machine

namespace Chip8

structure Options extends Settings where
  rom : String := ""
  mute : Bool := false
  frames : Option UInt64 := none
  deriving DecidableEq, Repr

/-- Why a choice cannot be used. -/
inductive Options.Invalid where
  | rate (rate : Binary64)
  | speed
  deriving DecidableEq, Repr

namespace Options

def Invalid.message : Invalid → String
  | .rate value => "fps must be in (0, 1000], got " ++ value.write
  | .speed => "speed must be at least 1"

/-- Most cycles in a second. -/
def maxRate : Nat := 1000

/-- Checks the choices that reading them does not check. -/
def check (options : Options) : Except Invalid Unit :=
  if ¬ options.rate.InRange maxRate then .error (.rate options.rate)
  else if options.speed = 0 then .error .speed
  else .ok ()

end Options

end Chip8
