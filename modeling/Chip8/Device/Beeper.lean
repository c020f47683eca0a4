import Chip8.Device

namespace Chip8

/-- A loudspeaker. -/
structure Beeper where
  beeping : Bool := false
  deriving DecidableEq, Repr

instance : Speaker Beeper where
  play beeper hz :=
    if beeper.beeping then ⟨.ok (), beeper, []⟩ else ⟨.ok (), ⟨true⟩, [.toneStarted hz]⟩
  stop beeper :=
    if beeper.beeping then ⟨.ok (), ⟨false⟩, [.toneStopped]⟩ else ⟨.ok (), beeper, []⟩
  isPlaying beeper := beeper.beeping

end Chip8
