import Chip8.Device
import Chip8.FrameBuffer.Picture

namespace Chip8

/-- A screen drawn with characters. -/
structure TerminalScreen (grid : Grid) where
  frame : FrameBuffer grid
  shown : Option (List String) := none
  renderFailure : Option DeviceError := none

def TerminalScreen.blank (grid : Grid) : TerminalScreen grid where
  frame := FrameBuffer.blank grid

instance {grid : Grid} : Screen (TerminalScreen grid) where
  clear screen := { screen with frame := screen.frame.clear }
  toggle screen x y :=
    let (lit, frame) := screen.frame.toggle x y
    ⟨lit, { screen with frame }, []⟩
  render screen :=
    match screen.renderFailure with
    | some error => ⟨.error error, screen, []⟩
    | none => ⟨.ok (), { screen with shown := some screen.frame.picture }, []⟩

end Chip8
