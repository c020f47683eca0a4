import Chip8.Main
import Chip8.Proofs.Machine.Execution
import Chip8.Proofs.Machine.Step
import Chip8.Proofs.Machine.Atomicity
import Chip8.Proofs.Machine.Bounds
import Chip8.Proofs.Machine.Strict
import Chip8.Proofs.Machine.Safety
import Chip8.Proofs.Instruction.Word
import Chip8.Proofs.Machine.Faults
import Chip8.Proofs.Machine.Cycle
import Chip8.Proofs.Machine.Halting
import Chip8.Proofs.Machine.Nesting
import Chip8.Proofs.Device.Scripted
import Chip8.Proofs.Waiting.Course
import Chip8.Proofs.Waiting.Delivery
import Chip8.Proofs.Machine.Correspondence
import Chip8.Proofs.Device.Terminal
import Chip8.Proofs.Journal.Errors
import Chip8.Proofs.Options.Accepted
import Chip8.Proofs.Program.Agreement
import Chip8.Proofs.FrameBuffer.Packing
import Chip8.Proofs.FrameBuffer.Parity
import Chip8.Proofs.Device.Keyboard
import Chip8.Proofs.FrameBuffer.Picture
import Chip8.Proofs.Machine.Trace
import Chip8.Proofs.Machine.Draws
import Chip8.Proofs.Sound.Unheard
import Chip8.Proofs.Sound.Following
import Chip8.Proofs.Machine.Speed
import Chip8.Proofs.Machine.Life
import Chip8.Proofs.Machine.MainLoop
import Chip8.Proofs.Memory.Editing
import Chip8.Proofs.Instruction.Layout
import Chip8.Proofs.Machine.Assembly
import Chip8.Proofs.Machine.NextAddress
import Chip8.Proofs.Machine.Footprint
import Chip8.Proofs.Machine.Drawing
import Chip8.Proofs.Machine.Loading
import Chip8.Proofs.Machine.Arithmetic
import Chip8.Proofs.Machine.Transfer
import Chip8.Proofs.Machine.Timers
import Chip8.Proofs.Options.Reading
import Chip8.Proofs.Program.Start
