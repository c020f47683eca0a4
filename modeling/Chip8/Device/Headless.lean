import Chip8.Device
import Chip8.FrameBuffer

namespace Chip8

/-- A screen that nobody sees. -/
structure HeadlessScreen (grid : Grid) where
  frame : FrameBuffer grid
  renders : Nat := 0
  renderFailure : Option DeviceError := none

def HeadlessScreen.blank (grid : Grid) : HeadlessScreen grid where
  frame := FrameBuffer.blank grid

instance {grid : Grid} : Screen (HeadlessScreen grid) where
  clear screen := { screen with frame := screen.frame.clear }
  toggle screen x y :=
    let (lit, frame) := screen.frame.toggle x y
    ⟨lit, { screen with frame }, []⟩
  render screen :=
    match screen.renderFailure with
    | some error => ⟨.error error, screen, []⟩
    | none => ⟨.ok (), { screen with renders := screen.renders + 1 }, []⟩

/-- A keypad operated by script. -/
structure ScriptedKeypad where
  held : Vector Bool 16 := Vector.replicate 16 false
  queue : List Key := []
  -- How often the user is asked in vain before wanting to leave; a user without a number stays.
  patience : Option Nat := none
  isPressedFailure : Option DeviceError := none
  nextPressFailure : Option DeviceError := none

namespace ScriptedKeypad

def hold (keypad : ScriptedKeypad) (key : Key) : ScriptedKeypad :=
  { keypad with held := keypad.held.put key true }

def release (keypad : ScriptedKeypad) (key : Key) : ScriptedKeypad :=
  { keypad with held := keypad.held.put key false }

def press (keypad : ScriptedKeypad) (key : Key) : ScriptedKeypad :=
  { keypad with queue := keypad.queue ++ [key] }

def holding (keys : List Key) : ScriptedKeypad := keys.foldl hold {}

end ScriptedKeypad

instance : Keypad ScriptedKeypad where
  isPressed keypad key :=
    match keypad.isPressedFailure with
    | some error => ⟨.error error, keypad, []⟩
    | none => ⟨.ok (keypad.held.get key), keypad, []⟩
  takePress keypad :=
    match keypad.nextPressFailure with
    | some error => ⟨.error error, keypad, []⟩
    | none =>
      ⟨.ok (keypad.queue.head?.map byteOfKey), { keypad with queue := keypad.queue.tail }, []⟩
  wantsExit keypad :=
    match keypad.patience with
    | none => ⟨false, keypad, []⟩
    | some 0 => ⟨true, keypad, []⟩
    | some (count + 1) => ⟨false, { keypad with patience := some count }, []⟩

/-- The queue of a keypad operated by script is finite, so taking presses from it ends. -/
theorem ScriptedKeypad.discardPresses_eq (keypad : ScriptedKeypad) :
    Keypad.discardPresses keypad =
      match keypad.nextPressFailure with
      | some error => ⟨.error error, keypad, []⟩
      | none => ⟨.ok (), { keypad with queue := [] }, []⟩ := by
  obtain ⟨held, queue, patience, isPressedFailure, nextPressFailure⟩ := keypad
  rw [Keypad.discardPresses]
  cases nextPressFailure with
  | some error =>
    rw [Keypad.discardAfter_eq]
    rfl
  | none =>
    induction queue with
    | nil =>
      rw [Keypad.discardAfter_eq]
      rfl
    | cons key rest ih =>
      rw [Keypad.discardAfter_eq]
      exact ih

/-- A speaker that makes no sound but remembers what it was asked for. -/
structure MuteSpeaker where
  tone : Option UInt16 := none
  starts : Nat := 0
  playFailure : Option DeviceError := none
  stopFailure : Option DeviceError := none

instance : Speaker MuteSpeaker where
  play speaker hz :=
    match speaker.playFailure with
    | some error => ⟨.error error, speaker, []⟩
    | none =>
      match speaker.tone with
      | some _ => ⟨.ok (), speaker, []⟩
      | none => ⟨.ok (), { speaker with tone := some hz, starts := speaker.starts + 1 }, []⟩
  stop speaker :=
    match speaker.stopFailure with
    | some error => ⟨.error error, speaker, []⟩
    | none => ⟨.ok (), { speaker with tone := none }, []⟩
  isPlaying speaker := speaker.tone.isSome

end Chip8
