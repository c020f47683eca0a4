import Chip8.Device

/-!
The keypad laid out on the left half of a terminal's keyboard:

    1 2 3 4        1 2 3 C
    Q W E R   for  4 5 6 D
    A S D F        7 8 9 E
    Z X C V        A 0 B F

A terminal reports presses and their repeats but no releases. A key therefore counts as held for a
fixed time after its latest report, and a report of a key that is still held is no new press.
-/
namespace Chip8

structure Modifiers where
  shift : Bool := false
  control : Bool := false
  alt : Bool := false
  deriving DecidableEq, Repr

inductive TerminalEvent where
  | character (c : Char) (modifiers : Modifiers := {})
  | escape
  | otherKey (name : String)
  | other
  deriving DecidableEq, Repr

/-- A look at the terminal: how many microseconds pass until it is over, and what it finds. There
may be nothing to report, and a look can fail. -/
structure Look where
  elapsed : Nat := 0
  found : Except DeviceError (Option TerminalEvent)

/-- The keypad of a terminal. Times are in microseconds. What the looks at the terminal will find is
given; after the last of them there is nothing to report. -/
structure Keyboard where
  now : Nat := 0
  looks : List Look := []
  heldUntil : Vector (Option Nat) 16 := Vector.replicate 16 none
  presses : List Key := []
  exit : Bool := false

namespace Keyboard

/-- The key under a lower-case character. -/
def layout : List (Char × Nat) :=
  [('x', 0x0), ('1', 0x1), ('2', 0x2), ('3', 0x3), ('q', 0x4), ('w', 0x5), ('e', 0x6), ('a', 0x7),
    ('s', 0x8), ('d', 0x9), ('z', 0xa), ('c', 0xb), ('4', 0xc), ('r', 0xd), ('f', 0xe), ('v', 0xf)]

/-- The key for a typed character. Letters count in both cases. -/
def keyOfChar? (c : Char) : Option Key := (layout.lookup c.toLower).map Nibble.ofNat

/-- How long a key counts as held after a report. -/
def holdTime : Nat := 150000

def isHeld (keyboard : Keyboard) (key : Key) : Bool :=
  (keyboard.heldUntil.get key).any fun limit => keyboard.now < limit

def press (keyboard : Keyboard) (key : Key) : Keyboard :=
  { keyboard with
    heldUntil := keyboard.heldUntil.put key (some (keyboard.now + holdTime))
    presses := if keyboard.isHeld key then keyboard.presses else keyboard.presses ++ [key] }

/-- Takes note of one report of the terminal. Modifiers make no difference. -/
def receive (keyboard : Keyboard) : TerminalEvent → Keyboard × List Event
  | .character c _ =>
    match keyOfChar? c with
    | some key => (keyboard.press key, [])
    | none => (keyboard, [.unmappedCharacter c])
  | .escape => ({ keyboard with exit := true }, [.escapePressed])
  | .otherKey name => (keyboard, [.unknownKey name])
  | .other => (keyboard, [.notAKey])

def advance (keyboard : Keyboard) (microseconds : Nat) : Keyboard :=
  { keyboard with now := keyboard.now + microseconds }

/-- Looks at the terminal, taking note of what it reports, until there is nothing to report or a
look fails. -/
def lookOn (keyboard : Keyboard) : List Look → Reply Keyboard (Except DeviceError Unit)
  | [] => ⟨.ok (), { keyboard with looks := [] }, []⟩
  | look :: rest =>
    let keyboard := keyboard.advance look.elapsed
    match look.found with
    | .error error => ⟨.error error, { keyboard with looks := rest }, []⟩
    | .ok none => ⟨.ok (), { keyboard with looks := rest }, []⟩
    | .ok (some event) =>
      let (keyboard, noted) := keyboard.receive event
      let reply := keyboard.lookOn rest
      { reply with events := noted ++ reply.events }

/-- Reads what the terminal reports by now. -/
def readTerminal (keyboard : Keyboard) : Reply Keyboard (Except DeviceError Unit) :=
  keyboard.lookOn keyboard.looks

/-- Has a later look find a report. -/
def report (keyboard : Keyboard) (event : TerminalEvent) : Keyboard :=
  { keyboard with looks := keyboard.looks ++ [{ found := .ok (some event) }] }

end Keyboard

instance : Keypad Keyboard where
  isPressed keyboard key :=
    let reply := keyboard.readTerminal
    ⟨reply.answer.map fun () => reply.device.isHeld key, reply.device, reply.events⟩
  takePress keyboard :=
    let reply := keyboard.readTerminal
    match reply.answer with
    | .error error => ⟨.error error, reply.device, reply.events⟩
    | .ok () =>
      ⟨.ok (reply.device.presses.head?.map byteOfKey),
        { reply.device with presses := reply.device.presses.tail }, reply.events⟩
  wantsExit keyboard :=
    let reply := keyboard.readTerminal
    match reply.answer with
    | .error error => ⟨reply.device.exit, reply.device, reply.events ++ [.keyboardFailed error]⟩
    | .ok () => ⟨reply.device.exit, reply.device, reply.events⟩

end Chip8
