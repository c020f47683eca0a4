import Chip8.Fault
import Chip8.Journal.Event
import Chip8.Nibble

/-!
What a machine asks of the three devices that it is connected to. A device is a value of any type
with these operations; each call gives the device afterwards, so that devices may remember, count or
fail as they please.
-/
namespace Chip8

/-- One of the sixteen keys of the keypad. -/
abbrev Key := Nibble

def keyOfByte (byte : UInt8) : Key := Nibble.ofNat byte.toNat

def byteOfKey (key : Key) : UInt8 := UInt8.ofNat key.val

/-- What a call to a device of type `σ` gives: the answer, the device afterwards, and what the
device has to report. -/
structure Reply (σ α : Type) where
  answer : α
  device : σ
  events : List Event := []
  deriving Nonempty

/-- A screen of pixels that are inverted one at a time and shown on demand. Columns and rows wrap
around; inverting a pixel answers whether it was on. -/
class Screen (δ : Type) where
  clear : δ → δ
  toggle : δ → Nat → Nat → Reply δ Bool
  render : δ → Reply δ (Except DeviceError Unit)

/-- A keypad with keys that are held down and a queue of presses, of which `takePress` takes the
earliest. Nothing stops a keypad from reporting a number that is no key. -/
class Keypad (κ : Type) where
  isPressed : κ → Key → Reply κ (Except DeviceError Bool)
  takePress : κ → Reply κ (Except DeviceError (Option UInt8))
  wantsExit : κ → Reply κ Bool

namespace Keypad

variable {κ : Type} [Keypad κ]

/-- Takes one more press, `events` having been reported before. Gives what to go on with, or how it
ends where none is left or the call fails. -/
def discardOne (events : List Event) (keypad : κ) :
    List Event × κ ⊕ Reply κ (Except DeviceError Unit) :=
  let reply := takePress keypad
  match reply.answer with
  | .error error => .inr ⟨.error error, reply.device, events ++ reply.events⟩
  | .ok none => .inr ⟨.ok (), reply.device, events ++ reply.events⟩
  | .ok (some _) => .inl (events ++ reply.events, reply.device)

/-- Takes presses until it ends. Nothing bounds this loop: a keypad that answers every call with a
press keeps it going for good. -/
def discardAfter (events : List Event) (keypad : κ) : Reply κ (Except DeviceError Unit) :=
  haveI : Nonempty κ := ⟨keypad⟩
  Id.run (repeatM (fun rest => pure (discardOne rest.1 rest.2)) (events, keypad))

theorem discardAfter_eq (events : List Event) (keypad : κ) :
    discardAfter events keypad =
      (discardOne events keypad).elim (fun rest => discardAfter rest.1 rest.2) id := by
  have : Nonempty κ := ⟨keypad⟩
  rw [discardAfter, repeatM_eq_of_monadTail]
  simp only [repeatM.body, pure_bind]
  cases discardOne events keypad <;> rfl

/-- Forgets every press not yet taken. -/
def discardPresses (keypad : κ) : Reply κ (Except DeviceError Unit) := discardAfter [] keypad

/-- How taking one press after the other ends, if it ends. -/
inductive Drains : κ → Except DeviceError Unit → Prop where
  | dry {keypad : κ} (empty : (takePress keypad).answer = .ok none) : Drains keypad (.ok ())
  | broken {keypad : κ} {error : DeviceError} (failed : (takePress keypad).answer = .error error) :
      Drains keypad (.error error)
  | more {keypad : κ} {press : UInt8} {answer : Except DeviceError Unit}
      (taken : (takePress keypad).answer = .ok (some press))
      (later : Drains (takePress keypad).device answer) : Drains keypad answer

/-- Whether the presses come to an end before a call fails. -/
abbrev RunsDry (keypad : κ) : Prop := Drains keypad (.ok ())

/-- Whether some call fails, and those before it gave presses. -/
abbrev Breaks (keypad : κ) (error : DeviceError) : Prop := Drains keypad (.error error)

/-- Where no press is left to take, one call tells. -/
theorem discardPresses_of_empty {keypad : κ} (empty : (takePress keypad).answer = .ok none) :
    discardPresses keypad = ⟨.ok (), (takePress keypad).device, (takePress keypad).events⟩ := by
  simp only [discardPresses, discardAfter_eq [], discardOne, empty]
  rfl

theorem answer_discardAfter {keypad : κ} {answer : Except DeviceError Unit}
    (drains : Drains keypad answer) (events : List Event) :
    (discardAfter events keypad).answer = answer := by
  induction drains generalizing events with
  | dry empty => simp only [discardAfter_eq events, discardOne, empty, Sum.elim_inr, id]
  | broken failed => simp only [discardAfter_eq events, discardOne, failed, Sum.elim_inr, id]
  | more taken _ ih =>
    simp only [discardAfter_eq events, discardOne, taken, Sum.elim_inl]
    exact ih _

/-- A loop that ends answers as its last call does. -/
theorem answer_discardPresses {keypad : κ} {answer : Except DeviceError Unit}
    (drains : Drains keypad answer) : (discardPresses keypad).answer = answer :=
  answer_discardAfter drains []

end Keypad

/-- A speaker that sounds one tone or none. Playing while a tone sounds changes nothing, and neither
does stopping while none does. -/
class Speaker (τ : Type) where
  play : τ → UInt16 → Reply τ (Except DeviceError Unit)
  stop : τ → Reply τ (Except DeviceError Unit)
  isPlaying : τ → Bool

end Chip8
