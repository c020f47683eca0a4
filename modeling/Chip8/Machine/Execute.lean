import Chip8.Instruction.Decode
import Chip8.Machine
import Chip8.Machine.Sprite

/-!
The effect of each instruction. When an instruction faults, everything is left as it was; `pc` has
then already passed the instruction.
-/
namespace Chip8.Machine

variable {δ κ τ : Type}

def finish (m : Machine δ κ τ) : Outcome (Machine δ κ τ) Unit := .done () m

/-- A truth value as a flag. -/
def flag (condition : Bool) : UInt8 := if condition then 1 else 0

/-- How many registers a block transfer up to `x` moves. -/
def transferCount (m : Machine δ κ τ) (x : Register) : Nat :=
  if m.settings.inclusive then x.val + 1 else x.val

def firstRegisters (v : Vector UInt8 16) (count : Nat) : List UInt8 := v.toList.take count

/-- The registers with the first ones replaced, `start` being the number of the next. -/
def withRegisters (v : Vector UInt8 16) (start : Nat) : List UInt8 → Vector UInt8 16
  | [] => v
  | byte :: rest => withRegisters (v.setIfInBounds start byte) (start + 1) rest

/-- The three decimal digits of a byte. -/
def decimalDigits (byte : UInt8) : List UInt8 := [byte / 100, byte % 100 / 10, byte % 10]

/-- Replaces the memory by the outcome of a write. -/
def stored (m : Machine δ κ τ) : Except Fault Memory → Outcome (Machine δ κ τ) Unit
  | .ok memory => finish { m with memory }
  | .error fault => .failed fault m

def call (m : Machine δ κ τ) (target : Address) : Outcome (Machine δ κ τ) Unit :=
  if maxDepth ≤ m.stack.length then .failed (.stackOverflow m.stack.length) m
  else
    let called : Machine δ κ τ :=
      { m with stack := m.pc :: m.stack, pc := UInt16.ofNat target.val }
    finish (called.note (.called target (m.stack.length + 1)))

def ret (m : Machine δ κ τ) : Outcome (Machine δ κ τ) Unit :=
  match m.stack with
  | [] => .failed .stackUnderflow m
  | target :: rest =>
    let returned : Machine δ κ τ := { m with stack := rest, pc := target }
    finish (returned.note (.returned target rest.length))

section Screen

variable [Screen δ]

def clearScreen (m : Machine δ κ τ) : Machine δ κ τ := { m with screen := Screen.clear m.screen }

/-- Draws the `n` bytes from the index on at the place named by two registers. -/
def draw (m : Machine δ κ τ) (x y : Register) (n : Nat) : Outcome (Machine δ κ τ) Unit :=
  match m.memory.slice m.i n with
  | .error fault => .failed fault m
  | .ok rows =>
    let drawn := Sprite.draw m.screen (m.v.get x).toNat (m.v.get y).toNat rows
    let shown : Machine δ κ τ :=
      { m with screen := drawn.screen, journal := m.journal.recordAll drawn.events }
    finish (shown.setRegister flagRegister (flag drawn.collision))

end Screen

section Keypad

variable [Keypad κ]

/-- Passes over the next instruction if the key named by `x` is down, or if it is not. A number that
is no key is never down, and the keypad is not asked for it. -/
def skipOnKey (m : Machine δ κ τ) (x : Register) (down : Bool) : Outcome (Machine δ κ τ) Unit :=
  if 0xf < m.v.get x then finish (m.skipWhen (!down))
  else
    let reply := Keypad.isPressed m.keypad (keyOfByte (m.v.get x))
    let m := m.afterKeypad reply
    match reply.answer with
    | .error error => .failed (.device error) m
    | .ok held => finish (m.skipWhen (held == down))

/-- Starts to wait for a key. Presses from before the wait do not count. -/
def waitKey (m : Machine δ κ τ) (x : Register) : Outcome (Machine δ κ τ) Unit :=
  let reply := Keypad.discardPresses m.keypad
  let m := m.afterKeypad reply
  match reply.answer with
  | .error error => .failed (.device error) m
  | .ok () => finish { m.note (.waiting x) with mode := .awaiting x }

end Keypad

/-- Executes one instruction; `pc` has already passed it. -/
def execute [Screen δ] [Keypad κ] (m : Machine δ κ τ) : Instruction → Outcome (Machine δ κ τ) Unit
  | .sys nnn => finish (m.note (.routineIgnored nnn))
  | .clearScreen => finish m.clearScreen
  | .ret => m.ret
  | .jump nnn => finish { m with pc := UInt16.ofNat nnn.val }
  | .call nnn => m.call nnn
  | .skipEqImm x kk => finish (m.skipWhen (m.v.get x == kk))
  | .skipNeImm x kk => finish (m.skipWhen (m.v.get x != kk))
  | .skipEqReg x y => finish (m.skipWhen (m.v.get x == m.v.get y))
  | .skipNeReg x y => finish (m.skipWhen (m.v.get x != m.v.get y))
  | .loadImm x kk => finish (m.setRegister x kk)
  | .addImm x kk => finish (m.setRegister x (m.v.get x + kk))
  | .move x y => finish (m.setRegister x (m.v.get y))
  | .or x y => finish (m.setRegister x (m.v.get x ||| m.v.get y))
  | .and x y => finish (m.setRegister x (m.v.get x &&& m.v.get y))
  | .xor x y => finish (m.setRegister x (m.v.get x ^^^ m.v.get y))
  | .addReg x y => finish
      (m.setWithFlag x (m.v.get x + m.v.get y) (flag (255 < (m.v.get x).toNat + (m.v.get y).toNat)))
  | .subReg x y => finish
      (m.setWithFlag x (m.v.get x - m.v.get y) (flag (m.v.get y < m.v.get x)))
  | .shiftRight x _ => finish (m.setWithFlag x (m.v.get x >>> 1) (m.v.get x &&& 1))
  | .subRegInv x y => finish
      (m.setWithFlag x (m.v.get y - m.v.get x) (flag (m.v.get x < m.v.get y)))
  | .shiftLeft x _ => finish (m.setWithFlag x (m.v.get x <<< 1) (m.v.get x >>> 7))
  | .loadIndex nnn => finish { m with i := UInt16.ofNat nnn.val }
  | .jumpV0 nnn => finish { m with pc := UInt16.ofNat (nnn.val + (m.register 0).toNat) }
  | .random x kk => finish
      { m.setRegister x (m.random.byte &&& kk) with random := m.random.tail }
  | .draw x y n => m.draw x y n.val
  | .skipKeyPressed x => m.skipOnKey x true
  | .skipKeyNotPressed x => m.skipOnKey x false
  | .loadDelay x => finish (m.setRegister x m.delay)
  | .waitKey x => m.waitKey x
  | .setDelay x => finish { m with delay := m.v.get x }
  | .setSound x => finish { m with sound := m.v.get x }
  | .addIndex x => finish { m with i := m.i + (m.v.get x).toUInt16 }
  | .loadGlyph x => finish { m with i := m.memory.glyphAddress (m.v.get x) }
  | .storeBcd x => m.stored (m.memory.write m.i (decimalDigits (m.v.get x)))
  | .storeRegs x => m.stored (m.memory.write m.i (firstRegisters m.v (m.transferCount x)))
  | .loadRegs x =>
    match m.memory.slice m.i (m.transferCount x) with
    | .error fault => .failed fault m
    | .ok bytes => finish { m with v := withRegisters m.v 0 bytes }

end Chip8.Machine
