import Chip8.Proofs.Machine.Bounds
import Chip8.Proofs.Memory.Strict

/-! The machine with nothing made up. Its definitions are total: a byte or register past the end is
replaced by another or dropped, and a sum too large for its word wraps. The operations here do the
same work and answer `none` where one of these would be needed: in memory, in a block transfer, in
the target of an indexed jump, in the address of a glyph, and in `pc` behind an instruction or
another one skipped. Registers, keys and pixels are named by types that hold no other numbers, and
the sums that wrap by design are not among these. The main statement is that `none` never occurs. -/
namespace Chip8

/-- Goes on from where an operation finished, if it does not need what is not there. -/
def Outcome.andThen? {σ α β : Type} (outcome : Outcome σ α)
    (next : α → σ → Option (Outcome σ β)) : Option (Outcome σ β) :=
  match outcome with
  | .done value state => next value state
  | .failed fault state => some (.failed fault state)

theorem Outcome.andThen?_eq {σ α β : Type} {outcome : Outcome σ α}
    {strict : α → σ → Option (Outcome σ β)} {next : α → σ → Outcome σ β}
    (same : ∀ value state, outcome = .done value state →
      strict value state = some (next value state)) :
    outcome.andThen? strict = some (outcome.andThen next) := by
  cases outcome with
  | done value state => exact same value state rfl
  | failed fault state => rfl

namespace Machine

variable {δ κ τ : Type}

def firstRegisters? (v : Vector UInt8 16) (count : Nat) : Option (List UInt8) :=
  if count ≤ 16 then some (firstRegisters v count) else none

/-- The registers with those from `start` on replaced, if there are so many. -/
def withRegisters? (v : Vector UInt8 16) (start : Nat) : List UInt8 → Option (Vector UInt8 16)
  | [] => some v
  | byte :: rest =>
    if inside : start < 16 then withRegisters? (v.set start byte inside) (start + 1) rest
    else none

def skipWhen? (m : Machine δ κ τ) (condition : Bool) : Option (Machine δ κ τ) :=
  if condition then (word? (m.pc.toNat + 2)).map fun pc => { m with pc } else some m

def draw? [Screen δ] (m : Machine δ κ τ) (x y : Register) (n : Nat) :
    Option (Outcome (Machine δ κ τ) Unit) :=
  (m.memory.slice? m.i n).map fun
    | .error fault => .failed fault m
    | .ok rows =>
      let drawn := Sprite.draw m.screen (m.v.get x).toNat (m.v.get y).toNat rows
      let shown : Machine δ κ τ :=
        { m with screen := drawn.screen, journal := m.journal.recordAll drawn.events }
      finish (shown.setRegister flagRegister (flag drawn.collision))

def skipOnKey? [Keypad κ] (m : Machine δ κ τ) (x : Register) (down : Bool) :
    Option (Outcome (Machine δ κ τ) Unit) :=
  if 0xf < m.v.get x then (m.skipWhen? (!down)).map finish
  else
    let reply := Keypad.isPressed m.keypad (keyOfByte (m.v.get x))
    let m := m.afterKeypad reply
    match reply.answer with
    | .error error => some (.failed (.device error) m)
    | .ok held => (m.skipWhen? (held == down)).map finish

def storeRegs? (m : Machine δ κ τ) (x : Register) : Option (Outcome (Machine δ κ τ) Unit) := do
  let data ← firstRegisters? m.v (m.transferCount x)
  let memory ← m.memory.write? m.i data
  return m.stored memory

def loadRegs? (m : Machine δ κ τ) (x : Register) : Option (Outcome (Machine δ κ τ) Unit) := do
  match ← m.memory.slice? m.i (m.transferCount x) with
  | .error fault => return .failed fault m
  | .ok bytes =>
    let v ← withRegisters? m.v 0 bytes
    return finish { m with v }

/-- The instructions that are not listed name no byte and compute no address. -/
def execute? [Screen δ] [Keypad κ] (m : Machine δ κ τ) :
    Instruction → Option (Outcome (Machine δ κ τ) Unit)
  | .skipEqImm x kk => (m.skipWhen? (m.v.get x == kk)).map finish
  | .skipNeImm x kk => (m.skipWhen? (m.v.get x != kk)).map finish
  | .skipEqReg x y => (m.skipWhen? (m.v.get x == m.v.get y)).map finish
  | .skipNeReg x y => (m.skipWhen? (m.v.get x != m.v.get y)).map finish
  | .jumpV0 nnn =>
    (word? (nnn.val + (m.register 0).toNat)).map fun pc => finish { m with pc }
  | .draw x y n => m.draw? x y n.val
  | .skipKeyPressed x => m.skipOnKey? x true
  | .skipKeyNotPressed x => m.skipOnKey? x false
  | .loadGlyph x => (m.memory.glyphAddress? (m.v.get x)).map fun i => finish { m with i }
  | .storeBcd x => (m.memory.write? m.i (decimalDigits (m.v.get x))).map m.stored
  | .storeRegs x => m.storeRegs? x
  | .loadRegs x => m.loadRegs? x
  | instruction => some (m.execute instruction)

def fetchAndExecute? [Screen δ] [Keypad κ] (m : Machine δ κ τ) :
    Option (Outcome (Machine δ κ τ) Unit) := do
  match ← m.memory.readWord? m.pc with
  | .error fault => return .failed fault m
  | .ok word =>
    match Instruction.decode word with
    | .error fault => return .failed fault m
    | .ok instruction =>
      let pc ← word? (m.pc.toNat + 2)
      ({ m.note (.executing m.pc word instruction) with pc } : Machine δ κ τ).execute? instruction

def step? [Screen δ] [Keypad κ] (m : Machine δ κ τ) : Option (Outcome (Machine δ κ τ) Unit) :=
  match m.mode with
  | .halted => some (.failed .halted m)
  | .awaiting _ => some (finish m)
  | .running => m.fetchAndExecute?.map guarded

def batch? [Screen δ] [Keypad κ] : Nat → Machine δ κ τ → Option (Outcome (Machine δ κ τ) Unit)
  | 0, m => some (finish m)
  | count + 1, m =>
    match m.mode with
    | .running => m.fetchAndExecute?.bind fun outcome => outcome.andThen? fun _ m => batch? count m
    | _ => some (finish m)

variable [Screen δ] [Keypad κ] [Speaker τ]

def cycle? (m : Machine δ κ τ) : Option (Outcome (Machine δ κ τ) Unit) :=
  (m.pollKey.andThen? fun _ m => m.batch? m.batchSize).map fun outcome =>
    guarded (outcome.andThen fun _ m => m.endCycle)

def runFrom? : (limit count : Nat) → Machine δ κ τ → Option (Outcome (Machine δ κ τ) Nat)
  | 0, count, m => some (.done count m)
  | limit + 1, count, m =>
    let reply := Keypad.wantsExit m.keypad
    let m := m.afterKeypad reply
    if reply.answer then some (.done count (m.note (.exitRequested count)))
    else m.cycle?.bind fun outcome => outcome.andThen? fun _ m => runFrom? limit (count + 1) m

def load? (m : Machine δ κ τ) (program : List UInt8) : Option (Outcome (Machine δ κ τ) Unit) :=
  (m.memory.load? program).map (m.loaded program.length)

def loadFrom? (m : Machine δ κ τ) (source : Source) : Option (Outcome (Machine δ κ τ) Unit) :=
  match source.readAll with
  | .ok program => m.load? program
  | .error error => some (.failed (.device error) m)

/-- Does one thing with a machine, unless it needs what is not there. -/
def perform? (m : Machine δ κ τ) : Action δ κ τ → Option (Outcome (Machine δ κ τ) Answer)
  | .load program => (m.load? program).map (·.map fun _ => .none)
  | .loadFrom source => (m.loadFrom? source).map (·.map fun _ => .none)
  | .step => m.step?.map (·.map fun _ => .none)
  | .cycle => m.cycle?.map (·.map fun _ => .none)
  | .run frames =>
    (runFrom? (cycleLimit frames) 0 (m.note (.running m.settings.rate m.batchSize))).map
      (·.map .cycles)
  | action => some (m.perform action)

end Machine

end Chip8
