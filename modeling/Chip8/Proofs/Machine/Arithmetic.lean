import Chip8.Proofs.Machine.NextAddress

namespace Chip8

open Instruction

/-- The instructions that put a result into register `x` and a flag into the flag register. -/
inductive Flagged where
  | add
  | sub
  | shiftRight
  | subFrom
  | shiftLeft
  deriving DecidableEq, Repr

namespace Flagged

def instruction : Flagged → Register → Register → Instruction
  | add => .addReg
  | sub => .subReg
  | shiftRight => .shiftRight
  | subFrom => .subRegInv
  | shiftLeft => .shiftLeft

def digit : Flagged → Nat
  | add => 0x4
  | sub => 0x5
  | shiftRight => 0x6
  | subFrom => 0x7
  | shiftLeft => 0xe

/-- What becomes of the numbers `a` in register `x` and `b` in register `y`. -/
def result : Flagged → Int → Int → Int
  | add, a, b => (a + b) % 256
  | sub, a, b => (a - b) % 256
  | shiftRight, a, _ => a / 2
  | subFrom, a, b => (b - a) % 256
  | shiftLeft, a, _ => 2 * a % 256

def flag : Flagged → Int → Int → Int
  | add, a, b => if 255 < a + b then 1 else 0
  | sub, a, b => if b < a then 1 else 0
  | shiftRight, a, _ => a % 2
  | subFrom, a, b => if a < b then 1 else 0
  | shiftLeft, a, _ => a / 128

/-- What an instruction with a flag makes of registers. -/
structure Computes (op : Flagged) (x y : Register) (before after : Vector UInt8 16) : Prop where
  result : ((after.get x).toNat : Int) = op.result (before.get x).toNat (before.get y).toNat
  flag (apart : x ≠ flagRegister) : ((after.get flagRegister).toNat : Int) =
    op.flag (before.get x).toNat (before.get y).toNat
  others (r : Register) (operand : r ≠ x) (flags : r ≠ flagRegister) : after.get r = before.get r

namespace Computes

variable {x y : Register} {before after : Vector UInt8 16}

/-- Sum and carry make up the sum. -/
theorem sum (computes : Computes .add x y before after) (apart : x ≠ flagRegister) :
    256 * (after.get flagRegister).toNat + (after.get x).toNat =
      (before.get x).toNat + (before.get y).toNat := by
  have result := computes.result
  have flag := computes.flag apart
  have first := (before.get x).toNat_lt
  have second := (before.get y).toNat_lt
  simp only [Flagged.result, Flagged.flag] at result flag
  split at flag <;> omega

/-- Half and remainder make up the number. -/
theorem halves (computes : Computes .shiftRight x y before after) (apart : x ≠ flagRegister) :
    2 * (after.get x).toNat + (after.get flagRegister).toNat = (before.get x).toNat := by
  have result := computes.result
  have flag := computes.flag apart
  simp only [Flagged.result, Flagged.flag] at result flag
  omega

/-- What stays and what is shifted out make up the double. -/
theorem double (computes : Computes .shiftLeft x y before after) (apart : x ≠ flagRegister) :
    256 * (after.get flagRegister).toNat + (after.get x).toNat = 2 * (before.get x).toNat := by
  have result := computes.result
  have flag := computes.flag apart
  simp only [Flagged.result, Flagged.flag] at result flag
  omega

end Computes

private theorem computes_put {op : Flagged} {x y : Register} {before : Vector UInt8 16}
    {value raised : UInt8}
    (result : (value.toNat : Int) = op.result (before.get x).toNat (before.get y).toNat)
    (flag : (raised.toNat : Int) = op.flag (before.get x).toNat (before.get y).toNat) :
    op.Computes x y before ((before.put flagRegister raised).put x value) where
  result := by
    rw [Vector.get_put, if_pos rfl]
    exact result
  flag apart := by
    rw [Vector.get_put, if_neg apart, Vector.get_put, if_pos rfl]
    exact flag
  others r operand flags := by
    rw [Vector.get_put, if_neg operand.symm, Vector.get_put, if_neg flags.symm]

end Flagged

section Bytes

private theorem toNat_flag {condition meaning : Prop} [Decidable condition] [Decidable meaning]
    (same : condition ↔ meaning) :
    ((Machine.flag (decide condition)).toNat : Int) = if meaning then 1 else 0 := by
  by_cases holds : condition
  · rw [decide_eq_true holds, if_pos (same.mp holds)]
    rfl
  · rw [decide_eq_false holds, if_neg fun means => holds (same.mpr means)]
    rfl

private theorem toNat_sum (a b : UInt8) :
    ((a + b).toNat : Int) = (a.toNat + b.toNat : Int) % 256 := by
  rw [UInt8.toNat_add]
  omega

private theorem toNat_difference (a b : UInt8) :
    ((a - b).toNat : Int) = (a.toNat - b.toNat : Int) % 256 := by
  have range := b.toNat_lt
  rw [UInt8.toNat_sub]
  omega

private theorem toNat_half (a : UInt8) : ((a >>> 1).toNat : Int) = (a.toNat : Int) / 2 := by
  have half : (a >>> 1).toNat = a.toNat / 2 := UInt8.toNat_shiftRight a 1
  rw [half]
  omega

private theorem toNat_remainder (a : UInt8) : ((a &&& 1).toNat : Int) = (a.toNat : Int) % 2 := by
  have remainder : (a &&& 1).toNat = a.toNat % 2 :=
    (UInt8.toNat_and a 1).trans (Nat.and_one_is_mod a.toNat)
  rw [remainder]
  omega

private theorem toNat_double (a : UInt8) : ((a <<< 1).toNat : Int) = 2 * (a.toNat : Int) % 256 := by
  have double : (a <<< 1).toNat = a.toNat <<< 1 % 256 := UInt8.toNat_shiftLeft a 1
  rw [double, Nat.shiftLeft_eq]
  omega

private theorem toNat_topBit (a : UInt8) : ((a >>> 7).toNat : Int) = (a.toNat : Int) / 128 := by
  have top : (a >>> 7).toNat = a.toNat / 128 := by
    have shifted : (a >>> 7).toNat = a.toNat >>> 7 := UInt8.toNat_shiftRight a 7
    rw [shifted, Nat.shiftRight_eq_div_pow]
  rw [top]
  omega

end Bytes

namespace Machine

variable {δ κ τ : Type} [Screen δ] [Keypad κ]

private theorem execute_flagged (m : Machine δ κ τ) (op : Flagged) (x y : Register) :
    ∃ value raised, m.execute (op.instruction x y) = .done () (m.setWithFlag x value raised) ∧
      (value.toNat : Int) = op.result (m.v.get x).toNat (m.v.get y).toNat ∧
      (raised.toNat : Int) = op.flag (m.v.get x).toNat (m.v.get y).toNat := by
  cases op with
  | add =>
    refine ⟨_, _, rfl, toNat_sum _ _, toNat_flag ?_⟩
    omega
  | sub =>
    refine ⟨_, _, rfl, toNat_difference _ _, toNat_flag ?_⟩
    rw [UInt8.lt_iff_toNat_lt]
    omega
  | shiftRight => exact ⟨_, _, rfl, toNat_half _, toNat_remainder _⟩
  | subFrom =>
    refine ⟨_, _, rfl, toNat_difference _ _, toNat_flag ?_⟩
    rw [UInt8.lt_iff_toNat_lt]
    omega
  | shiftLeft => exact ⟨_, _, rfl, toNat_double _, toNat_topBit _⟩

/-- Whether a step of `m` finishes in `after` and has worked on registers alone. It has also passed
its instruction. -/
structure Calculates (m after : Machine δ κ τ) : Prop where
  step : m.step = .done () after
  pc : after.pc.toNat = m.pc.toNat + 2
  rest : after = { m with v := after.v, pc := after.pc, journal := after.journal }

private theorem calculates_of_execute {m : Machine δ κ τ} {instruction : Instruction}
    {v : Vector UInt8 16} (running : m.mode = .running) (wellFormed : instruction.WellFormed)
    (stands : m.Stands instruction.encode)
    (executed : (m.past instruction.encode instruction).execute instruction =
      .done () { m.past instruction.encode instruction with v }) :
    ∃ after, m.Calculates after ∧ after.v = v := by
  have decoded := ofWord?_encode wellFormed
  have found := (m.fetch_ok_iff instruction.encode instruction).mpr ⟨stands, decoded⟩
  exact ⟨_, ⟨step_of_done running found executed, (isReturn_past found).1, rfl⟩, rfl⟩

/-- What arithmetic with the registers `x` and `y` makes of a machine. -/
structure KeepsFlagLaw (m : Machine δ κ τ) (x y : Register) : Prop where
  -- An instruction with a flag computes its result and its flag from the operands as they were.
  flagged (op : Flagged) (stands : m.Stands (wordOfPair 0x8 x y op.digit)) :
    ∃ after, m.Calculates after ∧ op.Computes x y m.v after.v
  -- Sum and carry make up the sum.
  sums (apart : x ≠ flagRegister) (stands : m.Stands (wordOfPair 0x8 x y 0x4)) :
    ∃ after, m.Calculates after ∧ 256 * (after.v.get flagRegister).toNat + (after.v.get x).toNat =
      (m.v.get x).toNat + (m.v.get y).toNat
  -- Half and remainder make up the number.
  halves (apart : x ≠ flagRegister) (stands : m.Stands (wordOfPair 0x8 x y 0x6)) :
    ∃ after, m.Calculates after ∧
      2 * (after.v.get x).toNat + (after.v.get flagRegister).toNat = (m.v.get x).toNat
  -- What stays and what is shifted out make up the double.
  doubles (apart : x ≠ flagRegister) (stands : m.Stands (wordOfPair 0x8 x y 0xe)) :
    ∃ after, m.Calculates after ∧ 256 * (after.v.get flagRegister).toNat + (after.v.get x).toNat =
      2 * (m.v.get x).toNat
  -- An instruction without a flag sets its register alone.
  plain {low : Nat} (few : low ≤ 0x3) (stands : m.Stands (wordOfPair 0x8 x y low)) :
    ∃ after, m.Calculates after ∧ ∀ r, r ≠ x → after.v.get r = m.v.get r
  immediate (kk : UInt8) (stands : m.Stands (wordOfByte 0x7 x kk.toNat)) :
    ∃ after, m.Calculates after ∧ ∀ r, r ≠ x → after.v.get r = m.v.get r

section Law

variable {m : Machine δ κ τ} (running : m.mode = .running) {x y : Register}

include running

private theorem calculates_of_flagged (op : Flagged)
    (stands : m.Stands (wordOfPair 0x8 x y op.digit)) :
    ∃ after, m.Calculates after ∧ op.Computes x y m.v after.v := by
  have wellFormed : (op.instruction x y).WellFormed := by cases op <;> trivial
  have encoded : wordOfPair 0x8 x y op.digit = (op.instruction x y).encode := by cases op <;> rfl
  rw [encoded] at stands
  obtain ⟨value, raised, executed, result, flag⟩ := execute_flagged
    (m.past (op.instruction x y).encode (op.instruction x y)) op x y
  obtain ⟨after, calculates, same⟩ := calculates_of_execute running wellFormed stands executed
  refine ⟨after, calculates, ?_⟩
  rw [same]
  exact Flagged.computes_put result flag

/-- An instruction that sets a register sets that register alone. -/
private theorem calculates_of_set (instruction : Instruction) {value : UInt8}
    (wellFormed : instruction.WellFormed) (stands : m.Stands instruction.encode)
    (executed : (m.past instruction.encode instruction).execute instruction =
      .done () ((m.past instruction.encode instruction).setRegister x value)) :
    ∃ after, m.Calculates after ∧ ∀ r, r ≠ x → after.v.get r = m.v.get r := by
  obtain ⟨after, calculates, same⟩ := calculates_of_execute running wellFormed stands executed
  refine ⟨after, calculates, ?_⟩
  intro r other
  rw [same]
  exact (Vector.get_put m.v x r value).trans (if_neg other.symm)

private theorem calculates_of_plain {low : Nat} (few : low ≤ 0x3)
    (stands : m.Stands (wordOfPair 0x8 x y low)) :
    ∃ after, m.Calculates after ∧ ∀ r, r ≠ x → after.v.get r = m.v.get r := by
  have lows : low = 0x0 ∨ low = 0x1 ∨ low = 0x2 ∨ low = 0x3 := by omega
  rcases lows with rfl | rfl | rfl | rfl
  · exact calculates_of_set running (.move x y) trivial stands rfl
  · exact calculates_of_set running (.or x y) trivial stands rfl
  · exact calculates_of_set running (.and x y) trivial stands rfl
  · exact calculates_of_set running (.xor x y) trivial stands rfl

/-- Arithmetic keeps the law of flags whatever the registers hold and whichever two of them it works
on, be they the same or the flag register. -/
theorem flag_law (x y : Register) : m.KeepsFlagLaw x y where
  flagged op stands := calculates_of_flagged running op stands
  sums apart stands := by
    obtain ⟨after, calculates, computes⟩ := calculates_of_flagged running .add stands
    exact ⟨after, calculates, computes.sum apart⟩
  halves apart stands := by
    obtain ⟨after, calculates, computes⟩ := calculates_of_flagged running .shiftRight stands
    exact ⟨after, calculates, computes.halves apart⟩
  doubles apart stands := by
    obtain ⟨after, calculates, computes⟩ := calculates_of_flagged running .shiftLeft stands
    exact ⟨after, calculates, computes.double apart⟩
  plain few stands := calculates_of_plain running few stands
  immediate kk stands := calculates_of_set running (.addImm x kk) trivial stands rfl

end Law

/-- A machine about to add the flag register, which holds 100, to a register that holds 200. -/
def carrier : Machine (HeadlessScreen Grid.standard) ScriptedKeypad MuteSpeaker :=
  (create {} (HeadlessScreen.blank Grid.standard) {} {}).performAll
    [.load [0x60, 200, 0x6f, 100, 0x80, 0xf4], .step, .step]

/-- The carry takes the place of the operand only after the sum. -/
theorem carrier_carries :
    carrier.mode = .running ∧ carrier.Stands 0x80f4 ∧
      ∃ after, carrier.step = .done () after ∧ (after.v.get (Nibble.ofNat 0)).toNat = 44 ∧
        (after.v.get flagRegister).toNat = 1 := by
  have start : carrier.mode = .running ∧ carrier.Stands 0x80f4 ∧
      carrier.v.get (Nibble.ofNat 0) = 200 ∧ carrier.v.get flagRegister = 100 := by decide +kernel
  obtain ⟨running, stands, first, second⟩ := start
  have law := flag_law running (Nibble.ofNat 0) flagRegister
  obtain ⟨after, calculates, computes⟩ := law.flagged .add stands
  have result := computes.result
  have flag := computes.flag (by decide)
  rw [first, second] at result flag
  exact ⟨running, stands, after, calculates.step, Int.ofNat.inj result, Int.ofNat.inj flag⟩

end Machine

end Chip8
