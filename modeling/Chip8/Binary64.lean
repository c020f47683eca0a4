/-!
Double-precision numbers as bit patterns: a sign bit, eleven exponent bits, fifty-two fraction bits.

The magnitude of a finite number is a whole multiple of `2^-1074`, the smallest positive number of
the format; `units` is that multiple. Comparing and rounding are done on it in natural numbers.
-/
namespace Chip8

/-- A double-precision number. Not-a-numbers keep their sign. -/
structure Binary64 where
  bits : UInt64
  deriving DecidableEq, Repr

namespace Binary64

/-- The value of the sign bit, `2^63`. -/
def signBit : Nat := 0x8000000000000000

/-- The value of the lowest exponent bit, which is that of the significand's hidden bit, `2^52`. -/
def hiddenBit : Nat := 0x10000000000000

/-- The exponent bits of infinities and not-a-numbers. -/
def topExponent : Nat := 2047

def isNegative (x : Binary64) : Bool := signBit ≤ x.bits.toNat

def exponent (x : Binary64) : Nat := x.bits.toNat / hiddenBit % 2048

def fraction (x : Binary64) : Nat := x.bits.toNat % hiddenBit

def isFinite (x : Binary64) : Bool := x.exponent < topExponent

def isNaN (x : Binary64) : Bool := x.exponent = topExponent ∧ x.fraction ≠ 0

/-- How many doublings the significand of a finite number has undergone. -/
def shift (x : Binary64) : Nat := x.exponent - 1

/-- The significand of a finite number: the fraction, with the hidden bit if there is one. -/
def significand (x : Binary64) : Nat :=
  if x.exponent = 0 then x.fraction else hiddenBit + x.fraction

/-- The magnitude of a finite number, in units. -/
def units (x : Binary64) : Nat := x.significand <<< x.shift

def unitsOfOne : Nat := 1 <<< 1074

/-- The number with a sign and the low 63 bits given. -/
def ofMagnitude (negative : Bool) (magnitude : Nat) : Binary64 :=
  ⟨UInt64.ofNat ((if negative then signBit else 0) + magnitude)⟩

def infinityMagnitude : Nat := topExponent * hiddenBit

/-- The low 63 bits of the usual not-a-number, which has the highest fraction bit set. -/
def nanMagnitude : Nat := infinityMagnitude + hiddenBit / 2

/-- `x` is above zero and at most `limit`. -/
def InRange (x : Binary64) (limit : Nat) : Prop :=
  x.isFinite ∧ ¬ x.isNegative ∧ 0 < x.units ∧ x.units ≤ limit * unitsOfOne

instance (x : Binary64) (limit : Nat) : Decidable (x.InRange limit) :=
  inferInstanceAs (Decidable (_ ∧ _ ∧ _ ∧ _))

def tenTo (n : Nat) : Nat := Nat.pow 10 n

end Binary64

end Chip8
