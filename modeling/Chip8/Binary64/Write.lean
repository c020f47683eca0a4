import Chip8.Binary64

/-!
Writing a double-precision number with the fewest digits that read back as the same number, always
positionally.

The numbers that round to a finite `x` form an interval around it, ends included exactly when the
significand is even. The grids of the multiples of `10^g` are nested, so the fewest digits are found
on the coarsest grid that has a point in the interval; if the interval holds a point of a grid, it
holds one of the two next to `x`. Of two such points the nearer is written, and the larger on a tie.
-/
namespace Chip8.Binary64

/-- Lower end of the interval, in quarters of a unit. Below a power of two the numbers lie twice as
close. -/
def quarterLow (x : Binary64) : Nat :=
  let gap := if x.fraction = 0 ∧ 1 < x.exponent then 1 <<< x.shift else 2 <<< x.shift
  4 * x.units - gap

/-- Upper end of the interval, in quarters of a unit. -/
def quarterHigh (x : Binary64) : Nat := 4 * x.units + 2 <<< x.shift

/-- Whether `num / den` quarters of a unit round to `x`. -/
def Holds (x : Binary64) (num den : Nat) : Prop :=
  if x.significand % 2 = 0 then x.quarterLow * den ≤ num ∧ num ≤ x.quarterHigh * den
  else x.quarterLow * den < num ∧ num < x.quarterHigh * den

instance (x : Binary64) (num den : Nat) : Decidable (x.Holds num den) := by
  unfold Holds; infer_instance

/-- The multiple `d` of `10^g` to be written for `x`, if one next to `x` reads back. -/
def onGrid? (x : Binary64) (g : Int) : Option Nat :=
  let step := 4 * unitsOfOne * tenTo g.toNat
  let den := tenTo (-g).toNat
  let value := 4 * x.units * den
  let below := value / step
  let above := below + 1
  if x.Holds (above * step) den ∧
      (¬ x.Holds (below * step) den ∨ (below + above) * step ≤ 2 * value)
  then some above
  else if x.Holds (below * step) den then some below
  else none

/-- The coarsest decimal grid on which a number can lie. -/
def coarsestGrid : Nat := 308

/-- Number of grids to be tried; the last has the steps `10^-324`, which are below `2^-1074`. -/
def gridCount : Nat := 633

/-- The digits to be written for a finite positive magnitude, as a multiple of a power of ten. -/
def shortest (x : Binary64) : Nat × Int :=
  ((List.range gridCount).findSome? fun (k : Nat) =>
    let g : Int := (coarsestGrid : Int) - (k : Int)
    (x.onGrid? g).map fun d => (d, g)).getD (0, 0)

/-- `d * 10^g` in positional notation, with no point in a whole number. -/
def positional (d : Nat) (g : Int) : List Char :=
  let digits := Nat.toDigits 10 d
  let places := (-g).toNat
  if 0 ≤ g then digits ++ List.replicate g.toNat '0'
  else
    let filled := List.leftpad (places + 1) '0' digits
    filled.take (filled.length - places) ++ '.' :: filled.drop (filled.length - places)

def write (x : Binary64) : String :=
  if x.isNaN then "NaN"
  else
    let magnitude :=
      if ¬ x.isFinite then "inf"
      else if x.units = 0 then "0"
      else String.ofList (positional x.shortest.1 x.shortest.2)
    if x.isNegative then "-" ++ magnitude else magnitude

end Chip8.Binary64
