import Chip8.Binary64
import Chip8.Text.Digits

namespace Chip8.Binary64

/-- The quotient of `num` by `den`, rounded to the nearest whole number, halves to the even one. -/
def roundHalfEven (num den : Nat) : Nat :=
  let quotient := num / den
  let twice := 2 * (num % den)
  if twice < den ∨ (twice = den ∧ quotient % 2 = 0) then quotient else quotient + 1

/-- The low 63 bits of the number nearest to `num / den`. The significand has at most 53 bits, so
the units are rounded to a multiple of the power of two that leaves that many. -/
def nearestMagnitude (num den : Nat) : Nat :=
  let scaled := num * unitsOfOne
  let shift := (scaled / den).log2 - 52
  let magnitude := shift * hiddenBit + roundHalfEven scaled (den <<< shift)
  min magnitude infinityMagnitude

/-- A decimal number `digits * 10 ^ exponent` with a sign. -/
structure Decimal where
  negative : Bool
  digits : Nat
  exponent : Int
  deriving DecidableEq, Repr

def digitCount (n : Nat) : Nat := (Nat.toDigits 10 n).length

/-- The double-precision number nearest to a decimal one. Beyond `10^309` every number is infinite
and below `10^-324` every number is zero, so no larger powers of ten are formed. -/
def ofDecimal (d : Decimal) : Binary64 :=
  let leading := d.exponent + digitCount d.digits
  if d.digits = 0 ∨ leading < -324 then ofMagnitude d.negative 0
  else if 310 < leading then ofMagnitude d.negative infinityMagnitude
  else
    ofMagnitude d.negative
      (nearestMagnitude (d.digits * tenTo d.exponent.toNat) (tenTo (-d.exponent).toNat))

/-- An optional sign, with whether it is a minus. -/
def splitSign : List Char → Bool × List Char
  | '-' :: rest => (true, rest)
  | '+' :: rest => (false, rest)
  | text => (false, text)

/-- The exponent written after the digits: nothing, or `e` and a number. -/
def readExponent : List Char → Option Int
  | [] => some 0
  | mark :: rest =>
    let (negative, digits) := splitSign rest
    if (mark = 'e' ∨ mark = 'E') ∧ digits ≠ [] ∧ digits.all Char.isDigit then
      some (if negative then -(Text.natOfDigits digits : Int) else Text.natOfDigits digits)
    else none

/-- A numeral without its sign, as digits and an exponent. -/
def readDigits (text : List Char) : Option (Nat × Int) :=
  let whole := text.takeWhile Char.isDigit
  let afterWhole := text.dropWhile Char.isDigit
  let afterPoint := match afterWhole with
    | '.' :: rest => rest
    | _ => []
  let part := afterPoint.takeWhile Char.isDigit
  let rest := match afterWhole with
    | '.' :: rest => rest.dropWhile Char.isDigit
    | _ => afterWhole
  if whole = [] ∧ part = [] then none
  else (readExponent rest).map fun exponent =>
    (Text.natOfDigits (whole ++ part), exponent - part.length)

/-- The number that a numeral stands for, if the text is one. -/
def read? (text : String) : Option Binary64 :=
  let (negative, body) := splitSign text.toList
  let word := String.ofList (body.map Char.toLower)
  if word = "inf" ∨ word = "infinity" then some (ofMagnitude negative infinityMagnitude)
  else if word = "nan" then some (ofMagnitude negative nanMagnitude)
  else (readDigits body).map fun (digits, exponent) => ofDecimal ⟨negative, digits, exponent⟩

end Chip8.Binary64
