/-!
# Finite binary64 numbers

A finite binary64 number is a sign and a *code*: its exponent field and its fraction field read
as one natural number. Codes grow with the values they stand for, the successor of a code is the
next larger number, and the code of infinity is the first one that is not finite. Every operation
is exact arithmetic on quotients of natural numbers followed by one rounding to nearest, where a
half goes to the even neighbour. There are no infinities and no NaNs here; an operation that would
need one is answered `none` or stops at the largest finite number, as its comment says.
-/

namespace ChartScript

namespace Binary64

/-- The number of fractions that share an exponent field: a one with 52 zero bits. -/
def fractions : Nat := 0x10000000000000

/-- The width of the fraction field. -/
def fractionBits : Nat := 52

/-- The least code that stands for no finite number. -/
def infinite : Nat := 2047 * fractions

/-- The power of two of the smallest unit. -/
def leastUnit : Int := -1074

/-- The whole number of units that a code stands for. -/
def significand (code : Nat) : Nat :=
  if code < fractions then code else fractions + code % fractions

/-- The power of two of a code's unit. The two lowest exponent fields share the least unit. -/
def unitPower (code : Nat) : Int :=
  if code < fractions then leastUnit else (code / fractions : Nat) - 1 + leastUnit

/-- The numerator of a code's value over `denominator`. -/
def numerator (code : Nat) : Nat :=
  significand code * Nat.pow 2 (unitPower code).toNat

/-- The denominator of a code's value, one as soon as the unit is whole. -/
def denominator (code : Nat) : Nat :=
  Nat.pow 2 (-unitPower code).toNat

/-- Denominators are powers of two. -/
theorem denominator_pos (code : Nat) : 0 < denominator code :=
  Nat.two_pow_pos _

/-- The whole part of the binary logarithm of a positive quotient. -/
def floorLog2 (num den : Nat) : Int :=
  if den ≤ num then (num / den).log2 else -(((den - 1) / num).log2 + 1 : Nat)

/-- A quotient rounded to the nearest natural number, a half to the even one. -/
def roundHalfEven (num den : Nat) : Nat :=
  let whole := num / den
  let twice := 2 * (num % den)
  if twice < den ∨ (twice = den ∧ whole % 2 = 0) then whole else whole + 1

/-- The unit of the numbers around a positive quotient. -/
def unitFor (num den : Nat) : Int :=
  max (floorLog2 num den - fractionBits) leastUnit

/-- The code nearest to a quotient. A carry out of the significand lands in the exponent field,
where it belongs; beyond the finite range the code is `infinite` or more. -/
def roundCode (num den : Nat) : Nat :=
  if num = 0 then 0
  else
    let unit := unitFor num den
    (unit - leastUnit).toNat * fractions +
      roundHalfEven (num * Nat.pow 2 (-unit).toNat) (den * Nat.pow 2 unit.toNat)

/-- The code nearest to a product. -/
def mulCode (a b : Nat) : Nat :=
  roundCode (numerator a * numerator b) (denominator a * denominator b)

/-- The code nearest to a quotient of two codes. -/
def divCode (a b : Nat) : Nat :=
  roundCode (numerator a * denominator b) (denominator a * numerator b)

end Binary64

/-- A finite binary64 number; the two zeros differ in sign. -/
structure Binary64 where
  /-- The sign bit. -/
  negative : Bool
  /-- Exponent field and fraction field read as one number. -/
  code : Nat
  /-- The code is finite. -/
  finite : code < Binary64.infinite
  deriving DecidableEq

namespace Binary64

/-- Positive zero. -/
def zero : Binary64 := ⟨false, 0, by decide⟩

instance : Inhabited Binary64 := ⟨zero⟩

/-- A number from its sign and code, if the code is finite. -/
def ofCode? (negative : Bool) (code : Nat) : Option Binary64 :=
  if finite : code < infinite then some ⟨negative, code, finite⟩ else none

/-- The number nearest to an integer, with `sign` for zero; past the range, the largest one. -/
def ofNat (negative : Bool) (n : Nat) : Binary64 :=
  ⟨negative, min (roundCode n 1) (infinite - 1), by
    have : 0 < infinite := by decide
    omega⟩

/-- The number nearest to an integer; zero is positive. -/
def ofInt (n : Int) : Binary64 :=
  ofNat (decide (n < 0)) n.natAbs

/-- The value is a zero of either sign. -/
def isZero (x : Binary64) : Bool := x.code == 0

/-- The integer that the number equals, if it equals one. -/
def toInt? (x : Binary64) : Option Int :=
  if numerator x.code % denominator x.code = 0 then
    let size : Int := (numerator x.code / denominator x.code : Nat)
    some (if x.negative then -size else size)
  else none

/-- The weight of the sign bit: a one with 63 zero bits. -/
def signBit : Nat := 0x8000000000000000

/-- The 64 bits of the number, as a natural number. -/
def toBits (x : Binary64) : Nat :=
  (if x.negative then signBit else 0) + x.code

end Binary64

end ChartScript
