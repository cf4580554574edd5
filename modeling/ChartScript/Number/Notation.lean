import ChartScript.Number.Shortest
import ChartScript.Text.Numerals

/-!
# Decimal notations

How a number is laid out: which leading powers are written positionally, whether a whole number
keeps a point, how wide the exponent is, and which way a tie between two decimals goes. The choices
are one record, so that each place of output states its own.
-/

namespace ChartScript

/-- The significant digits of a number and the power of ten of the first one. -/
structure Digits where
  /-- The digits as characters, without needless zeros. -/
  figures : List Char
  /-- The power of ten of the leading digit. -/
  leading : Int
  deriving DecidableEq

namespace Digits

/-- Zeros at the end carry no value. -/
def dropTrailingZeros (figures : List Char) : List Char :=
  (figures.reverse.dropWhile (· == '0')).reverse

/-- The digits of a positive decimal. -/
def ofDecimal (d : Decimal) : Digits :=
  let figures := Nat.toDigits 10 d.coefficient
  ⟨dropTrailingZeros figures, d.power + figures.length - 1⟩

/-- The digits of a number's magnitude; zero has the single digit zero. -/
def ofBinary64 (tie : TieBreak) (x : Binary64) : Digits :=
  if x.isZero then ⟨['0'], 0⟩ else ofDecimal (.shortest tie x.code)

end Digits

/-- The choices of a decimal layout. -/
structure DecimalLayout where
  /-- The least leading power that is written positionally. -/
  positionalFrom : Int
  /-- The first leading power above those written positionally. -/
  positionalBelow : Int
  /-- What follows a whole number in positional form. -/
  wholeEnding : List Char
  /-- The least number of exponent digits. -/
  exponentWidth : Nat
  /-- The choice between two shortest decimals that are equally near. -/
  tie : TieBreak

namespace DecimalLayout

/-- The positional form: figures, point and the zeros between them. -/
def positional (layout : DecimalLayout) (digits : Digits) : List Char :=
  let before := (digits.leading + 1).toNat
  if digits.leading < 0 then
    ['0', '.'] ++ List.replicate (-digits.leading - 1).toNat '0' ++ digits.figures
  else if digits.figures.length ≤ before then
    digits.figures ++ List.replicate (before - digits.figures.length) '0' ++ layout.wholeEnding
  else
    digits.figures.take before ++ ['.'] ++ digits.figures.drop before

/-- The exponent form: one figure, the others after a point, a signed exponent. -/
def scientific (layout : DecimalLayout) (digits : Digits) : List Char :=
  let rest := digits.figures.drop 1
  digits.figures.take 1 ++ (if rest.isEmpty then [] else '.' :: rest) ++
    ['e', if digits.leading < 0 then '-' else '+'] ++
    Text.padded 10 layout.exponentWidth digits.leading.natAbs

/-- The text of a number under a layout; negative zero keeps its sign. -/
def render (layout : DecimalLayout) (x : Binary64) : String :=
  let digits := Digits.ofBinary64 layout.tie x
  let body :=
    if layout.positionalFrom ≤ digits.leading ∧ digits.leading < layout.positionalBelow then
      layout.positional digits
    else layout.scientific digits
  String.ofList (if x.negative then '-' :: body else body)

end DecimalLayout

end ChartScript
