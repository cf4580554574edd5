import ChartScript.Number.Binary64

/-!
# The shortest decimal that reads back

Among the decimals that round to a given positive binary64 number, this module picks one with the
fewest significant digits and, of those, the nearest one. It walks from the coarsest power of ten
that fits under the number towards finer ones. On each such grid only the two neighbours of the
number can be nearest, so these two are read back by the rounding of `Binary64`; the first grid
with a hit wins, and of two hits the nearer one. A number exactly in the middle of two hits follows
the caller's `TieBreak`. The walk ends at the latest on the grid where the number itself lies.
-/

namespace ChartScript

open Binary64 (roundCode numerator denominator unitPower)

/-- Which neighbour a number takes that lies exactly in the middle of two decimals. -/
inductive TieBreak where
  /-- The greater neighbour. -/
  | up
  /-- The neighbour with an even last digit. -/
  | even
  deriving DecidableEq

/-- A positive decimal `coefficient * 10 ^ power`. -/
structure Decimal where
  /-- The significant digits read as a number. -/
  coefficient : Nat
  /-- The power of ten of the last digit. -/
  power : Int
  deriving DecidableEq

namespace Decimal

/-- The numerator of a decimal's value over `bottom`. -/
def top (d : Decimal) : Nat := d.coefficient * Nat.pow 10 d.power.toNat

/-- The denominator of a decimal's value. -/
def bottom (d : Decimal) : Nat := Nat.pow 10 (-d.power).toNat

/-- The decimal is read as the number with this code. -/
def readsAs (d : Decimal) (code : Nat) : Bool :=
  roundCode d.top d.bottom == code

/-- The number of decimal digits of a natural number. -/
def width (n : Nat) : Nat := (Nat.toDigits 10 n).length

/-- The power of ten of the leading digit of a positive quotient. -/
def leadingPower (num den : Nat) : Int :=
  if den ≤ num then width (num / den) - 1 else -(width ((den - 1) / num) : Int)

/-- The whole part of a code's value in units of a power of ten. -/
def floorAt (code : Nat) (power : Int) : Nat :=
  numerator code * Nat.pow 10 (-power).toNat / (denominator code * Nat.pow 10 power.toNat)

/-- The grid point below a value is better than its successor: nearer, or the one that the tie break
takes. -/
def prefersLower (tie : TieBreak) (code : Nat) (power : Int) : Bool :=
  let num := numerator code * Nat.pow 10 (-power).toNat
  let den := denominator code * Nat.pow 10 power.toNat
  match compare (2 * (num % den)) den with
  | .lt => true
  | .gt => false
  | .eq => tie == .even && floorAt code power % 2 == 0

/-- The better of the two neighbours on one grid that read back, if one does. -/
def onGrid? (tie : TieBreak) (code : Nat) (power : Int) : Option Decimal :=
  let lower : Decimal := ⟨floorAt code power, power⟩
  let upper : Decimal := ⟨floorAt code power + 1, power⟩
  if lower.readsAs code && (!upper.readsAs code || prefersLower tie code power) then some lower
  else if upper.readsAs code then some upper
  else none

/-- The first hit on the grids from `power` down; the last grid is not searched but trusted. -/
def search (tie : TieBreak) (code : Nat) : Nat → Int → Decimal
  | 0, power => ⟨floorAt code power, power⟩
  | finer + 1, power =>
    match onGrid? tie code power with
    | some d => d
    | none => search tie code finer (power - 1)

/-- The shortest decimal that reads back as the number with this positive code, the nearest of
those. -/
def shortest (tie : TieBreak) (code : Nat) : Decimal :=
  let power := leadingPower (numerator code) (denominator code)
  search tie code (power - min 0 (unitPower code)).toNat power

end Decimal

end ChartScript
