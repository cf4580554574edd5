import ChartScript.Json.Basic
import ChartScript.Json.Fault

/-!
# Numerals of a JSON text

A numeral is split into its parts first and valued afterwards. The value of a plain integer that
fits 64 bits is exact. Every other value is computed in two roundings: the digits that fit an
unsigned 64-bit significand are made a binary64 number, which is then multiplied or divided by the
binary64 number nearest to a power of ten. The result can differ from the nearest number in its
last bit; digits that do not fit the significand are only counted before the point and dropped
after it.
-/

namespace ChartScript.Json

/-- The parts of a numeral, each part a list of digits. -/
structure Numeral where
  /-- The numeral starts with a minus sign. -/
  negative : Bool
  /-- The digits before the point. -/
  whole : List Char
  /-- The digits after the point, if there is one. -/
  fraction : Option (List Char)
  /-- The sign and the digits of the exponent, if there is one. -/
  exponent : Option (Bool × List Char)

namespace Numeral

/-- The largest significand, of 64 bits. -/
def largestSignificand : Nat := 0xFFFFFFFFFFFFFFFF

/-- The largest exponent that is computed with, of 31 bits. -/
def largestExponent : Nat := 0x7FFFFFFF

/-- The value of a decimal digit. -/
def digitValue (c : Char) : Nat := c.toNat - '0'.toNat

/-- Appends digits to a number while the result stays within a limit, and returns the digits that
are left. -/
def accumulate (limit : Nat) : Nat → List Char → Nat × List Char
  | total, [] => (total, [])
  | total, c :: rest =>
    let larger := total * 10 + digitValue c
    if larger ≤ limit then accumulate limit larger rest else (total, c :: rest)

/-- What keeps a numeral from having a value. -/
inductive Overflow where
  /-- The exponent itself does not fit; so many of its digits were not read. -/
  | exponent (unread : Nat)
  /-- The value is beyond the finite numbers. -/
  | value

/-- The code of the power of ten, for exponents up to 308. -/
def powerCode (exponent : Nat) : Nat := Binary64.roundCode (Nat.pow 10 exponent) 1

/-- The largest power of ten that is multiplied or divided by in one step. -/
def largestPower : Nat := 308

/-- Divides by the largest power of ten a number of times, or until nothing is left. -/
def scaleDown : Nat → Nat → Nat
  | 0, code => code
  | times + 1, code =>
    if code = 0 then 0 else scaleDown times (Binary64.divCode code (powerCode largestPower))

/-- The code of `significand * 10 ^ exponent`; a code that is not finite stands for overflow. -/
def scaledCode (significand : Nat) (exponent : Int) : Nat :=
  let code := Binary64.roundCode significand 1
  if exponent ≥ 0 then
    if code = 0 then 0
    else if exponent ≤ largestPower then Binary64.mulCode code (powerCode exponent.toNat)
    else Binary64.infinite
  else
    let down := exponent.natAbs
    let times := (down - 1) / largestPower
    Binary64.divCode (scaleDown times code) (powerCode (down - times * largestPower))

/-- The signed number with a code. -/
def floatOfCode (negative : Bool) (code : Nat) : Except Overflow Number :=
  match Binary64.ofCode? negative code with
  | some x => .ok (.float x)
  | none => .error .value

/-- A plain integer, exact where it fits; a negative zero is a float. -/
def integerValue (negative : Bool) (significand : Nat) : Number :=
  let value : Int := if negative then -significand else significand
  if fits : -0x8000000000000000 ≤ value ∧ value ≤ 0xFFFFFFFFFFFFFFFF ∧
      ¬ (negative ∧ significand = 0) then
    .integer value ⟨fits.1, fits.2.1⟩
  else .float (.ofNat negative significand)

/-- The number that a numeral stands for. -/
def value (numeral : Numeral) : Except Overflow Number :=
  let (significand, uncounted) := accumulate largestSignificand 0 numeral.whole
  match numeral.fraction, numeral.exponent, uncounted with
  | none, none, [] => .ok (integerValue numeral.negative significand)
  | fraction, exponent, _ =>
    let decimals := fraction.getD []
    let (significand, dropped) := accumulate largestSignificand significand decimals
    let shift : Int := uncounted.length - (decimals.length - dropped.length : Nat)
    match exponent with
    | none => floatOfCode numeral.negative (scaledCode significand shift)
    | some (down, figures) =>
      match accumulate largestExponent 0 figures with
      | (size, []) =>
        let exponent : Int := if down then shift - size else shift + size
        floatOfCode numeral.negative (scaledCode significand exponent)
      | (_, _ :: unread) =>
        if significand ≠ 0 ∧ ¬ down then .error (.exponent unread.length)
        else floatOfCode numeral.negative 0

end Numeral

end ChartScript.Json
