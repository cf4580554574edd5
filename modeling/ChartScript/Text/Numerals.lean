/-!
# Digits of numerals

Small functions on single digits and on numerals of a least width, for the formats that need them.
-/

namespace ChartScript.Text

/-- The value of a hexadecimal digit of either case. -/
def hexValue? (c : Char) : Option Nat :=
  if c.isDigit then some (c.toNat - '0'.toNat)
  else if 'a' ≤ c ∧ c ≤ 'f' then some (c.toNat - 'a'.toNat + 10)
  else if 'A' ≤ c ∧ c ≤ 'F' then some (c.toNat - 'A'.toNat + 10)
  else none

/-- A hexadecimal digit of either case. -/
def isHex (c : Char) : Bool := (hexValue? c).isSome

/-- A numeral with zeros in front up to a least width. -/
def padded (base width n : Nat) : List Char :=
  let figures := Nat.toDigits base n
  List.replicate (width - figures.length) '0' ++ figures

/-- Padding fills up to the width and shortens nothing. -/
theorem length_padded (base width n : Nat) :
    (padded base width n).length = max width (Nat.toDigits base n).length := by
  simp only [padded, List.length_append, List.length_replicate]
  omega

end ChartScript.Text
