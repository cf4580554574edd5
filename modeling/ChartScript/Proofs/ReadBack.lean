import ChartScript.Number.Notation
import ChartScript.Proofs.ShortestDecimal
import Mathlib.Data.List.TakeWhile

/-!
# Figures read back

Figures stand for a decimal, and dropping zeros at the end keeps its value. So the figures of a
number stand for the shortest decimal that reads back, and are read as this number again; the power
that is noted with them is the one of the leading digit.
-/

namespace ChartScript

namespace Digits

/-- The decimal that digits stand for. -/
def decimal (digits : Digits) : Decimal :=
  ⟨Nat.ofDigitChars 10 digits.figures 0, digits.leading + 1 - digits.figures.length⟩

/-- Figures are followed by some zeros that were dropped. -/
theorem dropTrailingZeros_append (figures : List Char) :
    ∃ zeros, dropTrailingZeros figures ++ List.replicate zeros '0' = figures := by
  have zeros : ∀ c ∈ figures.reverse.takeWhile (· == '0'), c = '0' := by
    intro c member
    have zero := List.mem_takeWhile_imp (p := (· == '0')) member
    exact beq_iff_eq.1 zero
  refine ⟨(figures.reverse.takeWhile (· == '0')).length, ?_⟩
  calc dropTrailingZeros figures ++
        List.replicate (figures.reverse.takeWhile (· == '0')).length '0'
      = (figures.reverse.dropWhile (· == '0')).reverse ++
          (figures.reverse.takeWhile (· == '0')).reverse := by
        rw [← List.reverse_replicate, ← List.eq_replicate_of_mem zeros, dropTrailingZeros]
    _ = figures := by
      rw [← List.reverse_append, List.takeWhile_append_dropWhile, List.reverse_reverse]

/-- Zeros behind figures multiply what they read as. -/
theorem ofDigitChars_append_zeros (figures : List Char) (zeros : Nat) :
    Nat.ofDigitChars 10 (figures ++ List.replicate zeros '0') 0 =
      Nat.ofDigitChars 10 figures 0 * 10 ^ zeros := by
  rw [Nat.ofDigitChars_append, Nat.ofDigitChars_replicate_zero, Nat.mul_comm]

/-- The digits of a decimal stand for the value of the decimal. -/
theorem value_ofDecimal (d : Decimal) : (ofDecimal d).decimal.value = d.value := by
  obtain ⟨zeros, whole⟩ := dropTrailingZeros_append (Nat.toDigits 10 d.coefficient)
  have coefficient : d.coefficient =
      Nat.ofDigitChars 10 (dropTrailingZeros (Nat.toDigits 10 d.coefficient)) 0 * 10 ^ zeros := by
    rw [← ofDigitChars_append_zeros, whole, Nat.ofDigitChars_ten_toDigits]
  have count := congrArg List.length whole
  rw [List.length_append, List.length_replicate] at count
  have power : d.power + zeros =
      d.power + (Nat.toDigits 10 d.coefficient).length - 1 + 1 -
        (dropTrailingZeros (Nat.toDigits 10 d.coefficient)).length := by
    omega
  calc (ofDecimal d).decimal.value
      = Decimal.value
          ⟨Nat.ofDigitChars 10 (dropTrailingZeros (Nat.toDigits 10 d.coefficient)) 0,
            d.power + zeros⟩ := by rw [power]; rfl
    _ = Decimal.value ⟨d.coefficient, d.power⟩ := by
      rw [← Decimal.value_mul_pow, ← coefficient]

/-- The leading power of a positive decimal is noted with its digits. -/
theorem leadsAt_ofDecimal {d : Decimal} (positive : 0 < d.coefficient) :
    LeadsAt 10 (ofDecimal d).leading d.value := by
  obtain ⟨k, width, least, most⟩ := Decimal.exists_width positive
  have leading : (ofDecimal d).leading = k + d.power := by
    have count : ((Nat.toDigits 10 d.coefficient).length : Int) = k + 1 := by
      exact_mod_cast width
    calc (ofDecimal d).leading
        = d.power + (Nat.toDigits 10 d.coefficient).length - 1 := rfl
      _ = k + d.power := by omega
  have unit : (0 : ℚ) < 10 ^ d.power := zpow_pos (by norm_num) _
  rw [leading, LeadsAt, add_right_comm, Nat.cast_ofNat, zpow_add₀ (by norm_num),
    zpow_add₀ (by norm_num), ← Nat.cast_succ, zpow_natCast, zpow_natCast]
  constructor
  · exact mul_le_mul_of_nonneg_right (by exact_mod_cast least) unit.le
  · exact mul_lt_mul_of_pos_right (by exact_mod_cast most) unit

/-- The digit of zero stands at the power zero. -/
theorem leading_of_zero {tie : TieBreak} {x : Binary64} (zero : x.code = 0) :
    (ofBinary64 tie x).leading = 0 := by
  have nothing : x.isZero = true := beq_iff_eq.2 zero
  rw [ofBinary64, if_pos nothing]

/-- The leading power of a positive number's digits is noted with them. -/
theorem leadsAt_ofBinary64 (tie : TieBreak) {x : Binary64} (positive : 0 < x.code) :
    LeadsAt 10 (ofBinary64 tie x).leading (ofBinary64 tie x).decimal.value := by
  have nonzero : ¬x.isZero = true := mt beq_iff_eq.1 positive.ne'
  rw [ofBinary64, if_neg nonzero, value_ofDecimal]
  exact leadsAt_ofDecimal (Decimal.coefficient_shortest_pos tie positive)

/-- The digits of a number stand for the shortest decimal that reads back. -/
theorem isShortest_ofBinary64 (tie : TieBreak) (x : Binary64) :
    ∃ count, Decimal.IsShortest tie x.code count (ofBinary64 tie x).decimal.value := by
  rw [ofBinary64]
  split
  · next zero =>
    have value : (decimal ⟨['0'], 0⟩).value = 0 :=
      Decimal.hasDigits_zero_iff.1 ⟨_, by decide, rfl⟩
    rw [beq_iff_eq.1 zero, value]
    exact ⟨0, Decimal.isShortest_zero tie⟩
  · next nonzero =>
    rw [value_ofDecimal]
    exact Decimal.isShortest_shortest tie (Nat.pos_of_ne_zero (mt beq_iff_eq.2 nonzero))

/-- The digits of a number are read as the number. -/
theorem code_ofBinary64 (tie : TieBreak) (x : Binary64) :
    (ofBinary64 tie x).decimal.code = x.code := by
  obtain ⟨count, short⟩ := isShortest_ofBinary64 tie x
  exact Decimal.code_eq_iff.2 short.reads

end Digits

end ChartScript
