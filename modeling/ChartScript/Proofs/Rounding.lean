import ChartScript.Proofs.Nearest
import Mathlib.Data.Nat.Cast.Order.Field
import Mathlib.Tactic.FieldSimp
import Mathlib.Tactic.Positivity

/-!
# Rounding of quotients

Rounding a quotient gives the nearest code. Its binary logarithm tells the unit, and in this unit
the quotient has a whole part that fits the significand; the rounding of the rest decides between
the code of the whole part and the next one, which is one unit away also where the unit changes. As
the nearest code is told by the value alone, it does not matter how a quotient is reduced.
-/

namespace ChartScript

/-- The first digit of a number in a base stands at a power. -/
def LeadsAt (base : ℕ) (power : ℤ) (q : ℚ) : Prop :=
  (base : ℚ) ^ power ≤ q ∧ q < (base : ℚ) ^ (power + 1)

/-- A quotient whose whole part has its first digit at a power has it there too. -/
theorem leadsAt_of_whole {base num den k : ℕ} (positive : 0 < den) (least : base ^ k ≤ num / den)
    (most : num / den < base ^ (k + 1)) : LeadsAt base k (num / den) := by
  have bottom : (0 : ℚ) < den := Nat.cast_pos.2 positive
  constructor
  · rw [le_div_iff₀ bottom, zpow_natCast]
    exact_mod_cast (Nat.le_div_iff_mul_le positive).1 least
  · rw [div_lt_iff₀ bottom, ← Nat.cast_succ, zpow_natCast]
    exact_mod_cast (Nat.div_lt_iff_lt_mul positive).1 most

/-- A quotient below one has its first digit where the whole part of the turned quotient says. -/
theorem leadsAt_of_part {base num den k : ℕ} (some : 0 < num) (part : num < den) (based : 0 < base)
    (least : base ^ k ≤ (den - 1) / num) (most : (den - 1) / num < base ^ (k + 1)) :
    LeadsAt base (-(k + 1 : ℕ)) (num / den) := by
  have bottom : (0 : ℚ) < den := Nat.cast_pos.2 (by omega)
  have power (n : ℕ) : (0 : ℚ) < (base : ℚ) ^ n := pow_pos (Nat.cast_pos.2 based) n
  have inside : base ^ k * num ≤ den - 1 := (Nat.le_div_iff_mul_le some).1 least
  have outside : den - 1 < base ^ (k + 1) * num := (Nat.div_lt_iff_lt_mul some).1 most
  constructor
  · rw [le_div_iff₀ bottom, zpow_neg, zpow_natCast, inv_mul_le_iff₀ (power _)]
    exact_mod_cast (by omega : den ≤ base ^ (k + 1) * num)
  · rw [show -((k + 1 : ℕ) : ℤ) + 1 = -(k : ℤ) by omega, div_lt_iff₀ bottom, zpow_neg,
      zpow_natCast, lt_inv_mul_iff₀ (power _)]
    exact_mod_cast (by omega : base ^ k * num < den)

namespace Binary64

/-- The binary logarithm of a positive quotient is the power of its first binary digit. -/
theorem leadsAt_floorLog2 {num den : ℕ} (some : 0 < num) (positive : 0 < den) :
    LeadsAt 2 (floorLog2 num den) (num / den) := by
  rw [floorLog2]
  split
  · next whole =>
    have filled : num / den ≠ 0 := (Nat.div_pos whole positive).ne'
    exact leadsAt_of_whole positive (Nat.log2_self_le filled) Nat.lt_log2_self
  · next part =>
    have filled : (den - 1) / num ≠ 0 := (Nat.div_pos (by omega) some).ne'
    exact leadsAt_of_part some (by omega) (by decide) (Nat.log2_self_le filled) Nat.lt_log2_self

/-- A quotient is its whole part and the rest, here in halves. -/
theorem two_mul_div (num : ℕ) {den : ℕ} (positive : 0 < den) :
    2 * ((num : ℚ) / den) = 2 * (num / den : ℕ) + ((2 * (num % den) : ℕ) : ℚ) / den := by
  have bottom : (den : ℚ) ≠ 0 := Nat.cast_ne_zero.2 positive.ne'
  have parts : (num : ℚ) = (num / den : ℕ) * den + (num % den : ℕ) := by
    exact_mod_cast (Nat.div_add_mod' num den).symm
  calc 2 * ((num : ℚ) / den)
      = 2 * (((num / den : ℕ) * den + (num % den : ℕ)) / den) := by rw [← parts]
    _ = 2 * (num / den : ℕ) + ((2 * (num % den) : ℕ) : ℚ) / den := by
      rw [add_div, mul_div_cancel_right₀ _ bottom]
      push_cast
      ring

/-- The whole part of a quotient is the whole number below it. -/
theorem whole_le_div (num : ℕ) {den : ℕ} (positive : 0 < den) :
    ((num / den : ℕ) : ℚ) ≤ num / den ∧ (num : ℚ) / den < (num / den : ℕ) + 1 := by
  refine ⟨Nat.cast_div_le, ?_⟩
  rw [div_lt_iff₀ (Nat.cast_pos.2 positive), ← Nat.cast_succ, mul_comm]
  exact_mod_cast Nat.lt_mul_div_succ num positive

/-- On which side of the middle between two whole numbers a quotient lies is told by its rest. -/
theorem compare_half (num : ℕ) {den : ℕ} (positive : 0 < den) :
    (2 * (num % den) < den ↔ 2 * ((num : ℚ) / den) < 2 * (num / den : ℕ) + 1) ∧
      (den < 2 * (num % den) ↔ 2 * (num / den : ℕ) + 1 < 2 * ((num : ℚ) / den)) := by
  have bottom : (0 : ℚ) < den := Nat.cast_pos.2 positive
  rw [two_mul_div num positive, add_lt_add_iff_left, add_lt_add_iff_left, div_lt_one bottom,
    one_lt_div bottom, Nat.cast_lt, Nat.cast_lt]
  exact ⟨Iff.rfl, Iff.rfl⟩

/-- A value is rounded from the whole number below it: to this one or the next, whichever is
nearer, and of two to the even one. -/
def RoundsTo (exact : ℚ) (whole rounded : ℕ) : Prop :=
  whole ≤ exact ∧ exact < whole + 1 ∧
    (rounded = whole ∧ (2 * exact < 2 * whole + 1 ∨ 2 * exact = 2 * whole + 1 ∧ whole % 2 = 0) ∨
      rounded = whole + 1 ∧
        (2 * whole + 1 < 2 * exact ∨ 2 * whole + 1 = 2 * exact ∧ whole % 2 = 1))

/-- Rounding a quotient starts from its whole part. -/
theorem roundsTo_roundHalfEven (num : ℕ) {den : ℕ} (positive : 0 < den) :
    RoundsTo (num / den) (num / den : ℕ) (roundHalfEven num den) := by
  obtain ⟨low, high⟩ := whole_le_div num positive
  obtain ⟨before, behind⟩ := compare_half num positive
  refine ⟨low, high, ?_⟩
  rw [roundHalfEven]
  rcases Nat.lt_trichotomy (2 * (num % den)) den with less | equal | greater
  · exact .inl ⟨if_pos (.inl less), .inl (before.1 less)⟩
  · have middle : 2 * ((num : ℚ) / den) = 2 * (num / den : ℕ) + 1 :=
      le_antisymm (not_lt.1 (mt behind.2 (by omega))) (not_lt.1 (mt before.2 (by omega)))
    rcases Nat.mod_two_eq_zero_or_one (num / den) with even | odd
    · exact .inl ⟨if_pos (.inr ⟨equal, even⟩), .inr ⟨middle, even⟩⟩
    · exact .inr ⟨if_neg (by omega), .inr ⟨middle.symm, odd⟩⟩
  · exact .inr ⟨if_neg (by omega), .inl (behind.1 greater)⟩

/-- The whole units of a quotient fit a code whose unit is the one for the quotient. -/
theorem units_fit {num den whole : ℕ} (some : 0 < num) (positive : 0 < den)
    (low : (whole : ℚ) ≤ num / den / 2 ^ unitFor num den)
    (high : (num : ℚ) / den / 2 ^ unitFor num den < whole + 1) :
    whole < 2 * fractions ∧ (unitFor num den = leastUnit ∨ fractions ≤ whole) := by
  obtain ⟨first, last⟩ := leadsAt_floorLog2 some positive
  have two : (2 : ℚ) ≠ 0 := two_ne_zero
  have unit : (0 : ℚ) < 2 ^ unitFor num den := zpow_pos two_pos _
  rw [le_div_iff₀ unit] at low
  rw [div_lt_iff₀ unit] at high
  rw [Nat.cast_ofNat] at first last
  constructor
  · have fits : (whole : ℚ) * 2 ^ unitFor num den < (2 * fractions : ℕ) * 2 ^ unitFor num den := by
      calc (whole : ℚ) * 2 ^ unitFor num den
          < 2 ^ (floorLog2 num den + 1) := low.trans_lt last
        _ ≤ 2 ^ ((53 : ℤ) + unitFor num den) := by
          apply zpow_le_zpow_right₀ one_le_two
          rw [unitFor, fractionBits]
          omega
        _ = (2 * fractions : ℕ) * 2 ^ unitFor num den := by
          rw [zpow_add₀ two, fractions]
          norm_num
    exact_mod_cast lt_of_mul_lt_mul_right fits unit.le
  · by_cases small : unitFor num den = leastUnit
    · exact .inl small
    · right
      have filled : (fractions : ℚ) * 2 ^ unitFor num den <
          (whole + 1 : ℕ) * 2 ^ unitFor num den := by
        calc (fractions : ℚ) * 2 ^ unitFor num den
            = 2 ^ ((52 : ℤ) + unitFor num den) := by
              rw [zpow_add₀ two, fractions]
              norm_num
          _ = 2 ^ floorLog2 num den := by
            rw [unitFor, fractionBits] at small ⊢
            congr 1
            omega
          _ ≤ num / den := first
          _ < (whole + 1 : ℕ) * 2 ^ unitFor num den := by
            rw [Nat.cast_succ]
            exact high
      have less := lt_of_mul_lt_mul_right filled unit.le
      exact Nat.le_of_lt_succ (by exact_mod_cast less)

/-- Rounding a number of units gives the nearest code to the value that they have together. -/
theorem RoundsTo.isNearest {exact : ℚ} {whole rounded : ℕ} (rounds : RoundsTo exact whole rounded)
    {unit : ℤ} (least : leastUnit ≤ unit) (most : whole < 2 * fractions)
    (normal : unit = leastUnit ∨ fractions ≤ whole) :
    IsNearest ((unit - leastUnit).toNat * fractions + rounded) (exact * 2 ^ unit) := by
  obtain ⟨low, high, cases⟩ := rounds
  obtain ⟨units, power⟩ := units_of_code least most normal
  have positive : (0 : ℚ) < 2 ^ unit := zpow_pos two_pos _
  have parity : ((unit - leastUnit).toNat * fractions + whole) % 2 = whole % 2 := by
    rw [fractions]
    omega
  have here : magnitude ((unit - leastUnit).toNat * fractions + whole) = whole * 2 ^ unit := by
    rw [magnitude, units, power]
  have next : magnitude ((unit - leastUnit).toNat * fractions + whole + 1) =
      (whole + 1) * 2 ^ unit := by
    rw [magnitude_succ, here, power, add_one_mul]
  have low' := mul_le_mul_of_nonneg_right low positive.le
  have high' := mul_lt_mul_of_pos_right high positive
  rw [← here] at low'
  rw [← next] at high'
  rcases cases with ⟨rfl, half⟩ | ⟨rfl, half⟩
  · apply isNearest_lower low'
    rw [here, next]
    rcases half with before | ⟨middle, even⟩
    · left
      linarith [mul_lt_mul_of_pos_right before positive]
    · right
      exact ⟨by linear_combination 2 ^ unit * middle, parity.trans even⟩
  · rw [← Nat.add_assoc]
    apply isNearest_upper high'
    rw [here, next]
    rcases half with behind | ⟨middle, odd⟩
    · left
      linarith [mul_lt_mul_of_pos_right behind positive]
    · right
      exact ⟨by linear_combination 2 ^ unit * middle, parity.trans odd⟩

/-- Rounding gives the nearest code. -/
theorem isNearest_roundCode (num : ℕ) {den : ℕ} (positive : 0 < den) :
    IsNearest (roundCode num den) (num / den) := by
  rcases Nat.eq_zero_or_pos num with rfl | some
  · rw [roundCode, if_pos rfl, Nat.cast_zero, zero_div, ← magnitude_zero]
    exact isNearest_magnitude 0
  · have unit : (0 : ℚ) < 2 ^ unitFor num den := zpow_pos two_pos _
    have scaled : ((num * 2 ^ (-unitFor num den).toNat : ℕ) : ℚ) /
        (den * 2 ^ (unitFor num den).toNat : ℕ) = num / den / 2 ^ unitFor num den := by
      rw [zpow_eq_div]
      push_cast
      field_simp
    have rounds := roundsTo_roundHalfEven (num * 2 ^ (-unitFor num den).toNat)
      (Nat.mul_pos positive (Nat.two_pow_pos (unitFor num den).toNat))
    rw [scaled] at rounds
    obtain ⟨most, normal⟩ := units_fit some positive rounds.1 rounds.2.1
    have least : leastUnit ≤ unitFor num den := le_max_right _ _
    have nearest := rounds.isNearest least most normal
    rw [div_mul_cancel₀ _ unit.ne'] at nearest
    rw [roundCode, if_neg some.ne']
    exact nearest

/-- The nearest code is the one that rounding gives. -/
theorem roundCode_eq_iff {num den : ℕ} (positive : 0 < den) {code : ℕ} :
    roundCode num den = code ↔ IsNearest code (num / den) := by
  constructor
  · rintro rfl
    exact isNearest_roundCode num positive
  · exact (isNearest_roundCode num positive).unique

/-- No integer of 64 bits is rounded beyond the finite codes. -/
theorem roundCode_le_of_fits {n : ℕ} (fits : n ≤ 2 ^ 64) : roundCode n 1 ≤ infinite - 1 := by
  -- The bound has an exponent field of its own, with no fraction.
  have bound : magnitude (1087 * fractions) = 2 ^ 64 := by
    norm_num [magnitude, significand, unitPower, fractions, leastUnit]
  have most : (n : ℚ) / (1 : ℕ) ≤ magnitude (1087 * fractions) := by
    rw [bound, Nat.cast_one, div_one]
    exact_mod_cast fits
  exact ((isNearest_roundCode n one_pos).le_of_le_magnitude most).trans (by decide)

/-- The number of an integer of 64 bits is the nearest one, with the sign of the integer. -/
theorem eq_ofInt_iff {n : ℤ} (fits : n.natAbs ≤ 2 ^ 64) {x : Binary64} :
    x = ofInt n ↔ IsNearest x.code |(n : ℚ)| ∧ (x.negative = true ↔ n < 0) := by
  have nearest : IsNearest (roundCode n.natAbs 1) |(n : ℚ)| := by
    have rounded := isNearest_roundCode n.natAbs one_pos
    rwa [Nat.cast_one, div_one, Nat.cast_natAbs, Int.cast_abs] at rounded
  obtain ⟨negative, code, finite⟩ := x
  rw [ofInt, ofNat, mk.injEq, Nat.min_eq_left (roundCode_le_of_fits fits)]
  constructor
  · rintro ⟨rfl, rfl⟩
    exact ⟨nearest, decide_eq_true_iff⟩
  · rintro ⟨near, sign⟩
    exact ⟨Bool.eq_iff_iff.2 (sign.trans decide_eq_true_iff.symm), near.unique nearest⟩

end Binary64

end ChartScript
