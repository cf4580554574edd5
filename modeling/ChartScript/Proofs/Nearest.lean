import ChartScript.Number.Binary64
import Mathlib.Algebra.Order.Field.Power
import Mathlib.Data.Rat.Cast.Order
import Mathlib.Tactic.Linarith
import Mathlib.Tactic.LinearCombination
import Mathlib.Tactic.Ring

/-!
# Nearest codes

A code stands for a rational number: its units of a power of two. The values grow with the codes, so
every rational number between two of them has a nearest code, the even one of two that are as near.
The code of infinity takes part as the value that would come after the largest finite one, as a
number is rounded to infinity when this value is nearest.
-/

namespace ChartScript

/-- A whole power of a base is a quotient of two powers, one of them one. -/
theorem zpow_eq_div (base : ℚ) (power : ℤ) :
    base ^ power = base ^ power.toNat / base ^ (-power).toNat := by
  obtain ⟨n, rfl | rfl⟩ := power.eq_nat_or_neg
  · simp
  · simp

/-- Which of two values is nearer is told by the middle between them. -/
theorem abs_sub_lt_abs_sub_iff {low high q : ℚ} (less : low < high) :
    (|q - high| < |q - low| ↔ low + high < 2 * q) ∧
      (|q - low| < |q - high| ↔ 2 * q < low + high) := by
  have gap : 0 < high - low := sub_pos.2 less
  have upper : (q - low) ^ 2 - (q - high) ^ 2 = (high - low) * (2 * q - (low + high)) := by ring
  have lower : (q - high) ^ 2 - (q - low) ^ 2 = (high - low) * (low + high - 2 * q) := by ring
  constructor
  · rw [← sq_lt_sq, ← sub_pos, upper, mul_pos_iff_of_pos_left gap, sub_pos]
  · rw [← sq_lt_sq, ← sub_pos, lower, mul_pos_iff_of_pos_left gap, sub_pos]

/-- Two values are equally near in the middle between them. -/
theorem abs_sub_eq_abs_sub_iff {low high q : ℚ} (less : low < high) :
    |q - low| = |q - high| ↔ 2 * q = low + high := by
  obtain ⟨upper, lower⟩ := abs_sub_lt_abs_sub_iff (q := q) less
  rw [le_antisymm_iff, ← not_lt, ← not_lt, upper, lower, not_lt, not_lt, ← le_antisymm_iff]

namespace Binary64

/-- The value of a code: its units. Codes beyond the finite ones stand for what would come next. -/
def magnitude (code : ℕ) : ℚ := significand code * 2 ^ unitPower code

/-- The value of a code is the quotient of its numerator and its denominator. -/
theorem numerator_div_denominator (code : ℕ) :
    (numerator code : ℚ) / denominator code = magnitude code := by
  rw [magnitude, zpow_eq_div, numerator, denominator, Nat.pow_eq, Nat.pow_eq]
  push_cast
  ring

/-- The code zero stands for zero. -/
theorem magnitude_zero : magnitude 0 = 0 := by
  rw [magnitude, show significand 0 = 0 by decide, Nat.cast_zero, zero_mul]

/-- A positive code stands for a positive value. -/
theorem numerator_pos {code : ℕ} (positive : 0 < code) : 0 < numerator code := by
  have units : 0 < significand code := by
    rw [significand]
    split
    · exact positive
    · have : 0 < fractions := by decide
      omega
  exact Nat.mul_pos units (Nat.two_pow_pos _)

/-- A code that is put together from a unit and a number of units has these. -/
theorem units_of_code {unit : ℤ} {units : ℕ} (least : leastUnit ≤ unit)
    (most : units < 2 * fractions) (normal : unit = leastUnit ∨ fractions ≤ units) :
    significand ((unit - leastUnit).toNat * fractions + units) = units ∧
      unitPower ((unit - leastUnit).toNat * fractions + units) = unit := by
  rw [significand, unitPower]
  split <;> simp only [leastUnit, fractions] at * <;> omega

/-- The next code stands for one unit more, also where the unit changes. -/
theorem magnitude_succ (code : ℕ) :
    magnitude (code + 1) = magnitude code + 2 ^ unitPower code := by
  have two : (2 : ℚ) ≠ 0 := by norm_num
  have kept_or_doubled :
      significand (code + 1) = significand code + 1 ∧ unitPower (code + 1) = unitPower code ∨
        significand code + 1 = 2 * significand (code + 1) ∧
          unitPower (code + 1) = unitPower code + 1 := by
    by_cases subnormal : code < fractions <;> by_cases next : code + 1 < fractions <;>
      simp only [significand, unitPower, subnormal, next, if_true, if_false] <;>
      simp only [fractions, leastUnit, and_self, true_or] at * <;> omega
  rw [magnitude, magnitude]
  rcases kept_or_doubled with ⟨units, unit⟩ | ⟨units, unit⟩
  · rw [units, unit]
    push_cast
    ring
  · have doubled : (significand code : ℚ) + 1 = 2 * significand (code + 1) := by
      exact_mod_cast units
    rw [unit, zpow_add_one₀ two]
    linear_combination -(2 : ℚ) ^ unitPower code * doubled

/-- Greater codes stand for greater values. -/
theorem strictMono_magnitude : StrictMono magnitude := by
  apply strictMono_nat_of_lt_succ
  intro code
  rw [magnitude_succ]
  exact lt_add_of_pos_right _ (zpow_pos (by norm_num) _)

/-- A code is the nearest one to a value, and even if another is as near. -/
def IsNearest (code : ℕ) (q : ℚ) : Prop :=
  ∀ other, other ≠ code → |q - magnitude code| < |q - magnitude other| ∨
    |q - magnitude code| = |q - magnitude other| ∧ code % 2 = 0

variable {code : ℕ} {q : ℚ}

/-- A code is nearest if the middles to lower codes lie below, and those to greater ones above. -/
theorem isNearest_iff :
    IsNearest code q ↔
      (∀ other < code, magnitude other + magnitude code < 2 * q ∨
        2 * q = magnitude other + magnitude code ∧ code % 2 = 0) ∧
      ∀ other > code, 2 * q < magnitude code + magnitude other ∨
        2 * q = magnitude code + magnitude other ∧ code % 2 = 0 := by
  have lower {other : ℕ} (less : other < code) :=
    (abs_sub_lt_abs_sub_iff (q := q) (strictMono_magnitude less)).1
  have upper {other : ℕ} (greater : code < other) :=
    (abs_sub_lt_abs_sub_iff (q := q) (strictMono_magnitude greater)).2
  constructor
  · intro nearest
    refine ⟨fun other less => ?_, fun other greater => ?_⟩
    · rw [← lower less, ← abs_sub_eq_abs_sub_iff (strictMono_magnitude less), eq_comm]
      exact nearest other less.ne
    · rw [← upper greater, ← abs_sub_eq_abs_sub_iff (strictMono_magnitude greater)]
      exact nearest other greater.ne'
  · rintro ⟨below, above⟩ other different
    rcases Nat.lt_or_gt_of_ne different with less | greater
    · rw [lower less, eq_comm, abs_sub_eq_abs_sub_iff (strictMono_magnitude less)]
      exact below other less
    · rw [upper greater, abs_sub_eq_abs_sub_iff (strictMono_magnitude greater)]
      exact above other greater

/-- Between two codes, the lower one is nearest up to the middle. -/
theorem isNearest_lower (low : magnitude code ≤ q)
    (half : 2 * q < magnitude code + magnitude (code + 1) ∨
      2 * q = magnitude code + magnitude (code + 1) ∧ code % 2 = 0) : IsNearest code q := by
  rw [isNearest_iff]
  refine ⟨fun other less => ?_, fun other greater => ?_⟩
  · exact .inl (by linarith [strictMono_magnitude less])
  · have above := strictMono_magnitude.monotone (Nat.succ_le_of_lt greater)
    rcases half with before | ⟨middle, even⟩
    · exact .inl (by linarith)
    · rcases above.lt_or_eq with beyond | next
      · exact .inl (by linarith)
      · exact .inr ⟨by rw [← next, middle], even⟩

/-- Between two codes, the upper one is nearest from the middle on. -/
theorem isNearest_upper (high : q < magnitude (code + 1))
    (half : magnitude code + magnitude (code + 1) < 2 * q ∨
      magnitude code + magnitude (code + 1) = 2 * q ∧ code % 2 = 1) : IsNearest (code + 1) q := by
  rw [isNearest_iff]
  refine ⟨fun other less => ?_, fun other greater => ?_⟩
  · have below := strictMono_magnitude.monotone (Nat.le_of_lt_succ less)
    rcases half with behind | ⟨middle, odd⟩
    · exact .inl (by linarith)
    · rcases below.lt_or_eq with before | same
      · exact .inl (by linarith)
      · exact .inr ⟨by rw [same, middle], by omega⟩
  · exact .inl (by linarith [strictMono_magnitude greater])

/-- A value has one nearest code: between two even ones that are as near lies a third. -/
theorem IsNearest.unique {other : ℕ} (nearest : IsNearest code q) (nearest' : IsNearest other q) :
    code = other := by
  have never {a b : ℕ} (less : a < b) (lower : IsNearest a q) (upper : IsNearest b q) : False := by
    rcases (isNearest_iff.1 lower).2 b less with before | ⟨middle, even⟩ <;>
      rcases (isNearest_iff.1 upper).1 a less with behind | ⟨middle', even'⟩
    · exact behind.not_gt before
    · exact before.ne middle'
    · exact behind.ne' middle
    · have third : a + 1 < b := by omega
      have inner := strictMono_magnitude third
      rcases (isNearest_iff.1 lower).2 (a + 1) (Nat.lt_succ_self a) with less | ⟨equal, -⟩
      · linarith
      · linarith
  rcases Nat.lt_trichotomy code other with less | equal | greater
  · exact (never less nearest nearest').elim
  · exact equal
  · exact (never greater nearest' nearest).elim

/-- The value of a code is nearest to the code. -/
theorem isNearest_magnitude (code : ℕ) : IsNearest code (magnitude code) := by
  intro other different
  left
  rw [sub_self, abs_zero, abs_pos, sub_ne_zero]
  exact strictMono_magnitude.injective.ne different.symm

/-- What is nearest does not lie beyond a code whose value is no less. -/
theorem IsNearest.le_of_le_magnitude {other : ℕ} (nearest : IsNearest code q)
    (most : q ≤ magnitude other) : code ≤ other := by
  by_contra beyond
  rw [not_le] at beyond
  have greater := strictMono_magnitude beyond
  rcases (isNearest_iff.1 nearest).1 other beyond with behind | ⟨middle, -⟩ <;> linarith

/-- What lies between two values with one nearest code has the same nearest code. -/
theorem IsNearest.between {low high : ℚ} (nearest : IsNearest code low)
    (nearest' : IsNearest code high) (least : low ≤ q) (most : q ≤ high) : IsNearest code q := by
  rw [isNearest_iff] at *
  refine ⟨fun other less => ?_, fun other greater => ?_⟩
  · rcases nearest.1 other less with behind | ⟨middle, even⟩
    · exact .inl (by linarith)
    · rcases least.lt_or_eq with more | same
      · exact .inl (by linarith)
      · exact .inr ⟨same ▸ middle, even⟩
  · rcases nearest'.2 other greater with before | ⟨middle, even⟩
    · exact .inl (by linarith)
    · rcases most.lt_or_eq with more | same
      · exact .inl (by linarith)
      · exact .inr ⟨same ▸ middle, even⟩

end Binary64

end ChartScript
