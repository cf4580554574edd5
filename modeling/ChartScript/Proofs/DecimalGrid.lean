import ChartScript.Number.Shortest
import ChartScript.Proofs.Rounding

/-!
# Decimals on a grid

A decimal is read as the code nearest to its value, so zeros may be moved between the coefficient
and the power. The decimals of one power are a grid, on which a number lies between two neighbours.
What reads back lies around the number without a gap, so a grid has a point that reads back only if
a neighbour does, and the better of the neighbours is the best point of the grid.
-/

namespace ChartScript

open Binary64 (roundCode numerator denominator unitPower significand magnitude IsNearest)

namespace Decimal

/-- Denominators are powers of ten. -/
theorem bottom_pos (d : Decimal) : 0 < d.bottom :=
  Nat.pow_pos (by decide)

/-- The number that a decimal stands for. -/
def value (d : Decimal) : ℚ := d.coefficient * 10 ^ d.power

/-- The value of a decimal is the quotient of its two sides. -/
theorem top_div_bottom (d : Decimal) : (d.top : ℚ) / d.bottom = d.value := by
  rw [value, zpow_eq_div, top, bottom, Nat.pow_eq, Nat.pow_eq]
  push_cast
  ring

/-- The code that a decimal is read as. -/
def code (d : Decimal) : Nat := roundCode d.top d.bottom

/-- A decimal is read as the code nearest to its value. -/
theorem code_eq_iff {d : Decimal} {c : Nat} : d.code = c ↔ IsNearest c d.value := by
  rw [code, Binary64.roundCode_eq_iff d.bottom_pos, top_div_bottom]

/-- A decimal is read as its code. -/
theorem readsAs_iff {d : Decimal} {c : Nat} : d.readsAs c = true ↔ IsNearest c d.value := by
  rw [readsAs, beq_iff_eq, ← code_eq_iff, code]

/-- Decimals with one value are read alike. -/
theorem code_congr {d e : Decimal} (same : d.value = e.value) : d.code = e.code := by
  rw [code_eq_iff, same, ← code_eq_iff]

/-- Zeros at the end of a coefficient may be moved to the power. -/
theorem value_mul_pow (coefficient zeros : Nat) (power : Int) :
    value ⟨coefficient * 10 ^ zeros, power⟩ = value ⟨coefficient, power + zeros⟩ := by
  rw [value, value, zpow_add₀ (by norm_num), zpow_natCast]
  push_cast
  ring

/-- A code in units of a power of ten is the quotient whose whole part is taken. -/
theorem scaled_numerator (c : Nat) (power : Int) :
    ((numerator c * Nat.pow 10 (-power).toNat : ℕ) : ℚ) /
      (denominator c * Nat.pow 10 power.toNat : ℕ) = magnitude c / 10 ^ power := by
  rw [← Binary64.numerator_div_denominator, zpow_eq_div, Nat.pow_eq, Nat.pow_eq]
  push_cast
  rw [div_div_div_eq]

/-- Quotients of codes in units of a power of ten have a denominator. -/
theorem scaled_denominator_pos (c : Nat) (power : Int) :
    0 < denominator c * Nat.pow 10 power.toNat :=
  Nat.mul_pos (Binary64.denominator_pos c) (Nat.pow_pos (by decide))

/-- A code lies between two points of a grid. -/
theorem floorAt_bounds (c : Nat) (power : Int) :
    value ⟨floorAt c power, power⟩ ≤ magnitude c ∧
      magnitude c < value ⟨floorAt c power + 1, power⟩ := by
  have unit : (0 : ℚ) < 10 ^ power := zpow_pos (by norm_num) _
  have bounds := Binary64.whole_le_div (numerator c * Nat.pow 10 (-power).toNat)
    (scaled_denominator_pos c power)
  rw [scaled_numerator, le_div_iff₀ unit, div_lt_iff₀ unit, ← Nat.cast_succ] at bounds
  exact bounds

/-- On a grid at most as coarse as the unit of a code and as one, the code itself is a point. -/
theorem value_floorAt {c : Nat} {power : Int} (fine : power ≤ min 0 (unitPower c)) :
    value ⟨floorAt c power, power⟩ = magnitude c := by
  have unit : (0 : ℚ) < 10 ^ power := zpow_pos (by norm_num) _
  obtain ⟨low, high⟩ := floorAt_bounds c power
  have point : magnitude c =
      (significand c * 2 ^ (unitPower c - power).toNat * 5 ^ (-power).toNat : ℕ) * 10 ^ power := by
    have twos : (2 : ℚ) ^ (unitPower c - power).toNat * 2 ^ power = 2 ^ unitPower c := by
      rw [← zpow_natCast, Int.toNat_of_nonneg (by omega), ← zpow_add₀ two_ne_zero, sub_add_cancel]
    have fives : (5 : ℚ) ^ (-power).toNat * 5 ^ power = 1 := by
      rw [← zpow_natCast, Int.toNat_of_nonneg (by omega), zpow_neg,
        inv_mul_cancel₀ (zpow_ne_zero _ (by norm_num))]
    rw [magnitude, ← twos, show (10 : ℚ) = 2 * 5 by norm_num, mul_zpow]
    push_cast
    linear_combination -(significand c : ℚ) * 2 ^ (unitPower c - power).toNat * 2 ^ power * fives
  rw [point] at low high ⊢
  rw [value] at low high ⊢
  have lower := le_of_mul_le_mul_right low unit
  have upper := lt_of_mul_lt_mul_right high unit.le
  rw [Nat.cast_le] at lower
  rw [Nat.cast_lt] at upper
  rw [le_antisymm lower (Nat.le_of_lt_succ upper)]

/-- A value is at least as near to one decimal as to another, and of two that are as near a tie
that goes up takes the greater one. -/
def Closer (tie : TieBreak) (exact near far : ℚ) : Prop :=
  |exact - near| < |exact - far| ∨ |exact - near| = |exact - far| ∧ (tie = .up → far ≤ near)

/-- On which side of the middle between two points of a grid a code lies is told by the rest. -/
theorem compare_middle (c : Nat) (power : Int) :
    let num := numerator c * Nat.pow 10 (-power).toNat
    let den := denominator c * Nat.pow 10 power.toNat
    (2 * (num % den) < den ↔ 2 * magnitude c <
        value ⟨floorAt c power, power⟩ + value ⟨floorAt c power + 1, power⟩) ∧
      (den < 2 * (num % den) ↔
        value ⟨floorAt c power, power⟩ + value ⟨floorAt c power + 1, power⟩ < 2 * magnitude c) := by
  intro num den
  have unit : (0 : ℚ) < 10 ^ power := zpow_pos (by norm_num) _
  have middle : value ⟨floorAt c power, power⟩ + value ⟨floorAt c power + 1, power⟩ =
      (2 * (num / den : ℕ) + 1) * 10 ^ power := by
    rw [value, value, floorAt]
    push_cast
    ring
  have sides := Binary64.compare_half num (scaled_denominator_pos c power)
  rw [scaled_numerator, ← mul_div_assoc, div_lt_iff₀ unit, lt_div_iff₀ unit, ← middle] at sides
  exact sides

/-- The lower point of a grid is preferred if it is nearer, or as near by a tie that may go down. -/
theorem prefersLower_eq_true {tie : TieBreak} {c : Nat} {power : Int}
    (lower : prefersLower tie c power = true) :
    2 * magnitude c < value ⟨floorAt c power, power⟩ + value ⟨floorAt c power + 1, power⟩ ∨
      2 * magnitude c = value ⟨floorAt c power, power⟩ + value ⟨floorAt c power + 1, power⟩ ∧
        tie ≠ .up := by
  obtain ⟨before, behind⟩ := compare_middle c power
  simp only [prefersLower] at lower
  split at lower
  · next less => exact .inl (before.1 (Nat.compare_eq_lt.1 less))
  · cases lower
  · next equal =>
    have same := Nat.compare_eq_eq.1 equal
    refine .inr ⟨le_antisymm (not_lt.1 (mt behind.2 same.not_gt))
      (not_lt.1 (mt before.2 same.not_lt)), ?_⟩
    rintro rfl
    cases lower

/-- The upper point of a grid is preferred only if it is at least as near. -/
theorem prefersLower_eq_false {tie : TieBreak} {c : Nat} {power : Int}
    (upper : prefersLower tie c power = false) :
    value ⟨floorAt c power, power⟩ + value ⟨floorAt c power + 1, power⟩ ≤ 2 * magnitude c := by
  obtain ⟨before, behind⟩ := compare_middle c power
  simp only [prefersLower] at upper
  split at upper
  · cases upper
  · next greater => exact (behind.1 (Nat.compare_eq_gt.1 greater)).le
  · next equal => exact not_lt.1 (mt before.2 (Nat.compare_eq_eq.1 equal).not_lt)

/-- The points of a grid grow with their coefficients. -/
theorem value_le_value {m n : Nat} (less : m ≤ n) (power : Int) :
    value ⟨m, power⟩ ≤ value ⟨n, power⟩ :=
  mul_le_mul_of_nonneg_right (Nat.cast_le.2 less) (zpow_nonneg (by norm_num) _)

variable {tie : TieBreak} {c : Nat} {power : Int} {d : Decimal}

/-- A point of a grid reads back only if the next point of the grid on the way to the number does. -/
theorem reads_neighbour {m : Nat} (reads : IsNearest c (value ⟨m, power⟩)) :
    m ≤ floorAt c power ∧ IsNearest c (value ⟨floorAt c power, power⟩) ∨
      floorAt c power + 1 ≤ m ∧ IsNearest c (value ⟨floorAt c power + 1, power⟩) := by
  obtain ⟨low, high⟩ := floorAt_bounds c power
  rcases Nat.lt_or_ge (floorAt c power) m with above | below
  · exact .inr ⟨above,
      (Binary64.isNearest_magnitude c).between reads high.le (value_le_value above power)⟩
  · exact .inl ⟨below,
      reads.between (Binary64.isNearest_magnitude c) (value_le_value below power) low⟩

/-- The best point of a grid that reads back. -/
structure IsBestOn (tie : TieBreak) (c : Nat) (power : Int) (d : Decimal) : Prop where
  /-- The decimal lies on the grid. -/
  placed : d.power = power
  /-- The decimal reads back. -/
  reads : IsNearest c d.value
  /-- The decimal is one of the two neighbours of the number, or below them. -/
  adjacent : d.coefficient ≤ floorAt c power + 1
  /-- No other point of the grid that reads back is preferred. -/
  best : ∀ m : Nat, IsNearest c (value ⟨m, power⟩) →
    Closer tie (magnitude c) d.value (value ⟨m, power⟩)

/-- A grid without a hit has no point that reads back. -/
theorem onGrid?_eq_none (nothing : onGrid? tie c power = none) (m : Nat) :
    ¬IsNearest c (value ⟨m, power⟩) := by
  intro reads
  have upper : ¬IsNearest c (value ⟨floorAt c power + 1, power⟩) := by
    intro upper
    simp only [onGrid?, readsAs_iff.2 upper, if_true] at nothing
    split at nothing <;> cases nothing
  have lower : ¬IsNearest c (value ⟨floorAt c power, power⟩) := by
    intro lower
    have other := Bool.eq_false_iff.2 (mt readsAs_iff.1 upper)
    simp only [onGrid?, readsAs_iff.2 lower, other, Bool.not_false, Bool.true_or, Bool.true_and,
      if_true] at nothing
    cases nothing
  rcases reads_neighbour reads with ⟨-, below⟩ | ⟨-, above⟩
  · exact lower below
  · exact upper above

/-- The lower neighbour is the best point of a grid if the upper one does not read back or is not
preferred. -/
theorem isBestOn_lower (reads : IsNearest c (value ⟨floorAt c power, power⟩))
    (preferred : IsNearest c (value ⟨floorAt c power + 1, power⟩) →
      prefersLower tie c power = true) : IsBestOn tie c power ⟨floorAt c power, power⟩ where
  placed := rfl
  reads := reads
  adjacent := Nat.le_succ _
  best := by
    intro m other
    obtain ⟨low, high⟩ := floorAt_bounds c power
    rw [Closer, abs_of_nonneg (by linarith : 0 ≤ magnitude c - value ⟨floorAt c power, power⟩)]
    rcases reads_neighbour other with ⟨below, -⟩ | ⟨above, upper⟩
    · have farther := value_le_value below power
      rw [abs_of_nonneg (by linarith : 0 ≤ magnitude c - value ⟨m, power⟩)]
      rcases farther.lt_or_eq with less | equal
      · exact .inl (by linarith)
      · exact .inr ⟨by rw [equal], fun _ => farther⟩
    · have farther := value_le_value above power
      rw [abs_of_nonpos (by linarith : magnitude c - value ⟨m, power⟩ ≤ 0)]
      rcases prefersLower_eq_true (preferred upper) with before | ⟨middle, even⟩
      · exact .inl (by linarith)
      · rcases farther.lt_or_eq with less | equal
        · exact .inl (by linarith)
        · exact .inr ⟨by linarith, fun up => absurd up even⟩

/-- The upper neighbour is the best point of a grid if the lower one does not read back or is not
preferred. -/
theorem isBestOn_upper (reads : IsNearest c (value ⟨floorAt c power + 1, power⟩))
    (preferred : IsNearest c (value ⟨floorAt c power, power⟩) →
      prefersLower tie c power = false) : IsBestOn tie c power ⟨floorAt c power + 1, power⟩ where
  placed := rfl
  reads := reads
  adjacent := le_rfl
  best := by
    intro m other
    obtain ⟨low, high⟩ := floorAt_bounds c power
    rw [Closer, abs_of_nonpos (by linarith : magnitude c - value ⟨floorAt c power + 1, power⟩ ≤ 0)]
    rcases reads_neighbour other with ⟨below, lower⟩ | ⟨above, -⟩
    · have farther := value_le_value below power
      rw [abs_of_nonneg (by linarith : 0 ≤ magnitude c - value ⟨m, power⟩)]
      have middle := prefersLower_eq_false (preferred lower)
      rcases (show -(magnitude c - value ⟨floorAt c power + 1, power⟩) ≤
          magnitude c - value ⟨m, power⟩ by linarith).lt_or_eq with less | equal
      · exact .inl less
      · exact .inr ⟨equal, fun _ => by linarith⟩
    · have farther := value_le_value above power
      rw [abs_of_nonpos (by linarith : magnitude c - value ⟨m, power⟩ ≤ 0)]
      rcases farther.lt_or_eq with less | equal
      · exact .inl (by linarith)
      · exact .inr ⟨by rw [equal], fun _ => equal.ge⟩

/-- The hit on a grid is its best point. -/
theorem onGrid?_eq_some (found : onGrid? tie c power = some d) : IsBestOn tie c power d := by
  simp only [onGrid?] at found
  split at found
  · next lower =>
    cases found
    obtain ⟨reads, other⟩ := Bool.and_eq_true_iff.1 lower
    apply isBestOn_lower (readsAs_iff.1 reads)
    intro upper
    rwa [readsAs_iff.2 upper, Bool.not_true, Bool.false_or] at other
  · next passed =>
    split at found
    · next upper =>
      cases found
      apply isBestOn_upper (readsAs_iff.1 upper)
      intro lower
      rw [readsAs_iff.2 lower, upper, Bool.not_true, Bool.false_or, Bool.true_and] at passed
      exact Bool.eq_false_iff.2 passed
    · cases found

/-- A code that is a point of a grid is the best one. -/
theorem isBestOn_floorAt (tie : TieBreak) (fine : power ≤ min 0 (unitPower c)) :
    IsBestOn tie c power ⟨floorAt c power, power⟩ where
  placed := rfl
  reads := by
    rw [value_floorAt fine]
    exact Binary64.isNearest_magnitude c
  adjacent := Nat.le_succ _
  best := by
    intro m _
    rw [Closer, value_floorAt fine, sub_self, abs_zero]
    rcases eq_or_ne (magnitude c) (value ⟨m, power⟩) with equal | different
    · exact .inr ⟨by rw [equal, sub_self, abs_zero], fun _ => equal.ge⟩
    · exact .inl (abs_pos.2 (sub_ne_zero.2 different))

end Decimal

end ChartScript
