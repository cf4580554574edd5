import ChartScript.Proofs.DecimalGrid

/-!
# The shortest decimal

The walk from the leading digit to finer grids ends with its first hit. A decimal with few digits
lies on a coarse grid, so nothing that reads back has fewer digits than the first hit, and nothing
with as many digits is preferred to it. What lies below the leading power of ten is no exception:
if it reads back, then this power of ten does, which lies on the first grid and is nearer. With a tie
that goes up, there is only one shortest decimal of a number.
-/

namespace ChartScript

open Binary64 (numerator denominator unitPower magnitude IsNearest)

namespace Decimal

variable {tie : TieBreak} {c : Nat} {power : Int} {d : Decimal}

/-- A decimal that a walk ends with after some grids without a hit. -/
structure FirstHit (tie : TieBreak) (c : Nat) (power : Int) (depth : Nat) (d : Decimal) : Prop where
  /-- The decimal is the best point of the grid where the walk ends. -/
  hit : IsBestOn tie c (power - depth) d
  /-- No point of a grid before it reads back. -/
  missed : ∀ j < depth, ∀ m : Nat, ¬IsNearest c (value ⟨m, power - j⟩)

/-- A walk that may go down to a fine grid ends with the first hit. -/
theorem exists_firstHit (tie : TieBreak) (c fuel : Nat) (power : Int)
    (deep : power - fuel ≤ min 0 (unitPower c)) :
    ∃ depth, FirstHit tie c power depth (search tie c fuel power) := by
  induction fuel generalizing power with
  | zero =>
    refine ⟨0, ?_, fun j less => absurd less (Nat.not_lt_zero j)⟩
    rw [search, Int.natCast_zero, Int.sub_zero]
    exact isBestOn_floorAt tie (by omega)
  | succ finer ih =>
    rw [search]
    split
    · next found =>
      refine ⟨0, ?_, fun j less => absurd less (Nat.not_lt_zero j)⟩
      rw [Int.natCast_zero, Int.sub_zero]
      exact onGrid?_eq_some found
    · next nothing =>
      obtain ⟨depth, hit, missed⟩ := ih (power - 1) (by omega)
      have step (j : Nat) : power - 1 - j = power - (j + 1 : Nat) := by omega
      refine ⟨depth + 1, step depth ▸ hit, ?_⟩
      rintro (_ | j) less m
      · rw [Int.natCast_zero, Int.sub_zero]
        exact onGrid?_eq_none nothing m
      · rw [← step]
        exact missed j (Nat.lt_of_succ_lt_succ less) m

/-- The shortest decimal is the first hit of its walk. -/
theorem exists_firstHit_shortest (tie : TieBreak) (c : Nat) :
    ∃ depth, FirstHit tie c (leadingPower (numerator c) (denominator c)) depth (shortest tie c) :=
  exists_firstHit tie c _ _ (by omega)

/-- The shortest decimal reads back. -/
theorem nearest_shortest (tie : TieBreak) (c : Nat) : IsNearest c (shortest tie c).value := by
  obtain ⟨depth, first⟩ := exists_firstHit_shortest tie c
  exact first.hit.reads

/-- The width of a positive number tells the powers of ten around it. -/
theorem exists_width {n : Nat} (positive : 0 < n) :
    ∃ k, width n = k + 1 ∧ 10 ^ k ≤ n ∧ n < 10 ^ (k + 1) := by
  obtain ⟨k, length⟩ := Nat.exists_eq_add_of_le' (Nat.length_toDigits_pos (b := 10) (n := n))
  have fits {k : Nat} (some : 0 < k) : (Nat.toDigits 10 n).length ≤ k ↔ n < 10 ^ k :=
    Nat.length_toDigits_le_iff (by decide) some
  refine ⟨k, length, ?_, (fits (Nat.succ_pos k)).1 length.le⟩
  rcases Nat.eq_zero_or_pos k with rfl | some
  · exact positive
  · rw [← Nat.not_lt, ← fits some, length]
    exact Nat.not_succ_le_self k

/-- The walk starts at the power of the leading digit. -/
theorem leadsAt_leadingPower {num den : Nat} (some : 0 < num) (positive : 0 < den) :
    LeadsAt 10 (leadingPower num den) (num / den) := by
  rw [leadingPower]
  split
  · next whole =>
    obtain ⟨k, width, least, most⟩ := exists_width (Nat.div_pos whole positive)
    rw [width, Nat.cast_succ, add_sub_cancel_right]
    exact leadsAt_of_whole positive least most
  · next part =>
    obtain ⟨k, width, least, most⟩ := exists_width (n := (den - 1) / num)
      (Nat.div_pos (by omega) some)
    rw [width]
    exact leadsAt_of_part some (by omega) (by decide) least most

/-- A number can be written with some significant digits. -/
def HasDigits (digits : Nat) (q : ℚ) : Prop :=
  ∃ d : Decimal, d.coefficient < 10 ^ digits ∧ d.value = q

/-- The shortest decimal that reads back as a code: no other one that does has fewer digits, and of
those with as many digits no other one is preferred. -/
structure IsShortest (tie : TieBreak) (c digits : Nat) (q : ℚ) : Prop where
  /-- The decimal reads back. -/
  reads : IsNearest c q
  /-- The decimal has these digits. -/
  fits : HasDigits digits q
  /-- Nothing that reads back has fewer digits. -/
  fewest : ∀ r, IsNearest c r → ∀ fewer < digits, ¬HasDigits fewer r
  /-- Nothing that reads back with as many digits is preferred. -/
  best : ∀ r, IsNearest c r → HasDigits digits r → Closer tie (magnitude c) q r

/-- Only zero can be written without significant digits. -/
theorem hasDigits_zero_iff {q : ℚ} : HasDigits 0 q ↔ q = 0 := by
  have nothing {d : Decimal} (few : d.coefficient = 0) : d.value = 0 := by
    rw [value, few, Nat.cast_zero, zero_mul]
  constructor
  · rintro ⟨d, few, rfl⟩
    exact nothing (Nat.lt_one_iff.1 few)
  · rintro rfl
    exact ⟨⟨0, 0⟩, by decide, nothing rfl⟩

/-- Zero is not read as a positive code. -/
theorem not_hasDigits_zero {q : ℚ} (positive : 0 < c) (reads : IsNearest c q) :
    ¬HasDigits 0 q := by
  rw [hasDigits_zero_iff]
  rintro rfl
  have zero := Binary64.isNearest_magnitude 0
  rw [Binary64.magnitude_zero] at zero
  exact positive.ne' (reads.unique zero)

/-- The shortest decimal of zero is zero. -/
theorem isShortest_zero (tie : TieBreak) : IsShortest tie 0 0 0 where
  reads := by
    rw [← Binary64.magnitude_zero]
    exact Binary64.isNearest_magnitude 0
  fits := hasDigits_zero_iff.2 rfl
  fewest _ _ fewer less := absurd less (Nat.not_lt_zero fewer)
  best := by
    intro r _ fits
    rw [hasDigits_zero_iff.1 fits]
    exact .inr ⟨rfl, fun _ => le_rfl⟩

/-- A tie that goes up leaves one shortest decimal. -/
theorem IsShortest.unique {digits digits' : Nat} {q q' : ℚ} (short : IsShortest .up c digits q)
    (short' : IsShortest .up c digits' q') : q = q' := by
  have same : digits = digits' := by
    rcases Nat.lt_trichotomy digits digits' with less | equal | greater
    · exact absurd short.fits (short'.fewest q short.reads digits less)
    · exact equal
    · exact absurd short'.fits (short.fewest q' short'.reads digits' greater)
  subst same
  rcases short.best q' short'.reads short'.fits with nearer | ⟨equal, below⟩ <;>
    rcases short'.best q short.reads short.fits with nearer' | ⟨equal', below'⟩
  · exact absurd nearer nearer'.not_gt
  · exact absurd nearer equal'.not_gt
  · exact absurd nearer' equal.not_gt
  · exact le_antisymm (below' rfl) (below rfl)

/-- A number with few digits lies on the grid that its leading digit and their count tell. -/
theorem HasDigits.exists_point {digits k : Nat} {r : ℚ} (fits : HasDigits digits r)
    (few : digits ≤ k + 1) {lead : Int} (large : 10 ^ lead ≤ r) :
    ∃ m : Nat, r = value ⟨m, lead - k⟩ := by
  obtain ⟨⟨m, power⟩, less, rfl⟩ := fits
  have ten : (1 : ℚ) < 10 := by norm_num
  have room : (10 : ℚ) ^ lead < 10 ^ (digits + power) := by
    calc (10 : ℚ) ^ lead
        ≤ m * 10 ^ power := large
      _ < (10 ^ digits : ℕ) * 10 ^ power :=
        mul_lt_mul_of_pos_right (Nat.cast_lt.2 less) (zpow_pos (by norm_num) _)
      _ = 10 ^ (digits + power) := by
        rw [zpow_add₀ (by norm_num), zpow_natCast]
        push_cast
        rfl
  have exponents : lead < digits + power := (zpow_lt_zpow_iff_right₀ ten).1 room
  refine ⟨m * 10 ^ (power - (lead - k)).toNat, ?_⟩
  rw [value_mul_pow, Int.toNat_of_nonneg (by omega), add_sub_cancel]

variable {depth : Nat} {lead : Int}

/-- A first hit has at most one digit more than there were grids before it. -/
theorem FirstHit.fits (first : FirstHit tie c lead depth d)
    (leads : LeadsAt 10 lead (magnitude c)) : HasDigits (depth + 1) d.value := by
  have unit : (0 : ℚ) < 10 ^ (lead - depth) := zpow_pos (by norm_num) _
  have below : floorAt c (lead - depth) < 10 ^ (depth + 1) := by
    have less : (floorAt c (lead - depth) : ℚ) * 10 ^ (lead - depth) <
        (10 ^ (depth + 1) : ℕ) * 10 ^ (lead - depth) := by
      calc (floorAt c (lead - depth) : ℚ) * 10 ^ (lead - depth)
          ≤ magnitude c := (floorAt_bounds c (lead - depth)).1
        _ < 10 ^ (lead + 1) := leads.2
        _ = (10 ^ (depth + 1) : ℕ) * 10 ^ (lead - depth) := by
          rw [Nat.cast_pow, Nat.cast_ofNat, ← zpow_natCast, ← zpow_add₀ (by norm_num)]
          congr 1
          omega
    exact_mod_cast lt_of_mul_lt_mul_right less unit.le
  rcases (first.hit.adjacent.trans below).lt_or_eq with less | full
  · exact ⟨d, less, rfl⟩
  · -- The upper neighbour may be the next power of ten, which lies on the first grid.
    obtain ⟨coefficient, power⟩ := d
    obtain rfl : coefficient = 10 ^ (depth + 1) := full
    obtain rfl : power = lead - depth := first.hit.placed
    have whole : value ⟨10 ^ (depth + 1), lead - depth⟩ = value ⟨10, lead - (0 : ℕ)⟩ := by
      rw [pow_succ', value_mul_pow, sub_add_cancel, Int.natCast_zero, Int.sub_zero]
    rcases Nat.eq_zero_or_pos depth with rfl | some
    · refine ⟨⟨1, lead - (0 : ℕ) + (1 : ℕ)⟩, Nat.one_lt_pow (by decide) (by decide), ?_⟩
      rw [← value_mul_pow, whole, Nat.one_mul, Nat.pow_one]
    · exact absurd (whole ▸ first.hit.reads) (first.missed 0 some 10)

/-- If something below the leading power of ten reads back, then this power does, too, and is
nearer. -/
theorem leading_reads {r : ℚ} (leads : LeadsAt 10 lead (magnitude c)) (reads : IsNearest c r)
    (small : r < 10 ^ lead) :
    IsNearest c (value ⟨1, lead⟩) ∧ |magnitude c - value ⟨1, lead⟩| < |magnitude c - r| := by
  have one : value ⟨1, lead⟩ = 10 ^ lead := by
    rw [value, Nat.cast_one, one_mul]
  have least : (10 : ℚ) ^ lead ≤ magnitude c := leads.1
  rw [one, abs_of_nonneg (by linarith : 0 ≤ magnitude c - 10 ^ lead),
    abs_of_nonneg (by linarith : 0 ≤ magnitude c - r)]
  exact ⟨reads.between (Binary64.isNearest_magnitude c) small.le least, by linarith⟩

/-- The first hit of a walk from the leading digit is the shortest decimal. -/
theorem FirstHit.isShortest (first : FirstHit tie c lead depth d)
    (leads : LeadsAt 10 lead (magnitude c)) (positive : 0 < c) :
    IsShortest tie c (depth + 1) d.value where
  reads := first.hit.reads
  fits := first.fits leads
  fewest := by
    intro r reads fewer less fits
    obtain ⟨fewer, rfl⟩ : ∃ k, fewer = k + 1 := by
      apply Nat.exists_eq_succ_of_ne_zero
      rintro rfl
      exact not_hasDigits_zero positive reads fits
    rcases lt_or_ge r (10 ^ lead) with small | large
    · have power := (leading_reads leads reads small).1
      exact first.missed 0 (by omega) 1 (by rwa [Int.natCast_zero, Int.sub_zero])
    · obtain ⟨m, rfl⟩ := fits.exists_point le_rfl large
      exact first.missed fewer (by omega) m reads
  best := by
    intro r reads fits
    rcases lt_or_ge r (10 ^ lead) with small | large
    · obtain ⟨power, nearer⟩ := leading_reads leads reads small
      obtain rfl : depth = 0 := by
        by_contra some
        exact first.missed 0 (Nat.pos_of_ne_zero some) 1 (by rwa [Int.natCast_zero, Int.sub_zero])
      have best := first.hit.best 1
      rw [Int.natCast_zero, Int.sub_zero] at best
      rcases best power with less | ⟨equal, -⟩
      · exact .inl (less.trans nearer)
      · exact .inl (equal.trans_lt nearer)
    · obtain ⟨m, rfl⟩ := fits.exists_point le_rfl large
      exact first.hit.best m reads

/-- The walk finds the shortest decimal. -/
theorem isShortest_shortest (tie : TieBreak) (positive : 0 < c) :
    ∃ digits, IsShortest tie c digits (shortest tie c).value := by
  obtain ⟨depth, first⟩ := exists_firstHit_shortest tie c
  refine ⟨depth + 1, first.isShortest ?_ positive⟩
  rw [← Binary64.numerator_div_denominator]
  exact leadsAt_leadingPower (Binary64.numerator_pos positive) (Binary64.denominator_pos c)

/-- The shortest decimal of a positive number has a coefficient. -/
theorem coefficient_shortest_pos (tie : TieBreak) (positive : 0 < c) :
    0 < (shortest tie c).coefficient := by
  apply Nat.pos_of_ne_zero
  intro nothing
  exact not_hasDigits_zero positive (nearest_shortest tie c)
    ⟨_, Nat.lt_one_iff.2 nothing, rfl⟩

end Decimal

end ChartScript
