import ChartScript.Proofs.ReadBack

/-!
# The figures of a number

Figures that read back as a positive code cannot be missing, so every number has figures. All of
them are digits, and the first one is a zero for the number zero only.
-/

namespace ChartScript

/-- The numeral of a positive number starts with no zero. -/
theorem head?_toDigits_ne {n : Nat} (positive : 0 < n) : (Nat.toDigits 10 n).head? ≠ some '0' := by
  induction n using Nat.strongRecOn with
  | ind n ih =>
    rcases Nat.lt_or_ge n 10 with small | large
    · have figure : ∀ d < 10, 0 < d → [Nat.digitChar d].head? ≠ some '0' := by decide
      rw [Nat.toDigits_of_lt_base small]
      exact figure n small positive
    · rw [Nat.toDigits_of_base_le (by decide) large, List.head?_append]
      have shorter : n / 10 < n := Nat.div_lt_self positive (by decide)
      have filled : (Nat.toDigits 10 (n / 10)).head?.isSome = true :=
        List.isSome_head?.2 (Nat.toDigits_ne_nil)
      rw [Option.or_of_isSome filled]
      exact ih _ shorter (Nat.div_pos large (by decide))

namespace Digits

/-- The figures of a positive decimal start with no zero. -/
theorem head?_ofDecimal_ne {d : Decimal} (positive : 0 < d.coefficient) :
    (ofDecimal d).figures.head? ≠ some '0' := by
  intro first
  obtain ⟨others, figures⟩ := List.head?_eq_some_iff.1 first
  obtain ⟨zeros, whole⟩ := dropTrailingZeros_append (Nat.toDigits 10 d.coefficient)
  apply head?_toDigits_ne positive
  rw [← whole, show dropTrailingZeros _ = _ from figures]
  rfl

/-- Digits as every number has them. -/
structure IsNumeral (digits : Digits) : Prop where
  /-- The figures are digits. -/
  allDigits : ∀ c ∈ digits.figures, c.isDigit = true
  /-- There are figures. -/
  filled : digits.figures ≠ []
  /-- A zero comes first in the digits of zero only. -/
  zero : digits.figures.head? = some '0' → digits = ⟨['0'], 0⟩

/-- The digits of a positive decimal are those of a number. -/
theorem isNumeral_ofDecimal {d : Decimal} (positive : 0 < d.coefficient) :
    (ofDecimal d).IsNumeral where
  allDigits := by
    intro c member
    have inside := (List.dropWhile_sublist _).mem (List.mem_reverse.1 member)
    exact Nat.isDigit_of_mem_toDigits (by decide) (by decide) (List.mem_reverse.1 inside)
  filled := by
    intro empty
    obtain ⟨zeros, whole⟩ := dropTrailingZeros_append (Nat.toDigits 10 d.coefficient)
    rw [show dropTrailingZeros _ = [] from empty, List.nil_append] at whole
    have nothing := Nat.ofDigitChars_ten_toDigits (n := d.coefficient)
    rw [← whole, Nat.ofDigitChars_replicate_zero, Nat.mul_zero] at nothing
    omega
  zero first := absurd first (head?_ofDecimal_ne positive)

/-- Every number has digits. -/
theorem isNumeral_ofBinary64 (tie : TieBreak) (x : Binary64) : (ofBinary64 tie x).IsNumeral := by
  rw [ofBinary64]
  split
  · exact ⟨List.forall_mem_singleton.2 rfl, List.cons_ne_nil _ _, fun _ => rfl⟩
  · next nonzero =>
    apply isNumeral_ofDecimal
    exact Decimal.coefficient_shortest_pos tie (Nat.pos_of_ne_zero (mt beq_iff_eq.2 nonzero))

end Digits

/-- A padded decimal numeral has one value. -/
theorem Text.ofDigitChars_padded (width n : Nat) :
    Nat.ofDigitChars 10 (padded 10 width n) 0 = n := by
  rw [padded, Nat.ofDigitChars_append, Nat.ofDigitChars_replicate_zero, Nat.mul_zero,
    Nat.ofDigitChars_ten_toDigits]

/-- A padded decimal numeral holds digits only. -/
theorem Text.isDigit_of_mem_padded {width n : Nat} {c : Char} (member : c ∈ padded 10 width n) :
    c.isDigit = true := by
  rcases List.mem_append.1 member with zero | figure
  · rw [List.eq_of_mem_replicate zero]
    rfl
  · exact Nat.isDigit_of_mem_toDigits (by decide) (by decide) figure

end ChartScript
