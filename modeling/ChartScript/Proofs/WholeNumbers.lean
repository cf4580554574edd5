import ChartScript.Proofs.Nearest
import ChartScript.Proofs.Recording
import Mathlib.Data.Rat.Floor

/-!
# Positive whole numbers

A size is given as an integer or as a float without a fraction. Every integer that fits 64 bits is
taken as it is. Floats are taken below 2^53 only, as from there on not every integer is a float; a
larger one is of the wrong type, however whole it is. What is taken and is not positive is refused
for that, the negative zero included. All numbers are compared by their exact rational values, so a
number that is accepted is neither rounded nor cut.
-/

namespace ChartScript

namespace Binary64

/-- The rational number that a number is, exactly; both zeros are zero. -/
def exact (x : Binary64) : ℚ := if x.negative then -magnitude x.code else magnitude x.code

/-- No code stands for a negative value. -/
theorem magnitude_nonneg (code : ℕ) : 0 ≤ magnitude code :=
  mul_nonneg (Nat.cast_nonneg _) (zpow_nonneg (by norm_num) _)

/-- The size of a number is the value of its code. -/
theorem abs_exact (x : Binary64) : |x.exact| = magnitude x.code := by
  have size := abs_of_nonneg (magnitude_nonneg x.code)
  unfold exact
  split
  · rw [abs_neg, size]
  · exact size

/-- A code stands for a whole number exactly when its numerator is so many denominators. -/
theorem magnitude_eq_natCast_iff {code k : ℕ} :
    magnitude code = k ↔ numerator code = k * denominator code := by
  have bottom : (denominator code : ℚ) ≠ 0 := Nat.cast_ne_zero.2 (denominator_pos code).ne'
  rw [← numerator_div_denominator, div_eq_iff bottom]
  exact_mod_cast Iff.rfl

/-- The integer that is found is the one that the number equals. -/
theorem toInt?_eq_some_iff {x : Binary64} {n : ℤ} : x.toInt? = some n ↔ x.exact = n := by
  have positive := denominator_pos x.code
  unfold toInt?
  constructor
  · intro found
    split at found
    · next whole =>
      have parts := (Nat.div_mul_cancel (Nat.dvd_of_mod_eq_zero whole)).symm
      have size := magnitude_eq_natCast_iff.2 parts
      cases found
      unfold exact
      rw [size]
      split
      · push_cast
        rfl
      · rfl
    · cases found
  · intro same
    have size : magnitude x.code = n.natAbs := by
      rw [← abs_exact, same, Nat.cast_natAbs, Int.cast_abs]
    have parts := magnitude_eq_natCast_iff.1 size
    have count : numerator x.code / denominator x.code = n.natAbs := by
      rw [parts, Nat.mul_div_cancel _ positive]
    rw [if_pos (by rw [parts, Nat.mul_mod_left]), count]
    dsimp only
    unfold exact at same
    rw [size] at same
    congr 1
    split at same
    · next negative =>
      rw [if_pos negative]
      exact Int.cast_injective (α := ℚ) (by rw [← same, Int.cast_neg, Int.cast_natCast])
    · next negative =>
      rw [if_neg negative]
      exact Int.cast_injective (α := ℚ) (by rw [← same, Int.cast_natCast])

/-- A number equals an integer exactly when it has no fraction. -/
theorem exists_exact_eq_iff {x : Binary64} : (∃ n : ℤ, x.exact = n) ↔ Int.fract x.exact = 0 := by
  rw [Int.fract_eq_zero_iff, Set.mem_range]
  exact exists_congr fun n => eq_comm

end Binary64

namespace Json

/-- A value counts as a positive whole number. -/
inductive CountsAs : Json → ℕ → Prop where
  /-- An integer from one up. -/
  | integer {n : ℕ} (fits : -0x8000000000000000 ≤ (n : ℤ) ∧ (n : ℤ) ≤ 0xFFFFFFFFFFFFFFFF)
      (positive : 1 ≤ n) : CountsAs (.number (.integer n fits)) n
  /-- A float without a fraction that is positive and below the limit. -/
  | float {x : Binary64} {n : ℕ} (whole : Int.fract x.exact = 0) (positive : 0 < x.exact)
      (below : x.exact < 2 ^ 53) (same : x.exact = n) : CountsAs (.number (.float x)) n

/-- A value is a whole number that is not positive. -/
inductive IsNotPositive : Json → Prop where
  /-- Zero or a negative integer. -/
  | integer {n : ℤ} (fits : -0x8000000000000000 ≤ n ∧ n ≤ 0xFFFFFFFFFFFFFFFF)
      (least : n ≤ 0) : IsNotPositive (.number (.integer n fits))
  /-- A float without a fraction that is not positive and above the negative limit. -/
  | float {x : Binary64} (whole : Int.fract x.exact = 0) (above : -(2 ^ 53) < x.exact)
      (least : x.exact ≤ 0) : IsNotPositive (.number (.float x))

end Json

namespace Schema

variable {value : Json} {x : Binary64} {n : ℕ} {k : ℤ}

/-- A float is taken for the integer that it equals, below the limit. -/
theorem filter_toInt?_eq_some_iff :
    (x.toInt?.filter fun k => k.natAbs < wholeFloatLimit) = some k ↔
      x.exact = k ∧ -(2 ^ 53) < x.exact ∧ x.exact < 2 ^ 53 := by
  have limit : k.natAbs < wholeFloatLimit ↔ -(2 ^ 53) < k ∧ k < 2 ^ 53 := by
    unfold wholeFloatLimit
    omega
  rw [Option.filter_eq_some_iff, Binary64.toInt?_eq_some_iff, decide_eq_true_iff, limit]
  apply and_congr_right
  intro same
  rw [same]
  exact_mod_cast Iff.rfl

/-- An integer is taken as it is. -/
theorem readPositive_integer (fits : -0x8000000000000000 ≤ k ∧ k ≤ 0xFFFFFFFFFFFFFFFF) :
    readPositive (.number (.integer k fits)) =
      if k ≤ 0 then .error .notPositive else .ok k.toNat := rfl

/-- A float below the limit is taken for the integer that it equals. -/
theorem readPositive_whole (same : x.exact = k) (above : -(2 ^ 53) < x.exact)
    (below : x.exact < 2 ^ 53) :
    readPositive (.number (.float x)) = if k ≤ 0 then .error .notPositive else .ok k.toNat := by
  have taken := filter_toInt?_eq_some_iff.2 ⟨same, above, below⟩
  unfold readPositive
  dsimp only
  rw [taken]

/-- Any other float is of the wrong type. -/
theorem readPositive_other
    (other : ¬ (Int.fract x.exact = 0 ∧ -(2 ^ 53) < x.exact ∧ x.exact < 2 ^ 53)) :
    readPositive (.number (.float x)) = .error (wrongType (.number (.float x)) .size) := by
  have untaken : (x.toInt?.filter fun k => k.natAbs < wholeFloatLimit) = none := by
    rw [Option.eq_none_iff_forall_ne_some]
    intro k taken
    have bounds := filter_toInt?_eq_some_iff.1 taken
    exact other ⟨Binary64.exists_exact_eq_iff.1 ⟨k, bounds.1⟩, bounds.2⟩
  unfold readPositive
  dsimp only
  rw [untaken]

/-- A value is read as the positive whole number that it counts as. -/
theorem readPositive_of_countsAs (counts : value.CountsAs n) : readPositive value = .ok n := by
  cases counts with
  | integer fits positive =>
    rw [readPositive_integer, if_neg (by omega), Int.toNat_natCast]
  | @float x _ whole positive below same =>
    have above : -(2 ^ 53) < x.exact := (by norm_num : -(2 ^ 53) < (0 : ℚ)).trans positive
    have some : 0 < n := by
      rw [same] at positive
      exact_mod_cast positive
    rw [readPositive_whole (k := n) (by rw [same, Int.cast_natCast]) above below,
      if_neg (by omega), Int.toNat_natCast]

/-- A whole number that is not positive is refused for that. -/
theorem readPositive_of_isNotPositive (least : value.IsNotPositive) :
    readPositive value = .error .notPositive := by
  cases least with
  | integer fits least => rw [readPositive_integer, if_pos least]
  | @float x whole above least =>
    obtain ⟨k, same⟩ := Binary64.exists_exact_eq_iff.2 whole
    have below : x.exact < 2 ^ 53 := least.trans_lt (by norm_num)
    have least' : k ≤ 0 := by
      rw [same] at least
      exact_mod_cast least
    rw [readPositive_whole same above below, if_pos least']

/-- Every value counts as a positive whole number, is a whole number that is not positive, or is
refused as of the wrong type. -/
theorem readPositive_trichotomy (value : Json) :
    (∃ n, value.CountsAs n) ∨ value.IsNotPositive ∨
      readPositive value = .error (wrongType value .size) := by
  cases value with
  | number number =>
    cases number with
    | integer k fits =>
      rcases lt_or_ge 0 k with positive | least
      · obtain ⟨n, rfl⟩ := Int.eq_ofNat_of_zero_le positive.le
        exact .inl ⟨n, .integer fits (by omega)⟩
      · exact .inr (.inl (.integer fits least))
    | float x =>
      by_cases taken : Int.fract x.exact = 0 ∧ -(2 ^ 53) < x.exact ∧ x.exact < 2 ^ 53
      · obtain ⟨whole, above, below⟩ := taken
        obtain ⟨k, same⟩ := Binary64.exists_exact_eq_iff.2 whole
        rcases lt_or_ge 0 x.exact with positive | least
        · have positive' : 0 < k := by
            rw [same] at positive
            exact_mod_cast positive
          obtain ⟨n, rfl⟩ := Int.eq_ofNat_of_zero_le positive'.le
          exact .inl ⟨n, .float whole positive below (by rw [same, Int.cast_natCast])⟩
        · exact .inr (.inl (.float whole above least))
      · exact .inr (.inr (readPositive_other taken))
  | _ => exact .inr (.inr rfl)

/-- No message about a wrong type says that a number is not positive. -/
theorem message_wrongType_ne (value : Json) (expected : Expected) :
    (wrongType value expected).message ≠ "Input should be greater than 0" := by
  have starts : (wrongType value expected).message.toList.head? = some 'i' := by
    unfold wrongType Problem.message
    simp
  intro same
  rw [same] at starts
  exact absurd starts (by decide)

/-- A value of the wrong type is said to be what it is, in place of a size. -/
theorem message_wrongType_size (value : Json) :
    (wrongType value .size).message =
      "invalid type: " ++ (Finding.ofJson value).message ++ ", expected usize" := by
  have ending : ", expected " ++ Expected.size.message = ", expected usize" := by decide
  calc (wrongType value .size).message
      = "invalid type: " ++ (Finding.ofJson value).message ++ ", expected " ++
          Expected.size.message := rfl
    _ = "invalid type: " ++ (Finding.ofJson value).message ++
          (", expected " ++ Expected.size.message) := String.append_assoc
    _ = "invalid type: " ++ (Finding.ofJson value).message ++ ", expected usize" := by rw [ending]

/-- A check of a value that is read adds nothing. -/
theorem run_leaf_of_ok {α : Type} {read : Json → Except Problem α} {found : α}
    (accepted : read value = .ok found) (place : Location) (held : List Failure) :
    (leaf read).run place value held = (some found, held) := by
  rw [run, accepted]
  rfl

/-- A check of a value that is refused adds the one problem at the place of the value. -/
theorem run_leaf_of_error {α : Type} {read : Json → Except Problem α} {problem : Problem}
    (refused : read value = .error problem) (place : Location) (held : List Failure) :
    (leaf read).run place value held = (none, held ++ [⟨place, problem⟩]) := by
  rw [run, refused]
  rfl

/-- A check of a positive whole number has the number as its result exactly when the value counts as
it: an integer from one to the largest of 64 bits, or a float without a fraction between zero and
2^53, and nothing is added then. Otherwise there is no result, and one failure is added at the place
of the value. It says that the number is not positive exactly when the value is zero, a negative
integer or a float without a fraction from above -2^53 to zero, and otherwise what the value is in
place of a size. -/
theorem positive_exact (value : Json) (place : Location) (held : List Failure) :
    (∀ n, (positive.run place value held).1 = some n ↔ value.CountsAs n) ∧
      (∀ n, value.CountsAs n → n < 2 ^ 64 ∧ positive.run place value held = (some n, held)) ∧
      ((∀ n, ¬ value.CountsAs n) → ∃ problem,
        positive.run place value held = (none, held ++ [⟨place, problem⟩]) ∧
          problem.kind = .shape ∧
          (problem.message = "Input should be greater than 0" ↔ value.IsNotPositive) ∧
          (¬ value.IsNotPositive → problem.message =
            "invalid type: " ++ (Finding.ofJson value).message ++ ", expected usize")) := by
  have accepted : ∀ n, value.CountsAs n →
      positive.run place value held = (some n, held) := fun n counts =>
    run_leaf_of_ok (readPositive_of_countsAs counts) place held
  have fits : ∀ n, value.CountsAs n → n < 2 ^ 64 := by
    intro n counts
    cases counts with
    | integer fits positive => omega
    | @float x _ whole positive below same =>
      have small : n < 2 ^ 53 := by
        rw [same] at below
        exact_mod_cast below
      omega
  refine ⟨?_, fun n counts => ⟨fits n counts, accepted n counts⟩, ?_⟩
  · intro n
    constructor
    · intro found
      rcases readPositive_trichotomy value with ⟨m, counts⟩ | least | wrong
      · rw [accepted m counts] at found
        cases found
        exact counts
      · rw [positive, run_leaf_of_error (readPositive_of_isNotPositive least)] at found
        cases found
      · rw [positive, run_leaf_of_error wrong] at found
        cases found
    · intro counts
      rw [accepted n counts]
  · intro none
    rcases readPositive_trichotomy value with ⟨n, counts⟩ | least | wrong
    · exact absurd counts (none n)
    · have refused := run_leaf_of_error (readPositive_of_isNotPositive least) place held
      exact ⟨.notPositive, refused, rfl, ⟨fun _ => least, fun _ => rfl⟩, fun other =>
        absurd least other⟩
    · have refused := run_leaf_of_error wrong place held
      have other : ¬ value.IsNotPositive := by
        intro least
        rw [readPositive_of_isNotPositive least] at wrong
        cases wrong
      exact ⟨wrongType value .size, refused, rfl,
        ⟨fun said => absurd said (message_wrongType_ne value .size), fun least =>
          absurd least other⟩, fun _ => message_wrongType_size value⟩

-- The largest whole float below the limit is taken, and the limit itself is no size.
example : readPositive (.number (.float ⟨false, 1076 * Binary64.fractions - 1, by decide⟩)) =
    .ok 0x1fffffffffffff := rfl

example : readPositive (.number (.float ⟨false, 1076 * Binary64.fractions, by decide⟩)) =
    .error (wrongType (.number (.float ⟨false, 1076 * Binary64.fractions, by decide⟩)) .size) := rfl

end Schema

end ChartScript
