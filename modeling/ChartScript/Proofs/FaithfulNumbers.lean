import ChartScript.Proofs.PlainScript
import Mathlib.Data.Int.Log
import Mathlib.Data.Rat.Floor

/-!
# Faithful numbers

A number is written as a literal whose value is the shortest decimal of the number, and with an
exponent exactly when the leading digit stands outside of a range. The literal may round over a
power of ten, but not over a bound of the range, as both bounds are short and do not round down; so
it does not matter whether the number or its literal is asked for the leading digit. The numbers of
a series are told apart again by what stands between them, and the data part of a script is one
line for each series.
-/

namespace ChartScript

open Binary64 (magnitude numerator denominator IsNearest)

/-- The power of the first digit is the whole part of the logarithm. -/
theorem LeadsAt.log_eq {base : ℕ} {power : ℤ} {q : ℚ} (leads : LeadsAt base power q)
    (based : 1 < base) : Int.log base q = power := by
  have positive : 0 < q :=
    (zpow_pos (Nat.cast_pos.2 (Nat.zero_lt_of_lt based)) power).trans_le leads.1
  apply le_antisymm
  · exact Int.lt_add_one_iff.1 ((Int.lt_zpow_iff_log_lt based positive).1 leads.2)
  · exact (Int.zpow_le_iff_le_log based positive).1 leads.1

namespace Decimal

variable {tie : TieBreak} {c digits : Nat} {q : ℚ}

/-- The shortest decimal of a number lies on the same side of a bound as the number, if the bound
has one digit and is not rounded down. -/
theorem IsShortest.lt_iff_lt (short : IsShortest tie c digits q) (positive : 0 < c) {bound : ℚ}
    {n : Nat} (reads : IsNearest n bound) (least : bound ≤ magnitude n) (one : HasDigits 1 bound) :
    q < bound ↔ magnitude c < bound := by
  constructor
  · intro below
    by_contra above
    rw [not_lt] at above
    have inside : IsNearest c bound :=
      short.reads.between (Binary64.isNearest_magnitude c) below.le above
    have nearer : |magnitude c - bound| < |magnitude c - q| := by
      rw [abs_of_nonneg (by linarith : 0 ≤ magnitude c - bound),
        abs_of_nonneg (by linarith : 0 ≤ magnitude c - q)]
      linarith
    have some : digits ≠ 0 := by
      rintro rfl
      exact not_hasDigits_zero positive short.reads short.fits
    rcases Nat.lt_or_ge 1 digits with more | few
    · exact short.fewest bound inside 1 more one
    · obtain rfl : digits = 1 := by omega
      rcases short.best bound inside one with less | ⟨equal, -⟩
      · exact less.not_gt nearer
      · exact equal.not_gt nearer
  · intro below
    by_contra above
    rw [not_lt] at above
    have inside : IsNearest c bound :=
      (Binary64.isNearest_magnitude c).between short.reads below.le above
    rw [inside.unique reads] at below
    exact below.not_ge least

/-- Decimals and codes are compared as quotients. -/
theorem value_le_magnitude_iff {d : Decimal} :
    d.value ≤ magnitude c ↔ d.top * denominator c ≤ numerator c * d.bottom := by
  rw [← top_div_bottom, ← Binary64.numerator_div_denominator,
    div_le_div_iff₀ (Nat.cast_pos.2 d.bottom_pos) (Nat.cast_pos.2 (Binary64.denominator_pos c))]
  exact_mod_cast Iff.rfl

/-- The shortest decimal of a positive number is positive. -/
theorem IsShortest.pos (short : IsShortest tie c digits q) (positive : 0 < c) : 0 < q := by
  obtain ⟨d, -, rfl⟩ := short.fits
  apply lt_of_le_of_ne
  · exact mul_nonneg (Nat.cast_nonneg _) (zpow_nonneg (by norm_num) _)
  · intro zero
    exact not_hasDigits_zero positive short.reads (hasDigits_zero_iff.2 zero.symm)

/-- The leading digit of the shortest decimal stands below a power of ten that is not rounded down
exactly when the leading digit of the number does. -/
theorem IsShortest.log_lt_iff (short : IsShortest tie c digits q) (positive : 0 < c) {power : ℤ}
    (least : value ⟨1, power⟩ ≤ magnitude (code ⟨1, power⟩)) :
    Int.log 10 q < power ↔ Int.log 10 (magnitude c) < power := by
  have bound : value ⟨1, power⟩ = (10 : ℕ) ^ power := by
    rw [value, Nat.cast_one, one_mul, Nat.cast_ofNat]
  have sides := short.lt_iff_lt positive (code_eq_iff.1 rfl) least
    ⟨_, Nat.one_lt_pow one_ne_zero (by decide), rfl⟩
  have above : 0 < magnitude c := by
    rw [← Binary64.magnitude_zero]
    exact Binary64.strictMono_magnitude positive
  rwa [bound, Int.lt_zpow_iff_log_lt (by decide) (short.pos positive),
    Int.lt_zpow_iff_log_lt (by decide) above] at sides

/-- The least power that is written without an exponent is not rounded down. -/
theorem least_positional : value ⟨1, -4⟩ ≤ magnitude (code ⟨1, -4⟩) :=
  value_le_magnitude_iff.2 (by decide)

/-- The first power above those that are written without an exponent is not rounded down. -/
theorem first_scientific : value ⟨1, 16⟩ ≤ magnitude (code ⟨1, 16⟩) :=
  value_le_magnitude_iff.2 (by decide)

end Decimal

namespace Text

/-- The form of a number: an optional minus sign, a zero or figures that start with none, optionally
figures behind a point, and optionally an exponent with its sign and at least two figures. -/
def IsNumber (text : List Char) : Prop :=
  ∃ sign whole fraction exponent, text = sign ++ whole ++ fraction ++ exponent ∧
    (sign = [] ∨ sign = ['-']) ∧
    (whole = ['0'] ∨ ∃ first others, whole = first :: others ∧ first ≠ '0' ∧
      ∀ c ∈ first :: others, c.isDigit = true) ∧
    (fraction = [] ∨ ∃ figures, fraction = '.' :: figures ∧ figures ≠ [] ∧
      ∀ c ∈ figures, c.isDigit = true) ∧
    (exponent = [] ∨ ∃ mark figures, exponent = 'e' :: mark :: figures ∧ mark ∈ ['+', '-'] ∧
      2 ≤ figures.length ∧ ∀ c ∈ figures, c.isDigit = true)

/-- The items of a text that are separated by a comma and a space. -/
def items : List Char → List (List Char)
  | [] => [[]]
  | ',' :: ' ' :: rest => [] :: items rest
  | c :: rest =>
    match items rest with
    | [] => [[c]]
    | first :: others => (c :: first) :: others

/-- A character that is no comma belongs to the first item. -/
theorem items_cons {c : Char} (clear : c ≠ ',') {rest first : List Char}
    {others : List (List Char)} (split : items rest = first :: others) :
    items (c :: rest) = (c :: first) :: others := by
  rw [items, split]
  rintro _ rfl -
  exact clear rfl

/-- A text without a comma is one item, also in front of others. -/
theorem items_append {item : List Char} (clear : ',' ∉ item) :
    items item = [item] ∧ ∀ rest, items (item ++ ',' :: ' ' :: rest) = item :: items rest := by
  induction item with
  | nil => exact ⟨rfl, fun rest => by rw [List.nil_append, items]⟩
  | cons c item ih =>
    rw [List.mem_cons, not_or] at clear
    obtain ⟨alone, ahead⟩ := ih clear.2
    exact ⟨items_cons (Ne.symm clear.1) alone, fun rest => items_cons (Ne.symm clear.1) (ahead rest)⟩

/-- Texts without commas are told apart by what stands between them. -/
theorem items_intercalate {texts : List String} (filled : texts ≠ [])
    (clear : ∀ text ∈ texts, ',' ∉ text.toList) :
    items (", ".intercalate texts).toList = texts.map String.toList := by
  induction texts with
  | nil => exact absurd rfl filled
  | cons text texts ih =>
    obtain ⟨alone, ahead⟩ := items_append (clear text List.mem_cons_self)
    cases texts with
    | nil => rw [String.intercalate_singleton, alone, List.map_singleton]
    | cons next others =>
      have rest := ih (List.cons_ne_nil _ _) fun text member =>
        clear text (List.mem_cons_of_mem _ member)
      rw [String.intercalate_cons_cons, String.toList_append, String.toList_append,
        List.append_assoc, List.map_cons, ← rest]
      exact ahead _

end Text

/-- A literal has the form of a number. -/
theorem NumberLiteral.isNumber (literal : NumberLiteral) : Text.IsNumber literal.text := by
  obtain ⟨negative, ⟨whole, fraction, exponent, digits, filled, plain⟩, finite⟩ := literal
  refine ⟨if negative then ['-'] else [], whole, DecimalLiteral.fractionText fraction,
    DecimalLiteral.exponentText exponent, ?_, ?_, ?_, ?_, ?_⟩
  · rw [text, DecimalLiteral.text]
    cases negative <;> simp
  · cases negative
    · exact .inl rfl
    · exact .inr rfl
  · obtain ⟨first, others, rfl⟩ := List.exists_cons_of_ne_nil filled
    by_cases zero : first = '0'
    · exact .inl (plain (congrArg some zero))
    · exact .inr ⟨first, others, rfl, zero, fun c member =>
        digits c (List.mem_append_left _ member)⟩
  · by_cases nothing : fraction = []
    · exact .inl (by rw [nothing]; rfl)
    · exact .inr ⟨fraction, DecimalLiteral.fractionText_of_ne_nil nothing, nothing, fun c member =>
        digits c (List.mem_append_right _ member)⟩
  · cases exponent with
    | none => exact .inl rfl
    | some power =>
      refine .inr ⟨_, _, rfl, ?_, ?_, fun c member => Text.isDigit_of_mem_padded member⟩
      · split <;> decide
      · rw [Text.length_padded]
        exact Nat.le_max_left _ _

namespace NumberLiteral

/-- Only the sign of a literal is a minus sign in front. -/
theorem head?_text_iff (literal : NumberLiteral) :
    literal.text.head? = some '-' ↔ literal.negative = true := by
  rw [text]
  split
  · next negative => exact iff_of_true rfl negative
  · next positive => exact iff_of_false literal.magnitude.head?_text_ne positive

/-- A literal writes a number faithfully. -/
structure IsFaithful (literal : NumberLiteral) (x : Binary64) : Prop where
  /-- The literal starts with a minus sign exactly when the sign bit of the number is set. -/
  sign : literal.text.head? = some '-' ↔ x.negative = true
  /-- The literal is rounded to the number. -/
  reads : literal.number = x
  /-- The literal is a shortest decimal of the number; of two, the greater one. -/
  shortest : ∃ digits, Decimal.IsShortest .up x.code digits literal.magnitude.decimal.value
  /-- There is no other shortest decimal. -/
  only : ∀ digits q, Decimal.IsShortest .up x.code digits q →
    q = literal.magnitude.decimal.value
  /-- There is an exponent exactly when the number is not zero and its leading digit stands outside
  of the powers from -4 to 15. -/
  exponent : literal.magnitude.exponent.isSome = true ↔
    x.code ≠ 0 ∧ (Int.log 10 (Binary64.magnitude x.code) < -4 ∨
      16 ≤ Int.log 10 (Binary64.magnitude x.code))
  /-- The exponent is the power of the leading digit of the literal, which stands outside of these
  powers, too. -/
  leading : ∀ power, literal.magnitude.exponent = some power →
    power = Int.log 10 literal.magnitude.decimal.value ∧ (power < -4 ∨ 16 ≤ power)

end NumberLiteral

/-- Every number is written faithfully. -/
theorem Binary64.exists_faithful (x : Binary64) :
    ∃ literal : NumberLiteral, literal.text = (scriptNumbers.render x).toList ∧
      literal.IsFaithful x := by
  obtain ⟨literal, number, text, value, exponent⟩ := x.exists_literal
  obtain ⟨count, short⟩ := Digits.isShortest_ofBinary64 .up x
  refine ⟨literal, text, ?_, number, ⟨count, value ▸ short⟩,
    fun _ _ other => other.unique (value ▸ short), ?_, ?_⟩
  · rw [literal.head?_text_iff, ← congrArg negative number]
    rfl
  · rw [exponent]
    rcases Nat.eq_zero_or_pos x.code with zero | positive
    · rw [Digits.leading_of_zero zero, if_pos (by decide)]
      exact ⟨nofun, fun outside => absurd zero outside.1⟩
    · have leading := (Digits.leadsAt_ofBinary64 .up positive).log_eq (by decide)
      have low := short.log_lt_iff positive Decimal.least_positional
      have high := short.log_lt_iff positive Decimal.first_scientific
      rw [leading] at low high
      split
      · exact ⟨nofun, fun outside => by omega⟩
      · exact ⟨fun _ => ⟨positive.ne', by omega⟩, fun _ => rfl⟩
  · intro power written
    rw [exponent] at written
    split at written
    · cases written
    · next outside =>
      cases written
      rcases Nat.eq_zero_or_pos x.code with zero | positive
      · rw [Digits.leading_of_zero zero] at outside
        exact absurd (by decide) outside
      · rw [value]
        exact ⟨((Digits.leadsAt_ofBinary64 .up positive).log_eq (by decide)).symm, by omega⟩

/-- Numbers and series are written faithfully: a number as a literal of the usual form that is the
shortest decimal of the number, a series as a list of these literals between brackets, and the data
part of the script of every consistent chart as one line for each series, in order. -/
theorem numbers_faithful :
    (∀ x : Binary64, ∃ literal : NumberLiteral, literal.text = (scriptNumbers.render x).toList ∧
      Text.IsNumber literal.text ∧ literal.IsFaithful x) ∧
    (∀ values : List Binary64, ∃ content, numberList values = "[" ++ content ++ "]" ∧
      (values = [] → content = "") ∧
      (values ≠ [] →
        Text.items content.toList = values.map fun x => (scriptNumbers.render x).toList)) ∧
    ∀ (checked : ConsistentChart) (options : ScriptOptions), ∃ script,
      (checked.render options).value = .ok script ∧
        Script.part .data (script.outerLines (options.shapeFor checked.chart.figure.style)
            (options.indentFor checked.chart.figure.style)) =
          checked.chart.series.map fun series =>
            series.name.code ++ " = " ++ numberList series.values := by
  refine ⟨fun x => ?_, fun values => ?_, fun checked options => ?_⟩
  · obtain ⟨literal, text, faithful⟩ := x.exists_faithful
    exact ⟨literal, text, literal.isNumber, faithful⟩
  · refine ⟨_, rfl, ?_, fun filled => ?_⟩
    · rintro rfl
      rfl
    · rw [Text.items_intercalate (mt List.map_eq_nil_iff.1 filled), List.map_map]
      · rfl
      · intro text member comma
        obtain ⟨x, -, rfl⟩ := List.mem_map.1 member
        obtain ⟨literal, text, -⟩ := x.exists_faithful
        have mark := NumberLiteral.isMark_of_mem_text (text ▸ comma)
        cases mark
  · refine ⟨checked.script options, checked.value_render options, ?_⟩
    have texts := checked.part_outerLines options .data
    rw [Chart.dataTexts_eq] at texts
    exact texts.trans (List.map_congr_left fun series _ => Line.render_bindSeries series)

end ChartScript
