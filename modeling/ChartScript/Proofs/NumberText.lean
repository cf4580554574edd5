import ChartScript.Proofs.Literal
import ChartScript.Proofs.Statement

/-!
# Numbers in statements

A script writes its numbers in positional or in exponent form, and the mark of an exponent is a
letter. It always stands behind a figure, so it belongs to a word that is no name, and the list
literal of a series reads nothing.
-/

namespace ChartScript

namespace Scan

/-- Digits with an exponent mark behind them make no name. -/
theorem wordless_exponent {digits : List Char} (all : ∀ c ∈ digits, c.isDigit = true)
    (filled : digits ≠ []) : Wordless (digits ++ ['e']) := by
  apply wordless_of_digit
  · intro c member
    rcases List.mem_append.1 member with digit | last
    · exact isIdentifierTail_of_isDigit (all c digit)
    · rw [List.mem_singleton.1 last]
      rfl
  · intro c first
    rw [List.head?_append, Option.or_of_isSome (List.isSome_head?.2 filled)] at first
    exact all c (List.mem_of_mem_head? first)

/-- Digits with an exponent behind them hold no name. -/
theorem wordless_digits_exponent {digits : List Char} (all : ∀ c ∈ digits, c.isDigit = true)
    (filled : digits ≠ []) (exponent : Option Int) :
    Wordless (digits ++ DecimalLiteral.exponentText exponent) := by
  cases exponent with
  | none =>
    rw [DecimalLiteral.exponentText, List.append_nil]
    exact wordless_of_digits all
  | some power =>
    have figures : Wordless (Text.padded 10 2 power.natAbs) :=
      wordless_of_digits fun c member => Text.isDigit_of_mem_padded member
    have sign : (if power < 0 then '-' else '+') ∈ separators := by
      split <;> decide
    have joined := (wordless_exponent all filled).join _ sign figures
    rw [List.append_assoc] at joined
    exact joined

/-- A decimal literal holds no name. -/
theorem wordless_literal (literal : DecimalLiteral) : Wordless literal.text := by
  have whole : ∀ c ∈ literal.whole, c.isDigit = true :=
    fun c member => literal.digits c (List.mem_append_left _ member)
  have fraction : ∀ c ∈ literal.fraction, c.isDigit = true :=
    fun c member => literal.digits c (List.mem_append_right _ member)
  rw [DecimalLiteral.text]
  by_cases some : literal.fraction = []
  · rw [some]
    exact wordless_digits_exponent whole literal.filled _
  · rw [DecimalLiteral.fractionText_of_ne_nil some]
    exact (wordless_of_digits whole).join '.' (by decide)
      (wordless_digits_exponent fraction some _)

/-- A number of a script holds no name. -/
theorem wordless_number (x : Binary64) : Wordless (scriptNumbers.render x).toList := by
  obtain ⟨literal, -, text, -⟩ := x.exists_literal
  rw [← text, NumberLiteral.text]
  split
  · exact wordless_nil.join '-' (by decide) (wordless_literal _)
  · exact wordless_literal _

/-- Numbers between commas hold no name. -/
theorem wordless_numbers (values : List Binary64) :
    Wordless (", ".intercalate (values.map scriptNumbers.render)).toList := by
  induction values with
  | nil => exact wordless_nil
  | cons value values ih =>
    cases values with
    | nil => simpa using wordless_number value
    | cons next others =>
      rw [List.map_cons, List.map_cons, String.intercalate_cons_cons, ← List.map_cons]
      have joined := (wordless_number value).join ',' (by decide)
        (wordless_nil.join ' ' (by decide) ih)
      simpa using joined

end Scan

end ChartScript
