import ChartScript.Proofs.Figures
import ChartScript.Proofs.Line

/-!
# Number literals

A number of a script is an optional sign in front of a decimal literal: figures without a needless
zero, a fraction behind a point, an exponent behind its mark. The parts of a literal are told by its
characters, and the literal of a number is read as this number. So the text of a number tells the
number, the zeros of both signs included.
-/

namespace ChartScript

/-- Texts that start with a run of the same kind of characters, and go on with another kind, agree
on the run and on what follows it. -/
theorem append_inj_of_run (inside : Char → Bool) {run run' rest rest' : List Char}
    (all : ∀ c ∈ run, inside c = true) (all' : ∀ c ∈ run', inside c = true)
    (ends : ∀ c, rest.head? = some c → inside c = false)
    (ends' : ∀ c, rest'.head? = some c → inside c = false)
    (same : run ++ rest = run' ++ rest') : run = run' ∧ rest = rest' := by
  have taken {run rest : List Char} (all : ∀ c ∈ run, inside c = true)
      (ends : ∀ c, rest.head? = some c → inside c = false) :
      (run ++ rest).takeWhile inside = run := by
    rw [List.takeWhile_append_of_pos all]
    cases rest with
    | nil => rw [List.takeWhile_nil, List.append_nil]
    | cons c rest =>
      rw [List.takeWhile_cons_of_neg (Bool.eq_false_iff.1 (ends c rfl)), List.append_nil]
  have runs : run = run' := by rw [← taken all ends, same, taken all' ends']
  rw [runs] at same
  exact ⟨runs, List.append_cancel_left same⟩

/-- A decimal literal of the script language, without a sign. -/
structure DecimalLiteral where
  /-- The figures in front of the point. -/
  whole : List Char
  /-- The figures behind the point, which is written if there are any. -/
  fraction : List Char
  /-- The power of ten behind the exponent mark, which is written if there is one. -/
  exponent : Option Int
  /-- All figures are digits. -/
  digits : ∀ c ∈ whole ++ fraction, c.isDigit = true
  /-- A figure stands in front of the point. -/
  filled : whole ≠ []
  /-- A zero comes first only as the whole part zero. -/
  plain : whole.head? = some '0' → whole = ['0']

namespace DecimalLiteral

/-- The text of a fraction. -/
def fractionText (fraction : List Char) : List Char :=
  if fraction.isEmpty then [] else '.' :: fraction

/-- The text of an exponent, with its sign and at least two digits. -/
def exponentText : Option Int → List Char
  | none => []
  | some power => 'e' :: (if power < 0 then '-' else '+') :: Text.padded 10 2 power.natAbs

/-- The characters of a literal. -/
def text (literal : DecimalLiteral) : List Char :=
  literal.whole ++ (fractionText literal.fraction ++ exponentText literal.exponent)

/-- A fraction that is not empty stands behind its point. -/
theorem fractionText_of_ne_nil {fraction : List Char} (some : fraction ≠ []) :
    fractionText fraction = '.' :: fraction := by
  rw [fractionText, if_neg (List.isEmpty_iff.not.2 some)]

/-- The decimal that a literal stands for. -/
def decimal (literal : DecimalLiteral) : Decimal :=
  ⟨Nat.ofDigitChars 10 (literal.whole ++ literal.fraction) 0,
    literal.exponent.getD 0 - literal.fraction.length⟩

/-- An exponent starts with its mark. -/
theorem eq_of_head?_exponentText {exponent : Option Int} {c : Char}
    (first : (exponentText exponent).head? = some c) : c = 'e' := by
  cases exponent with
  | none => cases first
  | some power =>
    cases first
    rfl

/-- Behind the whole part stands no digit. -/
theorem not_isDigit_of_head? {fraction : List Char} {exponent : Option Int} {c : Char}
    (first : (fractionText fraction ++ exponentText exponent).head? = some c) :
    c.isDigit = false := by
  rw [fractionText] at first
  split at first
  · rw [eq_of_head?_exponentText first]
    rfl
  · cases first
    rfl

/-- The text of an exponent tells the exponent. -/
theorem exponentText_injective {exponent exponent' : Option Int}
    (same : exponentText exponent = exponentText exponent') : exponent = exponent' := by
  cases exponent with
  | none => cases exponent' with
    | none => rfl
    | some power => cases same
  | some power => cases exponent' with
    | none => cases same
    | some power' =>
      obtain ⟨sign, figures⟩ := List.cons.inj (List.cons.inj same).2
      have size : power.natAbs = power'.natAbs := by
        rw [← Text.ofDigitChars_padded 2 power.natAbs, figures, Text.ofDigitChars_padded]
      have signs : power < 0 ↔ power' < 0 := by
        constructor <;> intro negative <;> by_contra other <;>
          simp [negative, other] at sign
      rw [show power = power' by omega]

/-- A literal starts with a digit. -/
theorem head?_text_ne (literal : DecimalLiteral) : literal.text.head? ≠ some '-' := by
  intro first
  obtain ⟨c, whole, split⟩ := List.exists_cons_of_ne_nil literal.filled
  rw [DecimalLiteral.text, split, List.cons_append, List.head?_cons, Option.some.injEq] at first
  have digit := literal.digits c (List.mem_append_left _ (split ▸ List.mem_cons_self))
  rw [first] at digit
  cases digit

/-- A character that number literals are made of. -/
def isMark (c : Char) : Bool := c.isDigit || ['-', '+', '.', 'e'].contains c

/-- A literal is made of digits, signs, points and exponent marks. -/
theorem isMark_of_mem_text {literal : DecimalLiteral} {c : Char} (member : c ∈ literal.text) :
    isMark c = true := by
  have digit (figure : c.isDigit = true) : isMark c = true := by
    rw [isMark, figure, Bool.true_or]
  rcases List.mem_append.1 member with whole | member
  · exact digit (literal.digits c (List.mem_append_left _ whole))
  · rcases List.mem_append.1 member with fraction | exponent
    · rw [fractionText] at fraction
      split at fraction
      · cases fraction
      · rcases List.mem_cons.1 fraction with rfl | figure
        · rfl
        · exact digit (literal.digits c (List.mem_append_right _ figure))
    · revert exponent
      cases literal.exponent with
      | none => exact fun exponent => absurd exponent List.not_mem_nil
      | some power =>
        intro exponent
        rcases List.mem_cons.1 exponent with rfl | exponent
        · rfl
        · rcases List.mem_cons.1 exponent with rfl | figure
          · split <;> rfl
          · exact digit (Text.isDigit_of_mem_padded figure)

/-- The text of a literal tells its parts. -/
theorem text_injective {literal other : DecimalLiteral} (same : literal.text = other.text) :
    literal = other := by
  obtain ⟨whole, fraction, exponent, digits, filled, plain⟩ := literal
  obtain ⟨whole', fraction', exponent', digits', filled', plain'⟩ := other
  obtain ⟨rfl, tails⟩ := append_inj_of_run Char.isDigit
    (fun c member => digits c (List.mem_append_left _ member))
    (fun c member => digits' c (List.mem_append_left _ member))
    (fun _ first => not_isDigit_of_head? first) (fun _ first => not_isDigit_of_head? first) same
  have stop {exponent : Option Int} (c : Char) (first : (exponentText exponent).head? = some c) :
      c.isDigit = false := by
    rw [eq_of_head?_exponentText first]
    rfl
  have parts : fraction = fraction' ∧ exponentText exponent = exponentText exponent' := by
    cases fraction with
    | nil => cases fraction' with
      | nil => exact ⟨rfl, tails⟩
      | cons c fraction' =>
        have mark := eq_of_head?_exponentText (congrArg List.head? tails)
        cases mark
    | cons c fraction => cases fraction' with
      | nil =>
        have mark := eq_of_head?_exponentText (congrArg List.head? tails.symm)
        cases mark
      | cons c' fraction' =>
        exact append_inj_of_run Char.isDigit
          (fun c member => digits c (List.mem_append_right _ member))
          (fun c member => digits' c (List.mem_append_right _ member)) stop stop
          (List.cons.inj tails).2
  obtain ⟨rfl, exponents⟩ := parts
  rw [exponentText_injective exponents]

end DecimalLiteral

namespace Digits

/-- Zeros in front of figures leave what they read as. -/
theorem ofDigitChars_zeros_append (zeros : Nat) (figures : List Char) :
    Nat.ofDigitChars 10 (List.replicate zeros '0' ++ figures) 0 =
      Nat.ofDigitChars 10 figures 0 := by
  rw [Nat.ofDigitChars_append, Nat.ofDigitChars_replicate_zero, Nat.mul_zero]

variable {digits : Digits}

/-- Figures between zeros are digits. -/
theorem IsNumeral.isDigit (numeral : digits.IsNumeral) (before behind : Nat) {c : Char}
    (member : c ∈ List.replicate before '0' ++ digits.figures ++ List.replicate behind '0') :
    c.isDigit = true := by
  simp only [List.mem_append, List.mem_replicate] at member
  rcases member with (⟨-, rfl⟩ | figure) | ⟨-, rfl⟩
  · rfl
  · exact numeral.allDigits c figure
  · rfl

/-- A number below one in positional form is a literal with the value of its digits. -/
theorem IsNumeral.exists_fraction (numeral : digits.IsNumeral) (small : digits.leading < 0) :
    ∃ literal : DecimalLiteral, literal.decimal = digits.decimal ∧ literal.exponent = none ∧
      literal.text =
        ['0', '.'] ++ List.replicate (-digits.leading - 1).toNat '0' ++ digits.figures := by
  have all : ∀ c ∈ ['0'] ++ (List.replicate (-digits.leading - 1).toNat '0' ++ digits.figures),
      c.isDigit = true := by
    intro c member
    apply numeral.isDigit ((-digits.leading - 1).toNat + 1) 0
    simpa [List.replicate_succ] using member
  refine ⟨⟨['0'], _, none, all, by decide, fun _ => rfl⟩, ?_, rfl, ?_⟩
  · have value := ofDigitChars_zeros_append ((-digits.leading - 1).toNat + 1) digits.figures
    have power : (0 : Int) - ((-digits.leading - 1).toNat + digits.figures.length : Nat) =
        digits.leading + 1 - digits.figures.length := by
      omega
    rw [List.replicate_succ, List.cons_append] at value
    simp only [DecimalLiteral.decimal, decimal, List.singleton_append, value, Option.getD_none,
      List.length_append, List.length_replicate, power]
  · have some : List.replicate (-digits.leading - 1).toNat '0' ++ digits.figures ≠ [] :=
      List.append_ne_nil_of_right_ne_nil _ numeral.filled
    simp only [DecimalLiteral.text, DecimalLiteral.fractionText_of_ne_nil some,
      DecimalLiteral.exponentText, List.append_nil, List.cons_append, List.nil_append]

/-- A whole number in positional form is a literal with the value of its digits. -/
theorem IsNumeral.exists_whole (numeral : digits.IsNumeral) (large : 0 ≤ digits.leading)
    (whole : digits.figures.length ≤ (digits.leading + 1).toNat) :
    ∃ literal : DecimalLiteral, literal.decimal.value = digits.decimal.value ∧
      literal.exponent = none ∧ literal.text = digits.figures ++
        List.replicate ((digits.leading + 1).toNat - digits.figures.length) '0' := by
  have all : ∀ c ∈ digits.figures ++
      List.replicate ((digits.leading + 1).toNat - digits.figures.length) '0' ++ [],
      c.isDigit = true := by
    intro c member
    rw [List.append_nil] at member
    exact numeral.isDigit 0 _ member
  refine ⟨⟨_, [], none, all, List.append_ne_nil_of_left_ne_nil numeral.filled _, ?_⟩, ?_, rfl,
    ?_⟩
  · intro first
    rw [List.head?_append, Option.or_of_isSome (List.isSome_head?.2 numeral.filled)] at first
    rw [numeral.zero first]
    rfl
  · have power : (0 : Int) + ((digits.leading + 1).toNat - digits.figures.length : Nat) =
        digits.leading + 1 - digits.figures.length := by
      omega
    simp only [DecimalLiteral.decimal, decimal, List.append_nil, ofDigitChars_append_zeros,
      Option.getD_none, List.length_nil, Int.natCast_zero, Int.sub_zero, Decimal.value_mul_pow,
      power]
  · simp only [DecimalLiteral.text, DecimalLiteral.fractionText, DecimalLiteral.exponentText,
      List.isEmpty_nil, if_true, List.append_nil]

/-- Figures with a point among them are a literal with their value. -/
theorem IsNumeral.exists_split (numeral : digits.IsNumeral) (before : Nat) (some : 0 < before)
    (exponent : Option Int)
    (shift : digits.leading + 1 = exponent.getD 0 + (min before digits.figures.length : Nat)) :
    ∃ literal : DecimalLiteral, literal.decimal = digits.decimal ∧ literal.exponent = exponent ∧
      literal.text = digits.figures.take before ++
        (DecimalLiteral.fractionText (digits.figures.drop before) ++
          DecimalLiteral.exponentText exponent) := by
  have all : ∀ c ∈ digits.figures.take before ++ digits.figures.drop before,
      c.isDigit = true := by
    rw [List.take_append_drop]
    exact numeral.allDigits
  refine ⟨⟨_, _, exponent, all, ?_, ?_⟩, ?_, rfl, rfl⟩
  · rw [Ne, List.take_eq_nil_iff, not_or]
    exact ⟨some.ne', numeral.filled⟩
  · intro first
    rw [List.head?_take, if_neg some.ne'] at first
    rw [numeral.zero first]
    exact List.take_of_length_le some
  · have power : exponent.getD 0 - (digits.figures.length - before : Nat) =
        digits.leading + 1 - digits.figures.length := by
      omega
    simp only [DecimalLiteral.decimal, decimal, List.take_append_drop, List.length_drop, power]

/-- The positional form of a number is a literal with the value of its digits. -/
theorem IsNumeral.exists_positional (numeral : digits.IsNumeral) :
    ∃ literal : DecimalLiteral, literal.decimal.value = digits.decimal.value ∧
      literal.exponent = none ∧ literal.text = scriptNumbers.positional digits := by
  rw [DecimalLayout.positional]
  split
  · next small =>
    obtain ⟨literal, decimal, exponent, text⟩ := numeral.exists_fraction small
    exact ⟨literal, congrArg Decimal.value decimal, exponent, text⟩
  · split
    · next large whole =>
      obtain ⟨literal, value, exponent, text⟩ := numeral.exists_whole (Int.not_lt.1 large) whole
      exact ⟨literal, value, exponent, text.trans (List.append_nil _).symm⟩
    · next large parted =>
      obtain ⟨literal, decimal, exponent, text⟩ := numeral.exists_split
        (digits.leading + 1).toNat (by omega) none (by simp; omega)
      have some : digits.figures.drop (digits.leading + 1).toNat ≠ [] := by
        rw [Ne, List.drop_eq_nil_iff]
        exact parted
      rw [DecimalLiteral.fractionText_of_ne_nil some] at text
      refine ⟨literal, congrArg Decimal.value decimal, exponent, text.trans ?_⟩
      simp only [DecimalLiteral.exponentText, List.append_nil, List.append_assoc,
        List.cons_append, List.nil_append]

/-- The exponent form of a number is a literal with the value of its digits. -/
theorem IsNumeral.exists_scientific (numeral : digits.IsNumeral) :
    ∃ literal : DecimalLiteral, literal.decimal.value = digits.decimal.value ∧
      literal.exponent = some digits.leading ∧
      literal.text = scriptNumbers.scientific digits := by
  have some : 1 ≤ digits.figures.length := List.length_pos_iff.2 numeral.filled
  obtain ⟨literal, decimal, exponent, text⟩ := numeral.exists_split 1 (by decide)
    (.some digits.leading) (by rw [Option.getD_some, Nat.min_eq_left some]; rfl)
  refine ⟨literal, congrArg Decimal.value decimal, exponent, text.trans ?_⟩
  simp only [DecimalLayout.scientific, DecimalLiteral.fractionText, DecimalLiteral.exponentText,
    List.append_assoc, List.cons_append, List.nil_append]
  rfl

end Digits

/-- A decimal literal with an optional sign, whose value rounds to a finite number. -/
structure NumberLiteral where
  /-- A minus sign stands in front. -/
  negative : Bool
  /-- The literal without its sign. -/
  magnitude : DecimalLiteral
  /-- The value is not rounded to infinity. -/
  finite : magnitude.decimal.code < Binary64.infinite

namespace NumberLiteral

/-- The characters of a number literal. -/
def text (literal : NumberLiteral) : List Char :=
  if literal.negative then '-' :: literal.magnitude.text else literal.magnitude.text

/-- The number that a literal is read as. -/
def number (literal : NumberLiteral) : Binary64 :=
  ⟨literal.negative, literal.magnitude.decimal.code, literal.finite⟩

/-- A number literal has characters. -/
theorem text_ne_nil (literal : NumberLiteral) : literal.text ≠ [] := by
  rw [text]
  split
  · exact List.cons_ne_nil _ _
  · exact List.append_ne_nil_of_left_ne_nil literal.magnitude.filled _

/-- A number literal is made of digits, signs, points and exponent marks. -/
theorem isMark_of_mem_text {literal : NumberLiteral} {c : Char} (member : c ∈ literal.text) :
    DecimalLiteral.isMark c = true := by
  rw [text] at member
  split at member
  · rcases List.mem_cons.1 member with rfl | member
    · rfl
    · exact DecimalLiteral.isMark_of_mem_text member
  · exact DecimalLiteral.isMark_of_mem_text member

/-- The text of a number literal tells the literal. -/
theorem text_injective {literal other : NumberLiteral} (same : literal.text = other.text) :
    literal = other := by
  obtain ⟨negative, plain, finite⟩ := literal
  obtain ⟨negative', plain', finite'⟩ := other
  cases negative <;> cases negative'
  · cases DecimalLiteral.text_injective same
    rfl
  · exact absurd (congrArg List.head? same) plain.head?_text_ne
  · exact absurd (congrArg List.head? same).symm plain'.head?_text_ne
  · cases DecimalLiteral.text_injective (List.cons.inj same).2
    rfl

end NumberLiteral

/-- A script writes every number as a literal that is read as this number. The literal has the sign
of the number and the value of its digits, and an exponent, that of the leading digit, exactly when
this leads out of the range of the positional form. -/
theorem Binary64.exists_literal (x : Binary64) :
    ∃ literal : NumberLiteral, literal.number = x ∧
      literal.text = (scriptNumbers.render x).toList ∧
      literal.magnitude.decimal.value = (Digits.ofBinary64 .up x).decimal.value ∧
      literal.magnitude.exponent =
        if -4 ≤ (Digits.ofBinary64 .up x).leading ∧ (Digits.ofBinary64 .up x).leading < 16 then none
        else some (Digits.ofBinary64 .up x).leading := by
  have numeral := Digits.isNumeral_ofBinary64 .up x
  have body : ∃ literal : DecimalLiteral,
      literal.decimal.value = (Digits.ofBinary64 .up x).decimal.value ∧
      literal.exponent =
        (if -4 ≤ (Digits.ofBinary64 .up x).leading ∧ (Digits.ofBinary64 .up x).leading < 16 then
          none
        else some (Digits.ofBinary64 .up x).leading) ∧
      literal.text =
        if -4 ≤ (Digits.ofBinary64 .up x).leading ∧ (Digits.ofBinary64 .up x).leading < 16 then
          scriptNumbers.positional (Digits.ofBinary64 .up x)
        else scriptNumbers.scientific (Digits.ofBinary64 .up x) := by
    split
    · exact numeral.exists_positional
    · exact numeral.exists_scientific
  obtain ⟨literal, value, exponent, text⟩ := body
  have reads : literal.decimal.code = x.code := by
    rw [Decimal.code_congr value, Digits.code_ofBinary64]
  refine ⟨⟨x.negative, literal, reads ▸ x.finite⟩, ?_, ?_, value, exponent⟩
  · simp only [NumberLiteral.number, reads]
  · rw [DecimalLayout.render, String.toList_ofList, NumberLiteral.text, text]
    rfl

/-- The list literal of number literals. -/
def literalList (literals : List NumberLiteral) : String :=
  "[" ++ ", ".intercalate (literals.map fun literal => String.ofList literal.text) ++ "]"

/-- A script writes numbers as a list of literals that are read as these numbers. -/
theorem exists_literals (values : List Binary64) :
    ∃ literals : List NumberLiteral, literals.map NumberLiteral.number = values ∧
      numberList values = literalList literals := by
  have each : ∃ literals : List NumberLiteral, literals.map NumberLiteral.number = values ∧
      literals.map (fun literal => String.ofList literal.text) =
        values.map scriptNumbers.render := by
    induction values with
    | nil => exact ⟨[], rfl, rfl⟩
    | cons x values ih =>
      obtain ⟨literal, number, text, -⟩ := x.exists_literal
      obtain ⟨literals, numbers, texts⟩ := ih
      refine ⟨literal :: literals, by rw [List.map_cons, number, numbers], ?_⟩
      rw [List.map_cons, List.map_cons, text, texts, String.ofList_toList]
  obtain ⟨literals, numbers, texts⟩ := each
  exact ⟨literals, numbers, by rw [numberList, literalList, texts]⟩

namespace NumberLiteral

/-- A list of literals behind its opening bracket. -/
def listText : List NumberLiteral → List Char
  | [] => [']']
  | literal :: others =>
    literal.text ++ if others.isEmpty then [']'] else ',' :: ' ' :: listText others

/-- The characters of a list literal. -/
theorem toList_literalList (literals : List NumberLiteral) :
    (literalList literals).toList = '[' :: listText literals := by
  have inside : (", ".intercalate
      (literals.map fun literal => String.ofList literal.text)).toList ++ [']'] =
        listText literals := by
    induction literals with
    | nil => rfl
    | cons literal others ih =>
      cases others with
      | nil =>
        rw [List.map_singleton, String.intercalate_singleton, String.toList_ofList, listText,
          List.isEmpty_nil, if_pos rfl]
      | cons next others =>
        rw [listText, ← ih, List.map_cons, List.map_cons, String.intercalate_cons_cons,
          String.toList_append, String.toList_append, String.toList_ofList, List.append_assoc,
          List.append_assoc]
        rfl
  rw [literalList, String.toList_append, String.toList_append, ← inside]
  rfl

/-- Lists that start with a literal each agree on this literal and on what follows it. -/
theorem listText_cons_inj {literal literal' : NumberLiteral} {others others' : List NumberLiteral}
    (same : listText (literal :: others) = listText (literal' :: others')) :
    literal = literal' ∧ listText others = listText others' := by
  have stops (others : List NumberLiteral) (c : Char)
      (first : (if others.isEmpty then [']'] else ',' :: ' ' :: listText others).head? = some c) :
      DecimalLiteral.isMark c = false := by
    split at first <;> cases first <;> decide
  obtain ⟨text, rest⟩ := append_inj_of_run DecimalLiteral.isMark (fun _ => isMark_of_mem_text)
    (fun _ => isMark_of_mem_text) (stops others) (stops others') same
  have first := text_injective text
  cases others with
  | nil => cases others' with
    | nil => exact ⟨first, rfl⟩
    | cons next others' => cases rest
  | cons next others => cases others' with
    | nil => cases rest
    | cons next' others' => exact ⟨first, (List.cons.inj (List.cons.inj rest).2).2⟩

/-- A list that starts with a literal is not at its end. -/
theorem listText_cons_ne (literal : NumberLiteral) (others : List NumberLiteral) :
    listText (literal :: others) ≠ [']'] := by
  obtain ⟨c, rest, split⟩ := List.exists_cons_of_ne_nil literal.text_ne_nil
  have mark := isMark_of_mem_text (split ▸ List.mem_cons_self)
  rw [listText, split, List.cons_append]
  intro ends
  rw [(List.cons.inj ends).1] at mark
  cases mark

/-- The text of a list tells its literals. -/
theorem listText_injective {literals others : List NumberLiteral}
    (same : listText literals = listText others) : literals = others := by
  induction literals generalizing others with
  | nil => cases others with
    | nil => rfl
    | cons literal' others => exact absurd same.symm (listText_cons_ne literal' others)
  | cons literal literals ih => cases others with
    | nil => exact absurd same (listText_cons_ne literal literals)
    | cons literal' others =>
      obtain ⟨rfl, rest⟩ := listText_cons_inj same
      rw [ih rest]

end NumberLiteral

/-- A list literal tells its number literals. -/
theorem literalList_injective {literals others : List NumberLiteral}
    (same : literalList literals = literalList others) : literals = others := by
  have chars := congrArg String.toList same
  rw [NumberLiteral.toList_literalList, NumberLiteral.toList_literalList] at chars
  exact NumberLiteral.listText_injective (List.cons.inj chars).2

end ChartScript
