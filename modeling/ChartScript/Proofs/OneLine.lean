import ChartScript.Proofs.PlaceText

/-!
# Wordings on one line

The program's own words hold no line feed, and neither do the numbers, cells and codes that it puts
into them. Texts that are quoted for a reader have their line feeds escaped. So a wording is on one
line up to the texts that enter it as they are, and the text of a place is on one line exactly when
its keys are.
-/

namespace ChartScript

namespace Text

/-- No line feed is in a text. -/
def IsOneLine (text : String) : Prop := '\n' ∉ text.toList

instance : DecidablePred IsOneLine := fun text => inferInstanceAs (Decidable ('\n' ∉ text.toList))

/-- A text is on one line if none of its characters is a line feed. A literal is its characters. -/
theorem IsOneLine.of_chars {chars : List Char} (clear : '\n' ∉ chars) :
    IsOneLine (String.ofList chars) := by
  rw [IsOneLine, String.toList_ofList]
  exact clear

theorem isOneLine_append {first second : String} :
    IsOneLine (first ++ second) ↔ IsOneLine first ∧ IsOneLine second := by
  simp [IsOneLine]

/-- Texts of one line make one line when they are joined. -/
theorem isOneLine_intercalate {mark : String} {texts : List String} (single : IsOneLine mark)
    (each : ∀ text ∈ texts, IsOneLine text) : IsOneLine (mark.intercalate texts) := by
  induction texts with
  | nil =>
    rw [String.intercalate_nil]
    exact .of_chars List.not_mem_nil
  | cons text texts ih =>
    obtain ⟨first, others⟩ := List.forall_mem_cons.1 each
    cases texts with
    | nil =>
      rw [String.intercalate_singleton]
      exact first
    | cons next texts =>
      rw [String.intercalate_cons_cons, isOneLine_append, isOneLine_append]
      exact ⟨⟨first, single⟩, ih others⟩

theorem isOneLine_nat (n : Nat) : IsOneLine (toString n) := by
  rw [IsOneLine, Nat.toString_eq_repr, Nat.toList_repr]
  exact not_mem_toDigits n (by decide)

theorem isOneLine_int (n : Int) : IsOneLine (toString n) := by
  cases n with
  | ofNat n => exact isOneLine_nat n
  | negSucc n => exact isOneLine_append.2 ⟨.of_chars (by decide), isOneLine_nat (n + 1)⟩

/-- A hexadecimal numeral is on one line. -/
theorem feed_not_mem_toDigits (n : Nat) : '\n' ∉ Nat.toDigits 16 n := by
  have figure (k : Nat) : '\n' ∉ [Nat.digitChar k] := by
    have other : Nat.digitChar k ≠ '\n' := Nat.digitChar_ne '\n' rfl
    simp [other.symm]
  induction n using Nat.strongRecOn with
  | ind n ih =>
    rw [Nat.toDigits_eq_if (by decide)]
    split
    · exact figure n
    · have shorter : n / 16 < n := by omega
      rw [List.mem_append, not_or]
      exact ⟨ih _ shorter, figure _⟩

/-- A diagnostic shows no character as a line feed. -/
theorem feed_not_mem_shown (c : Char) : '\n' ∉ shown c := by
  rw [shown]
  split_ifs with quoted null tab carriage feed hidden
  · rcases quoted with rfl | rfl <;> decide
  · decide
  · decide
  · decide
  · decide
  · simp [feed_not_mem_toDigits]
  · simpa [eq_comm] using feed

/-- A text in a diagnostic is on one line. -/
theorem isOneLine_quoteShown (text : String) : IsOneLine (quoteShown text) := by
  simp [IsOneLine, quoteShown, feed_not_mem_shown]

end Text

namespace DecimalLayout

variable {layout : DecimalLayout} {digits : Digits}

/-- Characters of numbers only. -/
def Marks (text : List Char) : Prop := ∀ c ∈ text, DecimalLiteral.isMark c = true

instance : DecidablePred Marks := fun text =>
  decidable_of_iff (text.all DecimalLiteral.isMark = true) List.all_eq_true

theorem marks_append {text rest : List Char} (first : Marks text) (second : Marks rest) :
    Marks (text ++ rest) :=
  List.forall_mem_append.2 ⟨first, second⟩

/-- Digits are characters of numbers. -/
theorem marks_of_digits {text : List Char} (digits : ∀ c ∈ text, c.isDigit = true) :
    Marks text := by
  intro c member
  rw [DecimalLiteral.isMark, digits c member, Bool.true_or]

/-- The positional form of a number holds characters of numbers, if what follows a whole number
does. -/
theorem marks_positional (numeral : digits.IsNumeral) (ending : Marks layout.wholeEnding) :
    Marks (layout.positional digits) := by
  have figures := marks_of_digits numeral.allDigits
  have zeros (n : Nat) : Marks (List.replicate n '0') := by
    intro c member
    rw [List.eq_of_mem_replicate member]
    rfl
  have point : Marks ['.'] := List.forall_mem_singleton.2 rfl
  have opening : Marks ['0', '.'] := by decide
  rw [positional]
  split_ifs
  · exact marks_append (marks_append opening (zeros _)) figures
  · exact marks_append (marks_append figures (zeros _)) ending
  · have before : Marks (digits.figures.take (digits.leading + 1).toNat) :=
      fun c member => figures c (List.mem_of_mem_take member)
    have behind : Marks (digits.figures.drop (digits.leading + 1).toNat) :=
      fun c member => figures c (List.mem_of_mem_drop member)
    exact marks_append (marks_append before point) behind

/-- The exponent form of a number holds characters of numbers. -/
theorem marks_scientific (numeral : digits.IsNumeral) : Marks (layout.scientific digits) := by
  have figures := marks_of_digits numeral.allDigits
  have first : Marks (digits.figures.take 1) :=
    fun c member => figures c (List.mem_of_mem_take member)
  have fraction : Marks
      (if (digits.figures.drop 1).isEmpty then [] else '.' :: digits.figures.drop 1) := by
    split_ifs
    · exact List.forall_mem_nil _
    · exact List.forall_mem_cons.2
        ⟨rfl, fun c member => figures c (List.mem_of_mem_drop member)⟩
  have sign : Marks ['e', if digits.leading < 0 then '-' else '+'] := by
    split_ifs <;> decide
  have exponent : Marks (Text.padded 10 layout.exponentWidth digits.leading.natAbs) :=
    marks_of_digits fun c member => Text.isDigit_of_mem_padded member
  exact marks_append (marks_append (marks_append first fraction) sign) exponent

/-- The text of a number holds characters of numbers, if what follows a whole number does. -/
theorem marks_render (ending : Marks layout.wholeEnding) (x : Binary64) :
    Marks (layout.render x).toList := by
  have numeral := Digits.isNumeral_ofBinary64 layout.tie x
  rw [render, String.toList_ofList]
  have body : Marks
      (if layout.positionalFrom ≤ (Digits.ofBinary64 layout.tie x).leading ∧
          (Digits.ofBinary64 layout.tie x).leading < layout.positionalBelow then
        layout.positional (Digits.ofBinary64 layout.tie x)
      else layout.scientific (Digits.ofBinary64 layout.tie x)) := by
    split_ifs
    · exact marks_positional numeral ending
    · exact marks_scientific numeral
  by_cases negative : x.negative
  · rw [if_pos negative]
    exact List.forall_mem_cons.2 ⟨rfl, body⟩
  · rw [if_neg negative]
    exact body

end DecimalLayout

open Text

/-- The wording of what was found is on one line. -/
theorem Finding.isOneLine_message (found : Finding) : IsOneLine found.message := by
  cases found with
  | null | sequence | map => exact .of_chars (by decide)
  | boolean value => cases value <;> decide
  | integer value =>
    unfold message
    simp only [isOneLine_append]
    exact ⟨⟨.of_chars (by decide), isOneLine_int value⟩, .of_chars (by decide)⟩
  | float value =>
    have ending : DecimalLayout.Marks numberLayout.wholeEnding := by decide
    have number : IsOneLine (numberLayout.render value) := by
      intro feed
      cases DecimalLayout.marks_render ending value _ feed
    unfold message
    simp only [isOneLine_append]
    exact ⟨⟨.of_chars (by decide), number⟩, .of_chars (by decide)⟩
  | text value =>
    exact isOneLine_append.2 ⟨.of_chars (by decide), isOneLine_quoteShown value⟩

/-- The wording of what was expected is on one line. -/
theorem Expected.isOneLine_message (expected : Expected) : IsOneLine expected.message := by
  cases expected <;> exact .of_chars (by decide)

/-- The word for a namespace is on one line. -/
theorem Namespace.isOneLine_label (space : Namespace) : IsOneLine space.label := by
  cases space <;> exact .of_chars (by decide)

/-- A cell is told on one line. -/
theorem Cell.isOneLine_render (cell : Cell) : IsOneLine cell.render := by
  simp only [render, isOneLine_append]
  exact ⟨⟨⟨⟨.of_chars (by decide), isOneLine_nat _⟩, .of_chars (by decide)⟩, isOneLine_nat _⟩,
    .of_chars (by decide)⟩

/-- The wording of a fault of a text and of its place is on one line. -/
theorem Json.PlacedFault.isOneLine_message (fault : PlacedFault) : IsOneLine fault.message := by
  have kind : IsOneLine fault.kind.message := by
    cases fault.kind <;> exact .of_chars (by decide)
  unfold message
  simp only [isOneLine_append]
  exact ⟨⟨⟨⟨kind, .of_chars (by decide)⟩, isOneLine_nat _⟩, .of_chars (by decide)⟩,
    isOneLine_nat _⟩

/-- The code of a name is on one line exactly when the name is. -/
theorem Namespace.isOneLine_code (space : Namespace) (raw : String) :
    IsOneLine (space.code raw) ↔ IsOneLine raw := by
  have lead : IsOneLine space.lead := by
    cases space <;> exact .of_chars (by decide)
  rw [code, isOneLine_append, and_iff_right lead, IsOneLine, IsOneLine,
    toList_underscored, List.mem_map]
  apply not_congr
  constructor
  · rintro ⟨c, member, feed⟩
    split at feed
    · cases feed
    · exact feed ▸ member
  · intro member
    exact ⟨'\n', member, rfl⟩

/-- The spelling of a name is on one line. -/
theorem Identifier.isOneLine_raw {space : Namespace} (name : Identifier space) :
    IsOneLine name.raw :=
  name.not_mem_raw (by decide) (by decide)

/-- The wording of a fault of a unique identifier is on one line, if the character at fault is. -/
theorem Uuid.Fault.isOneLine_message (fault : Fault)
    (own : ∀ c i, fault = .character c i → IsOneLine c.toString) : IsOneLine fault.message := by
  cases fault with
  | length found | groupCount found =>
    exact isOneLine_append.2 ⟨.of_chars (by decide), isOneLine_nat found⟩
  | character c i =>
    unfold message
    simp only [isOneLine_append]
    exact ⟨⟨⟨.of_chars (by decide), own c i rfl⟩, .of_chars (by decide)⟩, isOneLine_nat i⟩
  | groupLength group expected found =>
    unfold message
    simp only [isOneLine_append]
    exact ⟨⟨⟨⟨⟨.of_chars (by decide), isOneLine_nat group⟩, .of_chars (by decide)⟩,
      isOneLine_nat expected⟩, .of_chars (by decide)⟩, isOneLine_nat found⟩

namespace Problem

theorem isOneLine_named {text : String} : IsOneLine (named text) ↔ IsOneLine text := by
  have mark : IsOneLine "'" := .of_chars (by decide)
  simp only [named, isOneLine_append, mark, true_and, and_true]

theorem isOneLine_backQuoted {text : String} : IsOneLine (backQuoted text) ↔ IsOneLine text := by
  have mark : IsOneLine "`" := .of_chars (by decide)
  simp only [backQuoted, isOneLine_append, mark, true_and, and_true]

/-- Labels of one line are listed on one line. -/
theorem isOneLine_alternatives {labels : List String} (each : ∀ label ∈ labels, IsOneLine label) :
    IsOneLine (alternatives labels) := by
  unfold alternatives
  split
  · next only => exact isOneLine_backQuoted.2 (each only (List.mem_singleton_self only))
  · next first second =>
    simp only [isOneLine_append, isOneLine_backQuoted]
    exact ⟨⟨each first (by simp), .of_chars (by decide)⟩, each second (by simp)⟩
  · rw [isOneLine_append]
    refine ⟨.of_chars (by decide), isOneLine_intercalate (.of_chars (by decide)) ?_⟩
    exact List.forall_mem_map.2 fun label member => isOneLine_backQuoted.2 (each label member)

/-- Names of one line are listed on one line. -/
theorem isOneLine_names {names : List String} (each : ∀ name ∈ names, IsOneLine name) :
    IsOneLine (", ".intercalate (names.map named)) := by
  apply isOneLine_intercalate (.of_chars (by decide))
  exact List.forall_mem_map.2 fun name member => isOneLine_named.2 (each name member)

/-- The texts that enter a wording as they are: of the description, of its schema, and of a chart. -/
def entered : Problem → List String
  | .unknownChoice found choices => found :: choices
  | .uuid (.character c _) => [c.toString]
  | .refusedName _ raw => [raw]
  | .untagged tag => [tag]
  | .unknownTag tag found known => found :: tag :: known
  | .duplicates _ raws => raws
  | .unknownAxes _ raw => [raw]
  | .unknownPlot raw axes => [raw, axes]
  | .unknownData raw plot => [raw, plot]
  | .placedBefore raw _ => [raw]
  | .remark _ words => [words]
  | _ => []

/-- A wording is on one line, if the texts that enter it as they are. -/
theorem isOneLine_message {problem : Problem} (clear : ∀ text ∈ problem.entered, IsOneLine text) :
    IsOneLine problem.message := by
  cases problem with
  | unreadable fault => exact fault.isOneLine_message
  | notDictionary | notList | missing | undeclared | notPositive | manyKeys =>
    exact .of_chars (by decide)
  | mismatch found expected =>
    unfold message
    simp only [isOneLine_append]
    exact ⟨⟨⟨.of_chars (by decide), found.isOneLine_message⟩, .of_chars (by decide)⟩,
      expected.isOneLine_message⟩
  | unknownChoice found labels =>
    obtain ⟨own, others⟩ := List.forall_mem_cons.1 clear
    unfold message
    simp only [isOneLine_append, isOneLine_backQuoted]
    exact ⟨⟨⟨.of_chars (by decide), own⟩, .of_chars (by decide)⟩, isOneLine_alternatives others⟩
  | uuid fault =>
    refine isOneLine_append.2 ⟨.of_chars (by decide), fault.isOneLine_message ?_⟩
    rintro c i rfl
    exact clear _ (List.mem_singleton_self _)
  | refusedName space raw =>
    have own := clear raw (List.mem_singleton_self raw)
    unfold message
    simp only [isOneLine_append, isOneLine_named, Namespace.isOneLine_code]
    exact ⟨⟨⟨⟨⟨⟨.of_chars (by decide), own⟩, .of_chars (by decide)⟩, space.isOneLine_label⟩,
      .of_chars (by decide)⟩, own⟩, .of_chars (by decide)⟩
  | untagged tag =>
    have own := clear tag (List.mem_singleton_self tag)
    exact isOneLine_append.2 ⟨.of_chars (by decide), isOneLine_named.2 own⟩
  | unknownTag tag found known =>
    obtain ⟨own, rest⟩ := List.forall_mem_cons.1 clear
    obtain ⟨key, others⟩ := List.forall_mem_cons.1 rest
    unfold message
    simp only [isOneLine_append, isOneLine_named]
    exact ⟨⟨⟨⟨⟨.of_chars (by decide), own⟩, .of_chars (by decide)⟩, key⟩, .of_chars (by decide)⟩,
      isOneLine_names others⟩
  | duplicates space raws =>
    unfold message
    simp only [isOneLine_append]
    exact ⟨⟨⟨⟨.of_chars (by decide), space.isOneLine_label⟩, .of_chars (by decide)⟩,
      isOneLine_names clear⟩, .of_chars (by decide)⟩
  | gridShape rows columns found =>
    have counts : IsOneLine (", ".intercalate (found.map toString)) :=
      isOneLine_intercalate (.of_chars (by decide))
        (List.forall_mem_map.2 fun count _ => isOneLine_nat count)
    unfold message
    simp only [isOneLine_append]
    exact ⟨⟨⟨⟨⟨⟨⟨⟨.of_chars (by decide), isOneLine_nat _⟩, .of_chars (by decide)⟩,
      isOneLine_nat _⟩, .of_chars (by decide)⟩, isOneLine_nat _⟩, .of_chars (by decide)⟩,
      counts⟩, .of_chars (by decide)⟩
  | unknownAxes cell raw =>
    have own := clear raw (List.mem_singleton_self raw)
    unfold message
    simp only [isOneLine_append, isOneLine_named]
    exact ⟨⟨⟨⟨.of_chars (by decide), cell.isOneLine_render⟩, .of_chars (by decide)⟩, own⟩,
      .of_chars (by decide)⟩
  | unknownPlot raw other | unknownData raw other =>
    obtain ⟨own, rest⟩ := List.forall_mem_cons.1 clear
    have second := rest other (List.mem_singleton_self other)
    unfold message
    simp only [isOneLine_append, isOneLine_named]
    exact ⟨⟨⟨⟨.of_chars (by decide), own⟩, .of_chars (by decide)⟩, second⟩, .of_chars (by decide)⟩
  | placedBefore raw first =>
    have own := clear raw (List.mem_singleton_self raw)
    unfold message
    simp only [isOneLine_append, isOneLine_named]
    exact ⟨⟨⟨.of_chars (by decide), own⟩, .of_chars (by decide)⟩, first.isOneLine_render⟩
  | remark kind words => exact clear words (List.mem_singleton_self words)

end Problem

/-- The text of a place is on one line exactly when the keys on the way are. -/
theorem Location.isOneLine_render {place : Location} :
    IsOneLine place.render ↔ EachKey IsOneLine place.steps := by
  have root : '\n' ∉ rootName.toList := by decide
  have index (i : Nat) : '\n' ∉ Nat.toDigits 10 i := not_mem_toDigits i (by decide)
  rw [IsOneLine, toList_render, List.mem_append, not_or, and_iff_right root, stepsText,
    List.mem_flatMap, not_exists]
  constructor
  · intro clear name member feed
    apply clear (.key name)
    refine ⟨member, ?_⟩
    rw [Step.toList_render_key]
    exact List.mem_cons_of_mem _ feed
  · rintro clear step ⟨member, feed⟩
    cases step with
    | key name =>
      rw [Step.toList_render_key, List.mem_cons] at feed
      exact clear name member (feed.resolve_left (by decide))
    | index i =>
      rw [Step.toList_render_index] at feed
      simp [index i] at feed

/-- The line of a failure is a single one exactly when the keys of its place and its wording are on
one line. -/
theorem Failure.isOneLine_line {failure : Failure} :
    IsOneLine failure.cause.line ↔
      Location.EachKey IsOneLine failure.location.steps ∧
        IsOneLine failure.problem.message := by
  have mark : IsOneLine ": " := .of_chars (by decide)
  rw [Cause.line, isOneLine_append, isOneLine_append, and_iff_left mark]
  exact and_congr_left' Location.isOneLine_render

end ChartScript
