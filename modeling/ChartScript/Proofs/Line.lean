import ChartScript.Script.Layout

/-!
# The texts of body lines

Each kind of line has one text, spelled out here with the codes, numbers and labels that it shows.
The codes of axes and series start with their leads and hold identifier characters only, so the
first characters of a line tell remarks, bindings and series apart, and the text of a binding tells
its axes and its cell.
-/

namespace ChartScript

/-- What stands before and behind the first stop of a text is fixed by the text. -/
theorem append_cons_inj_of_stop (stop : Char) {before other rest rest' : List Char}
    (clear : stop ∉ before) (clear' : stop ∉ other)
    (same : before ++ stop :: rest = other ++ stop :: rest') : before = other ∧ rest = rest' := by
  induction before generalizing other with
  | nil =>
    cases other with
    | nil => exact ⟨rfl, List.tail_eq_of_cons_eq same⟩
    | cons c other => exact absurd (List.head_eq_of_cons_eq same ▸ List.mem_cons_self) clear'
  | cons c before ih =>
    cases other with
    | nil => exact absurd (List.head_eq_of_cons_eq same ▸ List.mem_cons_self) clear
    | cons c' other =>
      obtain ⟨rfl, same'⟩ := List.cons.inj same
      obtain ⟨rfl, rfl⟩ := ih (fun member => clear (List.mem_cons_of_mem _ member))
        (fun member => clear' (List.mem_cons_of_mem _ member)) same'
      exact ⟨rfl, rfl⟩

/-- A numeral has one value. -/
theorem toDigits_injective {m n : Nat} (same : Nat.toDigits 10 m = Nat.toDigits 10 n) : m = n := by
  rw [← Nat.ofDigitChars_ten_toDigits (n := m), same, Nat.ofDigitChars_ten_toDigits]

/-- A character that is no digit is not in a numeral. -/
theorem not_mem_toDigits {c : Char} (n : Nat) (other : c.isDigit = false) :
    c ∉ Nat.toDigits 10 n := by
  intro member
  rw [Nat.isDigit_of_mem_toDigits (by decide) (by decide) member] at other
  cases other

/-- A digit goes on an identifier. -/
theorem isIdentifierTail_of_isDigit {c : Char} (digit : c.isDigit = true) :
    isIdentifierTail c = true := by
  rw [isIdentifierTail, Char.isAlphanum, digit, Bool.or_true, Bool.true_or]

/-- The text that opens a figure. -/
def subplotsText (size : GridSize) : String :=
  "fig, axes = plt.subplots(" ++ toString size.rows ++ ", " ++ toString size.columns ++
    ", squeeze=False)"

/-- The text that binds axes to a cell. -/
def bindingText (axes : String) (cell : Cell) : String :=
  axes ++ " = axes[" ++ toString cell.row ++ "][" ++ toString cell.column ++ "]"

/-- The text that remains of binding axes without a cell. -/
def looseBindingText (axes : String) : String :=
  "# " ++ axes ++ " = axes[?][?] # " ++ axes ++ " is not assigned into any subplot"

/-- The text that draws two series on axes. -/
def drawingText (axes x y style : String) : String :=
  axes ++ ".plot(" ++ x ++ ", " ++ y ++ ", linestyle='" ++ style ++ "')"

/-- The text that remains of drawing on axes without a cell. -/
def looseDrawingText (axes x y style : String) : String :=
  "# " ++ drawingText axes x y style ++ " # " ++ axes ++ " is not assigned into any subplot"

namespace Identifier

/-- Codes of axes start with the lead of axes. -/
theorem toList_axesCode (name : Identifier .axes) :
    name.code.toList = 'a' :: 'x' :: 'e' :: 's' :: '_' :: (underscored name.raw).toList := by
  rw [code, Namespace.code, String.toList_append]
  rfl

/-- Codes of series start with the lead of series. -/
theorem toList_dataCode (name : Identifier .data) :
    name.code.toList = 'd' :: 'a' :: 't' :: 'a' :: '_' :: (underscored name.raw).toList := by
  rw [code, Namespace.code, String.toList_append]
  rfl

/-- Axes and series have no code in common. -/
theorem axesCode_ne_dataCode (axes : Identifier .axes) (series : Identifier .data) :
    axes.code ≠ series.code := by
  intro same
  have chars := axes.toList_axesCode
  rw [same, series.toList_dataCode] at chars
  simp at chars

/-- Codes hold identifier characters only. -/
theorem isIdentifierTail_of_mem_code {space : Namespace} (name : Identifier space) :
    ∀ c ∈ name.code.toList, isIdentifierTail c = true := by
  have legal := name.isIdentifier_code
  rw [isIdentifier] at legal
  split at legal
  · cases legal
  · next head rest split =>
    obtain ⟨first, others⟩ := Bool.and_eq_true_iff.1 legal
    rw [split]
    intro c member
    rcases List.mem_cons.1 member with rfl | later
    · rw [isIdentifierHead, Bool.or_eq_true_iff] at first
      rw [isIdentifierTail, Char.isAlphanum, Bool.or_eq_true_iff, Bool.or_eq_true_iff]
      exact first.imp_left .inl
    · exact List.all_eq_true.1 others c later

/-- A character that is no identifier character is not in a code. -/
theorem not_mem_code {space : Namespace} (name : Identifier space) {c : Char}
    (stop : isIdentifierTail c = false) : c ∉ name.code.toList := by
  intro member
  have tail := name.isIdentifierTail_of_mem_code c member
  rw [stop] at tail
  cases tail

end Identifier

/-- The literal of a line style is its label between single quotes. -/
theorem LineStyle.quoteLiteral_label (style : LineStyle) :
    Text.quoteLiteral style.label = "'" ++ style.label ++ "'" := by
  cases style <;> decide

/-- The characters of the text that binds axes. -/
theorem toList_bindingText (axes : String) (cell : Cell) :
    (bindingText axes cell).toList =
      axes.toList ++ ' ' :: ("= axes[".toList ++ (Nat.toDigits 10 cell.row ++
        ']' :: '[' :: (Nat.toDigits 10 cell.column ++ ']' :: []))) := by
  simp [bindingText]

/-- The characters of the remark that is left of binding axes. -/
theorem toList_looseBindingText (axes : String) :
    (looseBindingText axes).toList =
      '#' :: ' ' :: (axes.toList ++ ' ' :: ("= axes[?][?] # ".toList ++ axes.toList ++
        " is not assigned into any subplot".toList)) := by
  simp [looseBindingText]

/-- The characters of the text that draws. -/
theorem toList_drawingText (axes x y style : String) :
    (drawingText axes x y style).toList =
      axes.toList ++ '.' :: ("plot(".toList ++ (x.toList ++ ',' :: ' ' ::
        (y.toList ++ ',' :: (" linestyle='".toList ++ (style.toList ++ '\'' :: ")".toList))))) := by
  simp [drawingText]

/-- The characters of the remark that is left of drawing on axes. -/
theorem toList_looseDrawingText (axes x y style : String) :
    (looseDrawingText axes x y style).toList =
      '#' :: ' ' :: ((drawingText axes x y style).toList ++ (" # ".toList ++ axes.toList ++
        " is not assigned into any subplot".toList)) := by
  simp [looseDrawingText]

/-- The text of a binding tells its axes and its cell. -/
theorem bindingText_inj {axes other : String} {cell cell' : Cell} (clear : ' ' ∉ axes.toList)
    (clear' : ' ' ∉ other.toList) (same : bindingText axes cell = bindingText other cell') :
    axes = other ∧ cell = cell' := by
  obtain ⟨row, column⟩ := cell
  obtain ⟨row', column'⟩ := cell'
  have chars := congrArg String.toList same
  rw [toList_bindingText, toList_bindingText] at chars
  obtain ⟨code, chars⟩ := append_cons_inj_of_stop ' ' clear clear' chars
  obtain ⟨rows, chars⟩ := append_cons_inj_of_stop ']' (not_mem_toDigits row (by decide))
    (not_mem_toDigits row' (by decide)) (List.append_cancel_left chars)
  obtain ⟨columns, -⟩ := append_cons_inj_of_stop ']' (not_mem_toDigits column (by decide))
    (not_mem_toDigits column' (by decide)) (List.cons.inj chars).2
  rw [toDigits_injective rows, toDigits_injective columns]
  exact ⟨String.toList_inj.1 code, rfl⟩

/-- The remark that is left of a binding tells its axes. -/
theorem looseBindingText_inj {axes other : String} (clear : ' ' ∉ axes.toList)
    (clear' : ' ' ∉ other.toList) (same : looseBindingText axes = looseBindingText other) :
    axes = other := by
  have chars := congrArg String.toList same
  rw [toList_looseBindingText, toList_looseBindingText] at chars
  obtain ⟨code, -⟩ := append_cons_inj_of_stop ' ' clear clear'
    (List.cons.inj (List.cons.inj chars).2).2
  exact String.toList_inj.1 code

namespace Line

/-- The text of a heading. -/
theorem render_heading (block : Block) :
    render (.heading block) = "# " ++ block.title ++ " Definition" := rfl

/-- The text of opening a figure. -/
theorem render_subplots (size : GridSize) : render (.subplots size) = subplotsText size := rfl

/-- The characters of the text that opens a figure. -/
theorem toList_subplotsText (size : GridSize) :
    (subplotsText size).toList =
      "fig, axes = plt.subplots(".toList ++ Nat.toDigits 10 size.rows ++ ", ".toList ++
        Nat.toDigits 10 size.columns ++ ", squeeze=False)".toList := by
  -- An equation for the text would make Lean evaluate its first literal byte by byte.
  delta subplotsText
  simp only [String.toList_append, Nat.toString_eq_repr, Nat.toList_repr]

/-- The text of binding axes. -/
theorem render_bindAxes (axes : Identifier .axes) (cell : Cell) :
    render (.bindAxes axes cell) = bindingText axes.code cell := by
  have shape : render (.bindAxes axes cell) = axes.code ++ " = axes" ++ cell.render := rfl
  rw [shape, ← String.toList_inj]
  simp [bindingText, Cell.render]

/-- The text that is left of binding axes. -/
theorem render_looseAxes (axes : Identifier .axes) :
    render (.looseAxes axes) = looseBindingText axes.code := by
  have shape : render (.looseAxes axes) =
      "# " ++ (axes.code ++ " = axes[?][?]") ++ " # " ++ Warning.unplacedRemark axes := rfl
  rw [shape, ← String.toList_inj]
  simp [looseBindingText, Warning.unplacedRemark]

/-- The text of binding a series. -/
theorem render_bindSeries (series : Series) :
    render (.bindSeries series) = series.name.code ++ " = " ++ numberList series.values := rfl

/-- The text of a plot's call behind its axes. -/
theorem drawing_eq {axes : Identifier .axes} {plot : Plot} {x y : Identifier .data}
    (drawn : plot.relation = .plot x y) :
    drawing axes plot = drawingText axes.code x.code y.code plot.lineStyle.label := by
  simp only [drawing, Plot.call, Plot.arguments, Plot.options, drawn, Relation.references,
    Relation.tag, List.map_cons, List.map_nil, LineStyle.quoteLiteral_label, List.cons_append,
    List.nil_append, String.intercalate_cons_cons, String.intercalate_singleton]
  rw [← String.toList_inj]
  simp [drawingText]

/-- The text of drawing on axes. -/
theorem render_draw {axes : Identifier .axes} {plot : Plot} {x y : Identifier .data}
    (drawn : plot.relation = .plot x y) :
    render (.draw axes plot) =
      drawingText axes.code x.code y.code plot.lineStyle.label :=
  drawing_eq drawn

/-- The text that is left of drawing on axes. -/
theorem render_looseDraw {axes : Identifier .axes} {plot : Plot} {x y : Identifier .data}
    (drawn : plot.relation = .plot x y) :
    render (.looseDraw axes plot) =
      looseDrawingText axes.code x.code y.code plot.lineStyle.label := by
  have shape : render (.looseDraw axes plot) =
      "# " ++ drawing axes plot ++ " # " ++ Warning.unplacedRemark axes := rfl
  rw [shape, drawing_eq drawn, ← String.toList_inj]
  simp [looseDrawingText, Warning.unplacedRemark]

end Line

end ChartScript
