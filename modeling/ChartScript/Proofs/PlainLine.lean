import ChartScript.Proofs.Literal

/-!
# Plain lines

The lines that a script may hold at its outer level, as a grammar: a few fixed lines, and lines with
places for positive numbers, cells, words, number literals and the label of a line style. All
characters of such a line are printable ASCII characters, and the line tells its form and what
stands in its places.
-/

namespace ChartScript

/-- A word of letters, digits and underscores. -/
structure Word where
  /-- The word itself. -/
  text : String
  /-- The word is not empty. -/
  filled : text ≠ ""
  /-- The word is made of identifier characters. -/
  plain : ∀ c ∈ text.toList, isIdentifierTail c = true

namespace Word

/-- The code of axes with this word. -/
def axesCode (word : Word) : String := "axes_" ++ word.text

/-- The code of a series with this word. -/
def dataCode (word : Word) : String := "data_" ++ word.text

/-- A lead of identifier characters in front of a word leaves only such characters. -/
theorem isIdentifierTail_of_mem (word : Word) (lead : String)
    (leading : lead.toList.all isIdentifierTail = true) :
    ∀ c ∈ (lead ++ word.text).toList, isIdentifierTail c = true := by
  intro c member
  rw [String.toList_append] at member
  exact (List.mem_append.1 member).elim (List.all_eq_true.1 leading c) (word.plain c)

/-- The code of axes is made of identifier characters. -/
theorem isIdentifierTail_axesCode (word : Word) :
    ∀ c ∈ word.axesCode.toList, isIdentifierTail c = true :=
  word.isIdentifierTail_of_mem _ (by decide)

/-- The code of a series is made of identifier characters. -/
theorem isIdentifierTail_dataCode (word : Word) :
    ∀ c ∈ word.dataCode.toList, isIdentifierTail c = true :=
  word.isIdentifierTail_of_mem _ (by decide)

/-- A character that is no identifier character is not in the code of axes. -/
theorem not_mem_axesCode (word : Word) {c : Char} (stop : isIdentifierTail c = false) :
    c ∉ word.axesCode.toList := by
  intro member
  rw [word.isIdentifierTail_axesCode c member] at stop
  cases stop

/-- A character that is no identifier character is not in the code of a series. -/
theorem not_mem_dataCode (word : Word) {c : Char} (stop : isIdentifierTail c = false) :
    c ∉ word.dataCode.toList := by
  intro member
  rw [word.isIdentifierTail_dataCode c member] at stop
  cases stop

/-- A word is told by its text. -/
theorem text_injective {word other : Word} (same : word.text = other.text) : word = other := by
  cases word
  cases other
  cases same
  rfl

/-- A code of axes tells its word. -/
theorem axesCode_injective {word other : Word} (same : word.axesCode = other.axesCode) :
    word = other :=
  text_injective ((String.append_right_inj _).1 same)

/-- A code of a series tells its word. -/
theorem dataCode_injective {word other : Word} (same : word.dataCode = other.dataCode) :
    word = other :=
  text_injective ((String.append_right_inj _).1 same)

end Word

/-- The lines that are the same in every script that has them. -/
def Script.fixedLines : List String :=
  ["import numpy as np", "import matplotlib.pyplot as plt", "", "def draw_figure():",
    "# Figure Definition", "# Axes Definition", "# Data Definition", "# Plot Definition",
    "return fig", "# Render", "fig = draw_figure()", "fig.savefig(\"figure.png\")"]

/-- A line that a script may hold at its outer level. -/
inductive PlainLine where
  /-- A fixed line. -/
  | fixed (line : String) (listed : line ∈ Script.fixedLines)
  /-- The figure is opened with its rows and columns. -/
  | figure (size : GridSize) (rows : 0 < size.rows) (columns : 0 < size.columns)
  /-- Axes are bound to a cell. -/
  | binding (axes : Word) (cell : Cell)
  /-- A series is bound to number literals. -/
  | series (name : Word) (values : List NumberLiteral)
  /-- Two series are drawn on axes. -/
  | drawing (axes x y : Word) (style : LineStyle)
  /-- The remark that is left of binding axes. -/
  | looseBinding (axes : Word)
  /-- The remark that is left of drawing on axes. -/
  | looseDrawing (axes x y : Word) (style : LineStyle)

/-- The forms of plain lines. -/
inductive LineForm where
  /-- The form of fixed lines. -/
  | fixed
  /-- The form of the line that opens the figure. -/
  | figure
  /-- The form of lines that bind axes. -/
  | binding
  /-- The form of lines that bind a series. -/
  | series
  /-- The form of lines that draw. -/
  | drawing
  /-- The form of remarks about axes. -/
  | looseBinding
  /-- The form of remarks about drawing. -/
  | looseDrawing
  deriving DecidableEq

/-- The form of a line, told by its first characters and the first one that is no identifier
character. -/
def LineForm.ofChars : List Char → LineForm
  | 'f' :: 'i' :: 'g' :: ',' :: _ => .figure
  | 'd' :: 'a' :: _ => .series
  | 'a' :: rest =>
    if (rest.dropWhile isIdentifierTail).head? = some '.' then .drawing else .binding
  | '#' :: ' ' :: 'a' :: rest =>
    if (rest.dropWhile isIdentifierTail).head? = some '.' then .looseDrawing else .looseBinding
  | _ => .fixed

namespace PlainLine

/-- The text of a line. -/
def text : PlainLine → String
  | fixed line _ => line
  | figure size _ _ => subplotsText size
  | binding axes cell => bindingText axes.axesCode cell
  | series name values => name.dataCode ++ " = " ++ literalList values
  | drawing axes x y style => drawingText axes.axesCode x.dataCode y.dataCode style.label
  | looseBinding axes => looseBindingText axes.axesCode
  | looseDrawing axes x y style =>
    looseDrawingText axes.axesCode x.dataCode y.dataCode style.label

/-- The form of a line. -/
def form : PlainLine → LineForm
  | fixed .. => .fixed
  | figure .. => .figure
  | binding .. => .binding
  | series .. => .series
  | drawing .. => .drawing
  | looseBinding .. => .looseBinding
  | looseDrawing .. => .looseDrawing

/-- Behind the code of axes stands the first character that is no identifier character. -/
theorem dropWhile_axesCode (axes : Word) {stop : Char} (rest : List Char)
    (other : isIdentifierTail stop = false) :
    ("xes_".toList ++ axes.text.toList ++ stop :: rest).dropWhile isIdentifierTail =
      stop :: rest := by
  have all := axes.isIdentifierTail_of_mem "xes_" (by decide)
  rw [String.toList_append] at all
  rw [List.dropWhile_append_of_pos all, List.dropWhile_cons_of_neg (Bool.eq_false_iff.1 other)]

/-- A line that starts with a code of axes binds or draws. -/
theorem ofChars_axesCode (axes : Word) {stop : Char} (rest : List Char)
    (other : isIdentifierTail stop = false) :
    LineForm.ofChars (axes.axesCode.toList ++ stop :: rest) =
      if stop = '.' then .drawing else .binding := by
  have shape : LineForm.ofChars (axes.axesCode.toList ++ stop :: rest) =
      if (("xes_".toList ++ axes.text.toList ++ stop :: rest).dropWhile
        isIdentifierTail).head? = some '.' then .drawing else .binding := by
    rw [Word.axesCode, String.toList_append]
    rfl
  simp only [shape, dropWhile_axesCode axes rest other, List.head?_cons, Option.some.injEq]

/-- A remark that starts with a code of axes is left of binding or of drawing. -/
theorem ofChars_remark (axes : Word) {stop : Char} (rest : List Char)
    (other : isIdentifierTail stop = false) :
    LineForm.ofChars ('#' :: ' ' :: (axes.axesCode.toList ++ stop :: rest)) =
      if stop = '.' then .looseDrawing else .looseBinding := by
  have shape : LineForm.ofChars ('#' :: ' ' :: (axes.axesCode.toList ++ stop :: rest)) =
      if (("xes_".toList ++ axes.text.toList ++ stop :: rest).dropWhile
        isIdentifierTail).head? = some '.' then .looseDrawing else .looseBinding := by
    rw [Word.axesCode, String.toList_append]
    rfl
  simp only [shape, dropWhile_axesCode axes rest other, List.head?_cons, Option.some.injEq]

/-- The text of a line tells its form. -/
theorem ofChars_text (line : PlainLine) : LineForm.ofChars line.text.toList = line.form := by
  cases line with
  | fixed line listed =>
    have all : ∀ line ∈ Script.fixedLines, LineForm.ofChars line.toList = .fixed := by decide
    exact all line listed
  | figure size rows columns =>
    rw [text, Line.toList_subplotsText]
    rfl
  | series name values =>
    rw [text, Word.dataCode, String.toList_append, String.toList_append, String.toList_append]
    rfl
  | binding axes cell =>
    rw [text, toList_bindingText]
    exact ofChars_axesCode axes _ (by decide)
  | drawing axes x y style =>
    rw [text, toList_drawingText]
    exact ofChars_axesCode axes _ (by decide)
  | looseBinding axes =>
    rw [text, toList_looseBindingText]
    exact ofChars_remark axes _ (by decide)
  | looseDrawing axes x y style =>
    rw [text, toList_looseDrawingText, toList_drawingText, List.append_assoc]
    exact ofChars_remark axes _ (by decide)

/-- A text that starts with drawing tells what is drawn, and how. -/
theorem drawingText_inj {axes axes' x x' y y' : Word} {style style' : LineStyle}
    (rest rest' : List Char)
    (same : (drawingText axes.axesCode x.dataCode y.dataCode style.label).toList ++ rest =
      (drawingText axes'.axesCode x'.dataCode y'.dataCode style'.label).toList ++ rest') :
    axes = axes' ∧ x = x' ∧ y = y' ∧ style = style' := by
  have quote (style : LineStyle) : '\'' ∉ style.label.toList := by
    cases style <;> decide
  have labels {style style' : LineStyle} (same : style.label = style'.label) : style = style' := by
    revert same
    cases style <;> cases style' <;> decide
  simp only [toList_drawingText, List.append_assoc, List.cons_append] at same
  obtain ⟨axesCode, same⟩ := append_cons_inj_of_stop '.' (axes.not_mem_axesCode (by decide))
    (axes'.not_mem_axesCode (by decide)) same
  obtain ⟨xCode, same⟩ := append_cons_inj_of_stop ',' (x.not_mem_dataCode (by decide))
    (x'.not_mem_dataCode (by decide)) (List.append_cancel_left same)
  obtain ⟨yCode, same⟩ := append_cons_inj_of_stop ',' (y.not_mem_dataCode (by decide))
    (y'.not_mem_dataCode (by decide)) (List.cons.inj same).2
  obtain ⟨label, -⟩ := append_cons_inj_of_stop '\'' (quote style) (quote style')
    (List.append_cancel_left same)
  exact ⟨Word.axesCode_injective (String.toList_inj.1 axesCode),
    Word.dataCode_injective (String.toList_inj.1 xCode),
    Word.dataCode_injective (String.toList_inj.1 yCode), labels (String.toList_inj.1 label)⟩

/-- The text that opens a figure tells its size. -/
theorem subplotsText_injective {size size' : GridSize}
    (same : subplotsText size = subplotsText size') : size = size' := by
  obtain ⟨rows, columns⟩ := size
  obtain ⟨rows', columns'⟩ := size'
  have chars := congrArg String.toList same
  simp only [Line.toList_subplotsText, List.append_assoc] at chars
  have opened : Nat.toDigits 10 rows ++ ',' :: ' ' ::
        (Nat.toDigits 10 columns ++ ',' :: " squeeze=False)".toList) =
      Nat.toDigits 10 rows' ++ ',' :: ' ' ::
        (Nat.toDigits 10 columns' ++ ',' :: " squeeze=False)".toList) := by
    simpa using List.append_cancel_left chars
  obtain ⟨row, opened⟩ := append_cons_inj_of_stop ',' (not_mem_toDigits rows (by decide))
    (not_mem_toDigits rows' (by decide)) opened
  obtain ⟨column, -⟩ := append_cons_inj_of_stop ',' (not_mem_toDigits columns (by decide))
    (not_mem_toDigits columns' (by decide)) (List.cons.inj opened).2
  rw [toDigits_injective row, toDigits_injective column]

/-- The text that binds a series tells the series and its literals. -/
theorem series_inj {name name' : Word} {values values' : List NumberLiteral}
    (same : (series name values).text = (series name' values').text) :
    name = name' ∧ values = values' := by
  have split (name : Word) (values : List NumberLiteral) : (series name values).text.toList =
      name.dataCode.toList ++ ' ' :: ("= ".toList ++ (literalList values).toList) := by
    simp [text]
  have chars := congrArg String.toList same
  rw [split, split] at chars
  obtain ⟨code, list⟩ := append_cons_inj_of_stop ' ' (name.not_mem_dataCode (by decide))
    (name'.not_mem_dataCode (by decide)) chars
  exact ⟨Word.dataCode_injective (String.toList_inj.1 code),
    literalList_injective (String.toList_inj.1 (List.append_cancel_left list))⟩

/-- A line is told by its text. -/
theorem text_injective {line line' : PlainLine} (same : line.text = line'.text) : line = line' := by
  have forms : line.form = line'.form := by
    rw [← ofChars_text, same, ofChars_text]
  cases line with
  | fixed line listed => cases line' with
    | fixed line' listed' =>
      cases same
      rfl
    | _ => cases forms
  | figure size rows columns => cases line' with
    | figure size' rows' columns' =>
      cases subplotsText_injective same
      rfl
    | _ => cases forms
  | binding axes cell => cases line' with
    | binding axes' cell' =>
      obtain ⟨code, rfl⟩ := bindingText_inj (axes.not_mem_axesCode (by decide))
        (axes'.not_mem_axesCode (by decide)) same
      rw [Word.axesCode_injective code]
    | _ => cases forms
  | series name values => cases line' with
    | series name' values' =>
      obtain ⟨rfl, rfl⟩ := series_inj same
      rfl
    | _ => cases forms
  | drawing axes x y style => cases line' with
    | drawing axes' x' y' style' =>
      obtain ⟨rfl, rfl, rfl, rfl⟩ := drawingText_inj [] []
        (congrArg (String.toList · ++ []) same)
      rfl
    | _ => cases forms
  | looseBinding axes => cases line' with
    | looseBinding axes' =>
      rw [Word.axesCode_injective (looseBindingText_inj (axes.not_mem_axesCode (by decide))
        (axes'.not_mem_axesCode (by decide)) same)]
    | _ => cases forms
  | looseDrawing axes x y style => cases line' with
    | looseDrawing axes' x' y' style' =>
      have chars := congrArg String.toList same
      rw [text, text, toList_looseDrawingText, toList_looseDrawingText] at chars
      obtain ⟨rfl, rfl, rfl, rfl⟩ := drawingText_inj _ _ (List.cons.inj (List.cons.inj chars).2).2
      rfl
    | _ => cases forms

/-- A text of printable ASCII characters. -/
def Printable (chars : List Char) : Prop := ∀ c ∈ chars, ' ' ≤ c ∧ c ≤ '~'

/-- A fixed text is printable if a look at each of its characters says so. -/
theorem printable_of_all {chars : List Char}
    (all : (chars.all fun c => decide (' ' ≤ c ∧ c ≤ '~')) = true) : Printable chars :=
  fun c member => of_decide_eq_true (List.all_eq_true.1 all c member)

@[simp] theorem printable_append {front back : List Char} :
    Printable (front ++ back) ↔ Printable front ∧ Printable back :=
  List.forall_mem_append

@[simp] theorem printable_cons {c : Char} {chars : List Char} :
    Printable (c :: chars) ↔ (' ' ≤ c ∧ c ≤ '~') ∧ Printable chars :=
  List.forall_mem_cons

/-- Identifier characters are printable. -/
theorem printable_of_isIdentifierTail {c : Char} (tail : isIdentifierTail c = true) :
    ' ' ≤ c ∧ c ≤ '~' := by
  have range (low high : Char) (least : ' ' ≤ low) (greatest : high ≤ '~')
      (inside : low ≤ c ∧ c ≤ high) : ' ' ≤ c ∧ c ≤ '~' :=
    ⟨Char.le_trans least inside.1, Char.le_trans inside.2 greatest⟩
  rcases Bool.or_eq_true_iff.1 tail with alphanum | underscore
  · rcases Bool.or_eq_true_iff.1 alphanum with letter | digit
    · rcases Bool.or_eq_true_iff.1 letter with upper | lower
      · exact range 'A' 'Z' (by decide) (by decide) (of_decide_eq_true upper)
      · obtain ⟨low, high⟩ := Bool.and_eq_true_iff.1 lower
        exact range 'a' 'z' (by decide) (by decide) ⟨of_decide_eq_true low, of_decide_eq_true high⟩
    · obtain ⟨low, high⟩ := Bool.and_eq_true_iff.1 digit
      exact range '0' '9' (by decide) (by decide) ⟨of_decide_eq_true low, of_decide_eq_true high⟩
  · rw [beq_iff_eq.1 underscore]
    decide

/-- The characters of numbers are printable. -/
theorem printable_of_isMark {c : Char} (mark : DecimalLiteral.isMark c = true) :
    ' ' ≤ c ∧ c ≤ '~' := by
  rcases Bool.or_eq_true_iff.1 mark with digit | sign
  · exact printable_of_isIdentifierTail (isIdentifierTail_of_isDigit digit)
  · have signs : Printable ['-', '+', '.', 'e'] := printable_of_all (by decide)
    exact signs c (List.contains_iff_mem.1 sign)

/-- A list of number literals is printable. -/
theorem printable_listText (values : List NumberLiteral) :
    Printable (NumberLiteral.listText values) := by
  induction values with
  | nil => exact printable_of_all (by decide)
  | cons literal others ih =>
    have first : Printable literal.text :=
      fun c member => printable_of_isMark (NumberLiteral.isMark_of_mem_text member)
    rw [NumberLiteral.listText, printable_append]
    refine ⟨first, ?_⟩
    split
    · exact printable_of_all (by decide)
    · rw [printable_cons, printable_cons]
      exact ⟨by decide, by decide, ih⟩

/-- A numeral is printable. -/
theorem printable_toDigits (n : Nat) : Printable (Nat.toDigits 10 n) :=
  fun _ member => printable_of_isIdentifierTail
    (isIdentifierTail_of_isDigit (Nat.isDigit_of_mem_toDigits (by decide) (by decide) member))

/-- A code of axes is printable. -/
theorem printable_axesCode (axes : Word) : Printable axes.axesCode.toList :=
  fun c member => printable_of_isIdentifierTail (axes.isIdentifierTail_axesCode c member)

/-- A code of a series is printable. -/
theorem printable_dataCode (name : Word) : Printable name.dataCode.toList :=
  fun c member => printable_of_isIdentifierTail (name.isIdentifierTail_dataCode c member)

/-- A text that draws is printable. -/
theorem printable_drawingText (axes x y : Word) (style : LineStyle) :
    Printable (drawingText axes.axesCode x.dataCode y.dataCode style.label).toList := by
  have label : Printable style.label.toList := by
    cases style <;> exact printable_of_all (by decide)
  simp only [toList_drawingText, printable_append, printable_cons]
  exact ⟨printable_axesCode axes, by decide, printable_of_all (by decide), printable_dataCode x,
    by decide, by decide, printable_dataCode y, by decide, printable_of_all (by decide), label,
    by decide, printable_of_all (by decide)⟩

/-- A plain line is printable. -/
theorem printable_text (line : PlainLine) : Printable line.text.toList := by
  cases line with
  | fixed line listed =>
    have all : (Script.fixedLines.all fun line =>
        line.toList.all fun c => decide (' ' ≤ c ∧ c ≤ '~')) = true := by decide
    exact printable_of_all (List.all_eq_true.1 all line listed)
  | figure size rows columns =>
    simp only [text, Line.toList_subplotsText, printable_append]
    exact ⟨⟨⟨⟨printable_of_all (by decide), printable_toDigits _⟩, printable_of_all (by decide)⟩,
      printable_toDigits _⟩, printable_of_all (by decide)⟩
  | binding axes cell =>
    simp only [text, toList_bindingText, printable_append, printable_cons]
    exact ⟨printable_axesCode axes, by decide, printable_of_all (by decide), printable_toDigits _,
      by decide, by decide, printable_toDigits _, by decide, printable_of_all rfl⟩
  | series name values =>
    simp only [text, String.toList_append, NumberLiteral.toList_literalList, printable_append,
      printable_cons]
    exact ⟨⟨printable_dataCode name, printable_of_all (by decide)⟩, by decide,
      printable_listText values⟩
  | drawing axes x y style => exact printable_drawingText axes x y style
  | looseBinding axes =>
    simp only [text, toList_looseBindingText, printable_append, printable_cons]
    exact ⟨by decide, by decide, printable_axesCode axes, by decide,
      ⟨printable_of_all (by decide), printable_axesCode axes⟩, printable_of_all (by decide)⟩
  | looseDrawing axes x y style =>
    simp only [text, toList_looseDrawingText, printable_append, printable_cons]
    exact ⟨by decide, by decide, printable_drawingText axes x y style,
      ⟨printable_of_all (by decide), printable_axesCode axes⟩, printable_of_all (by decide)⟩

end PlainLine

end ChartScript
