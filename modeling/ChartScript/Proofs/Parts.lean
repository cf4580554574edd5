import ChartScript.Proofs.Line
import Mathlib.Data.List.Basic

/-!
# The parts of a script, read from its text

A reader finds the parts of a script in its lines: a part stands between its heading and the next
empty line, once the indentation of the function around the body is taken away. Lines that start
with a number sign are remarks and do nothing. What is found are the lines of the chart's blocks,
in either shape and with either indentation.
-/

namespace ChartScript

/-- A line without one unit of indentation at its start, if it has one. -/
def IndentStyle.outdent (style : IndentStyle) (line : String) : String :=
  if style.unit.toList.isPrefixOf line.toList then
    String.ofList (line.toList.drop style.unit.length)
  else line

namespace Script

/-- The lines of a script with its body at the outer level. -/
def outerLines (shape : ScriptShape) (style : IndentStyle) (script : Script) : List String :=
  match shape with
  | .procedure => script.lines
  | .function => script.lines.map style.outdent

/-- A line that starts with a number sign is a remark. -/
def isRemark (line : String) : Bool := line.toList.head? == some '#'

/-- The lines that are no remarks. -/
def live (lines : List String) : List String := lines.filter fun line => !isRemark line

/-- The lines of a part: those behind its heading, up to the next empty line. -/
def part (block : Block) (lines : List String) : List String :=
  ((lines.dropWhile (· != "# " ++ block.title ++ " Definition")).drop 1).takeWhile (· != "")

end Script

namespace IndentStyle

/-- An empty line has no indentation. -/
theorem outdent_empty (style : IndentStyle) : style.outdent "" = "" := by
  cases style <;> decide

/-- Taking away a unit that was put in front leaves the line. -/
theorem outdent_unit_append (style : IndentStyle) (line : String) :
    style.outdent (style.unit ++ line) = line := by
  rw [outdent, String.toList_append, if_pos (List.isPrefixOf_iff_prefix.2 (List.prefix_append _ _)),
    ← String.length_toList, List.drop_left, String.ofList_toList]

/-- Indentation by one level puts a unit in front of each line that is not empty. -/
theorem indent_one (style : IndentStyle) (lines : List String) :
    indent style 1 lines = lines.map fun line => if line = "" then "" else style.unit ++ line := by
  have margin : String.join (List.replicate 1 style.unit) = style.unit := by
    simp [String.join]
  simp only [indent, margin, String.isEmpty_iff]

/-- Lines that were indented by one unit come back when it is taken away. -/
theorem map_outdent_indent (style : IndentStyle) (lines : List String) :
    (indent style 1 lines).map style.outdent = lines := by
  rw [indent_one, List.map_map]
  apply List.map_id''
  intro line
  simp only [Function.comp_apply]
  split
  · next empty => rw [outdent_empty, empty]
  · rw [outdent_unit_append]

end IndentStyle

namespace Script

/-- The lines before a body, at the outer level. -/
def opening : ScriptShape → List String
  | .procedure => ["import numpy as np", "import matplotlib.pyplot as plt", ""]
  | .function =>
    ["import numpy as np", "import matplotlib.pyplot as plt", "", "", "def draw_figure():"]

/-- The lines behind a body, at the outer level. -/
def closing : ScriptShape → List String
  | .procedure => ["# Render", "fig.savefig(\"figure.png\")"]
  | .function =>
    ["return fig", "", "", "# Render", "fig = draw_figure()", "fig.savefig(\"figure.png\")"]

/-- At the outer level, a body stands between fixed lines, as it was. -/
theorem outerLines_arrange (shape : ScriptShape) (style : IndentStyle) (body : List String) :
    (arrange shape style body).outerLines shape style = opening shape ++ body ++ closing shape := by
  cases shape with
  | procedure =>
    simp only [arrange, flat, outerLines, opening, closing, header, footer, renderHeading,
      List.append_assoc, List.cons_append, List.nil_append]
  | function =>
    have front : (header ++ ["", "", "def " ++ entry ++ "():"]).map style.outdent =
        opening .function := by
      cases style <;> decide
    have back : (["", "", renderHeading, "fig = " ++ entry ++ "()"] ++ footer).map style.outdent =
        ["", "", "# Render", "fig = draw_figure()", "fig.savefig(\"figure.png\")"] := by
      cases style <;> decide
    have shaped : (arrange .function style body).outerLines .function style =
        (header ++ ["", "", "def " ++ entry ++ "():"] ++ indent style 1 body ++
          indent style 1 ["return fig"] ++
          ["", "", renderHeading, "fig = " ++ entry ++ "()"] ++ footer).map style.outdent := rfl
    rw [shaped, List.append_assoc, List.map_append, List.map_append, List.map_append, front, back,
      IndentStyle.map_outdent_indent, IndentStyle.map_outdent_indent]
    simp only [closing, List.append_assoc, List.cons_append, List.nil_append]

/-- A part is what stands between its heading and an empty line. -/
theorem part_eq {block : Block} {before inside : List String} (after : List String)
    (unheaded : "# " ++ block.title ++ " Definition" ∉ before) (filled : "" ∉ inside) :
    part block (before ++ ("# " ++ block.title ++ " Definition") :: (inside ++ "" :: after)) =
      inside := by
  have skip : ∀ line ∈ before, (line != "# " ++ block.title ++ " Definition") = true := by
    intro line member
    rw [bne_iff_ne]
    rintro rfl
    exact unheaded member
  have keep : ∀ line ∈ inside, (line != "") = true := by
    intro line member
    rw [bne_iff_ne]
    rintro rfl
    exact filled member
  rw [part, List.dropWhile_append_of_pos skip, List.dropWhile_cons_of_neg (by simp), List.drop_one,
    List.tail_cons, List.takeWhile_append_of_pos keep, List.takeWhile_cons_of_neg (by simp),
    List.append_nil]

end Script

/-- Every relation draws one series against another. -/
theorem Relation.exists_plot (relation : Relation) : ∃ x y, relation = .plot x y := by
  cases relation with
  | plot x y => exact ⟨x, y, rfl⟩

namespace Line

/-- A line stands between parts and not in one. -/
def isFrame : Line → Bool
  | .blank | .heading _ => true
  | _ => false

/-- A line does nothing and says so. -/
def isLoose : Line → Bool
  | .heading _ | .looseAxes _ | .looseDraw .. => true
  | _ => false

/-- The lines that do nothing are the remarks. -/
theorem isRemark_render (line : Line) : Script.isRemark line.render = line.isLoose := by
  cases line with
  | blank => decide
  | heading block => cases block <;> decide
  | subplots size => simp [render_subplots, Script.isRemark, isLoose, toList_subplotsText]
  | bindAxes axes cell =>
    simp [render_bindAxes, bindingText, Script.isRemark, isLoose, axes.toList_axesCode]
  | looseAxes axes => simp [render_looseAxes, looseBindingText, Script.isRemark, isLoose]
  | bindSeries series =>
    simp [render_bindSeries, Script.isRemark, isLoose, series.name.toList_dataCode]
  | draw axes plot =>
    obtain ⟨x, y, drawn⟩ := plot.relation.exists_plot
    simp [render_draw drawn, drawingText, Script.isRemark, isLoose, axes.toList_axesCode]
  | looseDraw axes plot =>
    obtain ⟨x, y, drawn⟩ := plot.relation.exists_plot
    simp [render_looseDraw drawn, looseDrawingText, Script.isRemark, isLoose]

/-- A line of a part starts with a small letter, or with one behind a number sign. -/
theorem starts_render {line : Line} (inner : line.isFrame = false) :
    line.render.toList.head?.any Char.isLower = true ∨
      line.render.toList.take 3 = ['#', ' ', 'a'] := by
  cases line with
  | blank => cases inner
  | heading block => cases inner
  | subplots size =>
    left
    rw [render_subplots]
    simp [toList_subplotsText]
  | bindAxes axes cell =>
    left
    rw [render_bindAxes]
    simp [bindingText, axes.toList_axesCode]
  | looseAxes axes =>
    right
    rw [render_looseAxes]
    simp [looseBindingText, axes.toList_axesCode]
  | bindSeries series =>
    left
    rw [render_bindSeries]
    simp [series.name.toList_dataCode]
  | draw axes plot =>
    obtain ⟨x, y, drawn⟩ := plot.relation.exists_plot
    left
    rw [render_draw drawn]
    simp [drawingText, axes.toList_axesCode]
  | looseDraw axes plot =>
    obtain ⟨x, y, drawn⟩ := plot.relation.exists_plot
    right
    rw [render_looseDraw drawn]
    simp [looseDrawingText, drawingText, axes.toList_axesCode]

/-- A line of a part is not empty. -/
theorem render_ne_empty {line : Line} (inner : line.isFrame = false) : line.render ≠ "" := by
  intro empty
  have starts := starts_render inner
  rw [empty] at starts
  simp at starts

/-- A line of a part is no heading. -/
theorem render_ne_heading {line : Line} (inner : line.isFrame = false) (block : Block) :
    line.render ≠ "# " ++ block.title ++ " Definition" := by
  intro heading
  have starts := starts_render inner
  rw [heading] at starts
  cases block <;> simp [Block.title] at starts

end Line

namespace Chart

/-- The lines of a block stand in a part. -/
theorem isFrame_of_mem_blockLines {chart : Chart} {block : Block} {line : Line}
    (member : line ∈ chart.blockLines block) : line.isFrame = false := by
  cases block with
  | figure =>
    rw [blockLines, List.mem_singleton] at member
    rw [member]
    rfl
  | axes =>
    obtain ⟨axes, -, rfl⟩ := List.mem_map.1 member
    rw [axesLine]
    split <;> rfl
  | data =>
    obtain ⟨series, -, rfl⟩ := List.mem_map.1 member
    rfl
  | plot =>
    obtain ⟨plot, -, inside⟩ := List.mem_flatMap.1 member
    obtain ⟨axes, -, rfl⟩ := List.mem_map.1 inside
    rw [drawLine]
    split <;> rfl

/-- The texts of a block's lines. -/
def blockTexts (chart : Chart) (block : Block) : List String :=
  (chart.blockLines block).map Line.render

/-- The texts of the axes block are those of the lines about the axes, one by one. -/
theorem axesTexts_eq (chart : Chart) :
    chart.blockTexts .axes = chart.axes.map fun axes => (chart.axesLine axes.name).render := by
  rw [blockTexts, blockLines, List.map_map]
  rfl

/-- The texts of the data block are those of the lines that bind the series, one by one. -/
theorem dataTexts_eq (chart : Chart) :
    chart.blockTexts .data = chart.series.map fun series => (Line.bindSeries series).render := by
  rw [blockTexts, blockLines, List.map_map]
  rfl

/-- A block's part of the body: its heading, its lines and an empty line. -/
def partTexts (chart : Chart) (block : Block) : List String :=
  ("# " ++ block.title ++ " Definition") :: (chart.blockTexts block ++ [""])

/-- The texts of a body are those of its four parts. -/
theorem map_render_body (chart : Chart) :
    chart.body.map Line.render =
      [Block.figure, .axes, .data, .plot].flatMap chart.partTexts := by
  rw [body, List.map_flatMap]
  apply List.flatMap_congr
  intro block _
  rw [List.map_append, List.map_cons, Line.render_heading]
  rfl

/-- No line of a block is empty. -/
theorem empty_not_mem_blockTexts (chart : Chart) (block : Block) : "" ∉ chart.blockTexts block := by
  intro member
  obtain ⟨line, inside, empty⟩ := List.mem_map.1 member
  exact Line.render_ne_empty (isFrame_of_mem_blockLines inside) empty

/-- The heading of a block stands in its own part only. -/
theorem heading_not_mem_partTexts (chart : Chart) {block other : Block}
    (different : block ≠ other) :
    "# " ++ block.title ++ " Definition" ∉ chart.partTexts other := by
  intro member
  rcases List.mem_cons.1 member with same | later
  · revert same
    cases block <;> cases other <;> first | exact absurd rfl different | decide
  · rcases List.mem_append.1 later with inside | last
    · obtain ⟨line, inner, text⟩ := List.mem_map.1 inside
      exact Line.render_ne_heading (isFrame_of_mem_blockLines inner) block text
    · have empty := List.mem_singleton.1 last
      revert empty
      cases block <;> decide

/-- No heading stands before the body. -/
theorem heading_not_mem_opening (block : Block) (shape : ScriptShape) :
    "# " ++ block.title ++ " Definition" ∉ Script.opening shape := by
  cases block <;> cases shape <;> decide

/-- A part between other parts is read as the block's lines. -/
theorem part_flatMap (chart : Chart) (shape : ScriptShape) {block : Block}
    (earlier later : List Block) (first : block ∉ earlier) (rest : List String) :
    Script.part block (Script.opening shape ++
      (earlier ++ block :: later).flatMap chart.partTexts ++ rest) = chart.blockTexts block := by
  have unheaded : "# " ++ block.title ++ " Definition" ∉
      Script.opening shape ++ earlier.flatMap chart.partTexts := by
    rw [List.mem_append, not_or]
    refine ⟨heading_not_mem_opening block shape, fun member => ?_⟩
    obtain ⟨other, before, inside⟩ := List.mem_flatMap.1 member
    refine heading_not_mem_partTexts chart ?_ inside
    rintro rfl
    exact first before
  have found := Script.part_eq (later.flatMap chart.partTexts ++ rest) unheaded
    (chart.empty_not_mem_blockTexts block)
  simpa only [List.flatMap_append, List.flatMap_cons, partTexts, List.append_assoc,
    List.cons_append, List.nil_append] using found

end Chart

namespace ConsistentChart

variable (checked : ConsistentChart) (options : ScriptOptions)

/-- The lines of the script of a chart, with its body at the outer level. -/
def outerLines : List String :=
  (checked.script options).outerLines (options.shapeFor checked.chart.figure.style)
    (options.indentFor checked.chart.figure.style)

/-- The body of a script stands between fixed lines. -/
theorem outerLines_eq :
    checked.outerLines options =
      Script.opening (options.shapeFor checked.chart.figure.style) ++
        [Block.figure, .axes, .data, .plot].flatMap checked.chart.partTexts ++
        Script.closing (options.shapeFor checked.chart.figure.style) := by
  rw [outerLines, script, Script.outerLines_arrange, Chart.map_render_body]

/-- Each part of a script holds the lines of its block. -/
theorem part_outerLines (block : Block) :
    Script.part block (checked.outerLines options) = checked.chart.blockTexts block := by
  rw [outerLines_eq]
  cases block with
  | figure => exact checked.chart.part_flatMap _ [] _ (by decide) _
  | axes => exact checked.chart.part_flatMap _ [.figure] _ (by decide) _
  | data => exact checked.chart.part_flatMap _ [.figure, .axes] _ (by decide) _
  | plot => exact checked.chart.part_flatMap _ [.figure, .axes, .data] _ (by decide) _

end ConsistentChart

end ChartScript
