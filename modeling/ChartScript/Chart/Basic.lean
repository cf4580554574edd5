import ChartScript.Failure
import ChartScript.Schema.Leaf

/-!
# Charts

A chart is a figure with a grid of cells, axes that stand in the cells, plots that axes invoke and
series that plots draw. Parts refer to each other by name, and a reference is met by every name
with the same code. Nothing here demands that references are met; that is checked for the chart as
a whole.
-/

namespace ChartScript

/-- How nested lines are indented. -/
inductive IndentStyle where
  /-- Four spaces for each level. -/
  | space
  /-- One tab for each level. -/
  | tab
  deriving DecidableEq, Repr

/-- The overall layout of a script. -/
inductive ScriptShape where
  /-- All lines at the outer level. -/
  | procedure
  /-- The body inside a function that returns the figure. -/
  | function
  deriving DecidableEq, Repr

/-- How a line is drawn. -/
inductive LineStyle where
  /-- Without gaps. -/
  | solid
  /-- Of dashes. -/
  | dashed
  /-- Of dashes and dots in turn. -/
  | dashdot
  /-- Of dots. -/
  | dotted
  /-- Not at all. -/
  | none
  deriving DecidableEq, Repr

instance : ClosedSet IndentStyle where
  members := [.space, .tab]
  label
    | .space => "space"
    | .tab => "tab"
  standard := .space

instance : ClosedSet ScriptShape where
  members := [.procedure, .function]
  label
    | .procedure => "procedure"
    | .function => "function"
  standard := .function

instance : ClosedSet LineStyle where
  members := [.solid, .dashed, .dashdot, .dotted, .none]
  label
    | .solid => "solid"
    | .dashed => "dashed"
    | .dashdot => "dashdot"
    | .dotted => "dotted"
    | .none => "none"
  standard := .solid

namespace IndentStyle

/-- The label of a style. -/
def label (style : IndentStyle) : String := ClosedSet.label style

/-- One level of indentation. -/
def unit : IndentStyle → String
  | .space => "    "
  | .tab => "\t"

end IndentStyle

namespace ScriptShape

/-- The label of a shape. -/
def label (shape : ScriptShape) : String := ClosedSet.label shape

/-- The shape that a flag asks for. -/
def ofFlag (isFunction : Bool) : ScriptShape := if isFunction then .function else .procedure

end ScriptShape

/-- The label of a line style. -/
def LineStyle.label (style : LineStyle) : String := ClosedSet.label style

/-- The declared size of a grid. -/
structure GridSize where
  /-- The number of rows. -/
  rows : Nat
  /-- The number of columns. -/
  columns : Nat
  deriving DecidableEq, Repr

/-- How the script of a figure is written. -/
structure FigureStyle where
  /-- A remark that is kept and never written. -/
  styleName : Option String
  /-- The indentation. -/
  indent : IndentStyle
  /-- The layout. -/
  shape : ScriptShape
  deriving DecidableEq

/-- The style of a figure that has none. -/
def FigureStyle.standard : FigureStyle := ⟨none, ClosedSet.standard, ClosedSet.standard⟩

/-- The cells of a figure, row by row. Rows may differ in length. -/
abbrev Grid := List (List (Option (Identifier .axes)))

namespace Grid

/-- The cells that are not empty, row by row, each with the name in it. -/
def placements (grid : Grid) : List (Cell × Identifier .axes) :=
  grid.zipIdx.flatMap fun (cells, row) =>
    cells.zipIdx.filterMap fun (content, column) => content.map fun name => (⟨row, column⟩, name)

/-- The first cell, row by row, with a name of this code. -/
def cellOf? (grid : Grid) (code : String) : Option Cell :=
  (grid.placements.find? fun placed => placed.2.code == code).map Prod.fst

end Grid

/-- A figure: its grid and the style of its script. -/
structure Figure where
  /-- The declared size of the grid. -/
  size : GridSize
  /-- The cells as they were given. -/
  grid : Grid
  /-- The style of the script. -/
  style : FigureStyle
  deriving DecidableEq

/-- Axes: one subplot, which draws plots. -/
structure Axes where
  /-- The name. -/
  name : Identifier .axes
  /-- The plots that the axes invoke, in order. -/
  plots : List (Identifier .plot)
  /-- A remark that is kept and never written. -/
  styleName : Option String
  deriving DecidableEq

/-- The axes invoke a plot of this code. -/
def Axes.invokes (axes : Axes) (code : String) : Bool :=
  axes.plots.any fun plot => plot.code == code

/-- How a plot relates series to each other. -/
inductive Relation where
  /-- A line through the points of two series. -/
  | plot (x y : Identifier .data)
  deriving DecidableEq

namespace Relation

/-- The tags of all relations. -/
def tags : List String := ["plot"]

/-- The tag of a relation, which is also the method that draws it. -/
def tag : Relation → String
  | .plot .. => "plot"

/-- The series of a relation, each with the field that names it. -/
def references : Relation → List (String × Identifier .data)
  | .plot x y => [("x", x), ("y", y)]

end Relation

/-- A plot: what is drawn, and how. -/
structure Plot where
  /-- The name. -/
  name : Identifier .plot
  /-- What is drawn. -/
  relation : Relation
  /-- A remark that is kept and never written. -/
  styleName : Option String
  /-- How the line is drawn. -/
  lineStyle : LineStyle
  deriving DecidableEq

/-- A series of numbers. -/
structure Series where
  /-- The name. -/
  name : Identifier .data
  /-- The numbers. -/
  values : List Binary64
  deriving DecidableEq

/-- A chart description. -/
structure Chart where
  /-- The identifier of the description. -/
  id : Uuid
  /-- The figure. -/
  figure : Figure
  /-- The axes in order. -/
  axes : List Axes
  /-- The plots in order. -/
  plots : List Plot
  /-- The series in order. -/
  series : List Series
  deriving DecidableEq

namespace Chart

/-- The axes that invoke a plot of this code, in order. -/
def callers (chart : Chart) (code : String) : List (Identifier .axes) :=
  (chart.axes.filter fun axes => axes.invokes code).map Axes.name

/-- The cell of axes of this code, if they stand in one. -/
def cellOf? (chart : Chart) (code : String) : Option Cell := chart.figure.grid.cellOf? code

end Chart

end ChartScript
