import ChartScript.Chart.Consistency
import ChartScript.Text.Quoted

/-!
# Lines of a script's body

The body of a script is a list of lines, each of which stands for what it does: open the figure,
bind axes to a cell, bind a series to its numbers, draw a plot on axes. Axes without a cell leave
their lines behind as remarks that do nothing. A line knows its text; no name reaches a line except
as the code of an identifier.
-/

namespace ChartScript

/-- Numbers in scripts: positional for leading powers -4 to 15 without a point on whole numbers,
else a signed exponent of at least two digits; a tie goes up. -/
def scriptNumbers : DecimalLayout := ⟨-4, 16, [], 2, .up⟩

/-- The list literal of numbers. -/
def numberList (values : List Binary64) : String :=
  "[" ++ ", ".intercalate (values.map scriptNumbers.render) ++ "]"

namespace Plot

/-- The leading arguments of a plot's call: the codes of its series. -/
def arguments (plot : Plot) : List String :=
  plot.relation.references.map fun reference => reference.2.code

/-- The named arguments of a plot's call, each with its literal. -/
def options (plot : Plot) : List (String × String) :=
  [("linestyle", Text.quoteLiteral plot.lineStyle.label)]

/-- The call of a plot without the axes it is drawn on. -/
def call (plot : Plot) : String :=
  let named := plot.options.map fun (name, value) => name ++ "=" ++ value
  plot.relation.tag ++ "(" ++ ", ".intercalate (plot.arguments ++ named) ++ ")"

end Plot

/-- The four parts of a body. -/
inductive Block where
  /-- The figure. -/
  | figure
  /-- The axes. -/
  | axes
  /-- The series. -/
  | data
  /-- The plots. -/
  | plot
  deriving DecidableEq, Repr

/-- The title of a part. -/
def Block.title : Block → String
  | .figure => "Figure"
  | .axes => "Axes"
  | .data => "Data"
  | .plot => "Plot"

/-- A line of a body. -/
inductive Line where
  /-- An empty line. -/
  | blank
  /-- The heading of a part. -/
  | heading (block : Block)
  /-- Opens the figure with its grid of subplots. -/
  | subplots (size : GridSize)
  /-- Binds axes to a cell. -/
  | bindAxes (axes : Identifier .axes) (cell : Cell)
  /-- What is left of the binding of axes without a cell. -/
  | looseAxes (axes : Identifier .axes)
  /-- Binds a series to its numbers. -/
  | bindSeries (series : Series)
  /-- Draws a plot on axes. -/
  | draw (axes : Identifier .axes) (plot : Plot)
  /-- What is left of drawing on axes without a cell. -/
  | looseDraw (axes : Identifier .axes) (plot : Plot)
  deriving DecidableEq

namespace Line

/-- A line that does nothing, with the reason. -/
def disabled (line : String) (axes : Identifier .axes) : String :=
  "# " ++ line ++ " # " ++ Warning.unplacedRemark axes

/-- The text of drawing a plot on axes. -/
def drawing (axes : Identifier .axes) (plot : Plot) : String := axes.code ++ "." ++ plot.call

/-- The text of a line. -/
def render : Line → String
  | .blank => ""
  | .heading block => "# " ++ block.title ++ " Definition"
  | .subplots size =>
    "fig, axes = plt.subplots(" ++ toString size.rows ++ ", " ++ toString size.columns ++
      ", squeeze=False)"
  | .bindAxes axes cell => axes.code ++ " = axes" ++ cell.render
  | .looseAxes axes => disabled (axes.code ++ " = axes[?][?]") axes
  | .bindSeries series => series.name.code ++ " = " ++ numberList series.values
  | .draw axes plot => drawing axes plot
  | .looseDraw axes plot => disabled (drawing axes plot) axes

end Line

namespace Chart

/-- The line that binds axes, or what is left of it. -/
def axesLine (chart : Chart) (axes : Identifier .axes) : Line :=
  match chart.cellOf? axes.code with
  | some cell => .bindAxes axes cell
  | none => .looseAxes axes

/-- The line that draws a plot on axes, or what is left of it. -/
def drawLine (chart : Chart) (plot : Plot) (axes : Identifier .axes) : Line :=
  match chart.cellOf? axes.code with
  | some _ => .draw axes plot
  | none => .looseDraw axes plot

/-- The lines of a part. -/
def blockLines (chart : Chart) : Block → List Line
  | .figure => [.subplots chart.figure.size]
  | .axes => chart.axes.map fun axes => chart.axesLine axes.name
  | .data => chart.series.map Line.bindSeries
  | .plot =>
    chart.plots.flatMap fun plot => (chart.callers plot.name.code).map (chart.drawLine plot)

/-- The body: each part under its heading, with an empty line after it. -/
def body (chart : Chart) : List Line :=
  [Block.figure, .axes, .data, .plot].flatMap fun block =>
    .heading block :: chart.blockLines block ++ [.blank]

end Chart

end ChartScript
