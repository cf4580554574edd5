import ChartScript.Chart.Index
import ChartScript.Script.Layout

/-!
# Emission through an index

The script of a consistent chart is written with the look-ups of the chart's index: the cell of axes
and the axes that invoke a plot. The writer checks nothing by itself. A name that the index does not
hold ends the writing with the refusal of the index, and no part of the script is left.
-/

namespace ChartScript

namespace Index

variable (index : Index)

/-- The line that binds axes, or what is left of it. -/
def axesLine (axes : Identifier .axes) : Except Refusal Line := do
  match ← index.cellOf axes with
  | some cell => return .bindAxes axes cell
  | none => return .looseAxes axes

/-- The line that draws a plot on axes, or what is left of it. -/
def drawLine (plot : Plot) (axes : Identifier .axes) : Except Refusal Line := do
  match ← index.cellOf axes with
  | some _ => return .draw axes plot
  | none => return .looseDraw axes plot

/-- The lines that draw a plot, one for each axes that invoke it. -/
def plotLines (plot : Plot) : Except Refusal (List Line) := do
  (← index.callersOf plot.name).mapM (index.drawLine plot)

/-- The lines of a part of a chart. -/
def blockLines (chart : Chart) : Block → Except Refusal (List Line)
  | .figure => return [.subplots chart.figure.size]
  | .axes => chart.axes.mapM fun axes => index.axesLine axes.name
  | .data => return chart.series.map Line.bindSeries
  | .plot => return (← chart.plots.mapM index.plotLines).flatten

/-- The body of a chart: each part under its heading, with an empty line after it. -/
def body (chart : Chart) : Except Refusal (List Line) := do
  let parts ← [Block.figure, .axes, .data, .plot].mapM fun block =>
    return .heading block :: (← index.blockLines chart block) ++ [.blank]
  return parts.flatten

end Index

/-- The script of a consistent chart, written with the look-ups of its index. -/
def ConsistentChart.emit (options : ScriptOptions) (checked : ConsistentChart) :
    Except Refusal Script := do
  let style := checked.chart.figure.style
  let body ← (Index.ofChart checked.chart).body checked.chart
  return Script.arrange (options.shapeFor style) (options.indentFor style) (body.map Line.render)

end ChartScript
