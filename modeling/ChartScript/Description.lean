import ChartScript.Chart.Schema
import ChartScript.Event
import ChartScript.Script.Emission

/-!
# From a description to a script

A description is a JSON text. It becomes a chart, a consistent chart and a script, each step on
top of the one before, and each tells its events. A step that fails hands on the report of the
first one that turned the description down, and the steps after it tell nothing.

Rendering looks names up in the index of the chart, so by its type it could end in other refusals
than a report as well.
-/

namespace ChartScript

/-- Goes on with a result, unless it is a report. -/
def Told.onward {α β : Type} (step : Told (Except Report α))
    (next : α → Told (Except Report β)) : Told (Except Report β) :=
  step.andThen fun result =>
    match result with
    | .ok value => next value
    | .error report => .silent (.error report)

namespace Chart

/-- The chart that a value describes. -/
def construct (value : Json) : Told (Except Report Chart) :=
  match ofJson value with
  | .ok chart =>
    ⟨.ok chart,
      [.constructed chart.id chart.axes.length chart.plots.length chart.series.length]⟩
  | .error report => ⟨.error report, [.constructionFailed report.failures.length]⟩

/-- The chart that a text describes. A text that is no JSON document tells nothing. -/
def ofText (text : String) : Told (Except Report Chart) :=
  match Json.read text with
  | .ok value => construct value
  | .error fault => .silent (.error (.single ⟨.root, .unreadable fault⟩))

/-- The chart as a consistent one; its warnings are told. -/
def confirm (chart : Chart) : Told (Except Report ConsistentChart) :=
  match chart.check with
  | .ok checked => ⟨.ok checked, chart.warnings.map Event.warned⟩
  | .error report => ⟨.error report, [.checkFailed chart.id report.failures.length]⟩

end Chart

namespace ConsistentChart

/-- The consistent chart that a text describes. -/
def ofText (text : String) : Told (Except Report ConsistentChart) :=
  (Chart.ofText text).onward Chart.confirm

/-- Emits the script of a consistent chart. About an emission that fails nothing is told. -/
def render (options : ScriptOptions) (checked : ConsistentChart) :
    Told (Except Refusal Script) :=
  match checked.emit options with
  | .ok script =>
    let style := checked.chart.figure.style
    ⟨.ok script, [.written checked.chart.id (options.shapeFor style) (options.indentFor style)
      script.lines.length]⟩
  | .error refusal => .silent (.error refusal)

end ConsistentChart

/-- Renders the chart that a text describes; a text that is turned down is an invalid one. -/
def Script.render (options : ScriptOptions) (text : String) : Told (Except Refusal Script) :=
  (ConsistentChart.ofText text).andThen fun result =>
    match result with
    | .ok checked => checked.render options
    | .error report => .silent (.error (.invalid report))

end ChartScript
