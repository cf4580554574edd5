import ChartScript.Proofs.Accepted
import ChartScript.Proofs.Emission

/-!
# What each stage tells

A text is read as a chart, the chart is confirmed, and its script is rendered. Each stage tells its
events behind those of the stage before, so what a shorter run tells is how a longer one starts. A
stage that is reached tells of its outcome, with the numbers that the outcome has: reading and
rendering once, confirming once if it fails and otherwise once for each warning. A stage that is not
reached tells nothing, and so does a text that is no document.
-/

namespace ChartScript

/-- An event as a reader of the log sees it. -/
structure Event.Entry where
  /-- How urgent it is. -/
  level : Level
  /-- The part of the program that tells it. -/
  target : String
  /-- Its message. -/
  message : String
  /-- Its named values. -/
  fields : List (String × String)
  deriving DecidableEq

/-- What a reader of the log sees of an event. -/
def Event.entry (event : Event) : Entry :=
  ⟨event.level, event.target, event.message, event.fields⟩

namespace Told

variable {α β : Type}

/-- The events of a step come behind those of the step before. -/
theorem events_andThen (first : Told α) (next : α → Told β) :
    (first.andThen next).events = first.events ++ (next first.value).events := rfl

variable {step : Told (Except Report α)} {next : α → Told (Except Report β)}

/-- A step that goes on with a result tells its events. -/
theorem events_onward_of_ok {value : α} (passed : step.value = .ok value) :
    (step.onward next).events = step.events ++ (next value).events := by
  rw [onward, events_andThen, passed]

/-- A step behind a report is not reached. -/
theorem events_onward_of_error {report : Report} (failed : step.value = .error report) :
    (step.onward next).events = step.events := by
  rw [onward, events_andThen, failed]
  exact List.append_nil _

end Told

/-- What is told about a text while it is read, confirmed and rendered. -/
structure EventsNest (options : ScriptOptions) (text : String) : Prop where
  /-- A text that is no document tells nothing. -/
  unreadable : ∀ fault, Json.read text = .error fault → (Chart.ofText text).events = []
  /-- A document tells once what its reading came to: a chart, with the lengths of its lists, or a
  report, with the number of its causes. -/
  read : ∀ value, Json.read text = .ok value →
    (∃ chart, (Chart.ofText text).value = .ok chart ∧
      (Chart.ofText text).events.map Event.entry =
        [⟨.debug, "figgen::request", "constructed request",
          [("request_id", chart.id.toText), ("axes", toString chart.axes.length),
            ("plots", toString chart.plots.length), ("data", toString chart.series.length)]⟩]) ∨
    ∃ report, (Chart.ofText text).value = .error report ∧
      (Chart.ofText text).events.map Event.entry =
        [⟨.debug, "figgen::request", "request construction failed",
          [("failures", toString report.causes.length)]⟩]
  /-- Nothing more is told about a text that no chart comes of. -/
  misread : ∀ report, (Chart.ofText text).value = .error report →
    (ConsistentChart.ofText text).value = .error report ∧
      (ConsistentChart.ofText text).events = (Chart.ofText text).events
  /-- About a chart it is told once that it was turned down, with the number of the causes, or each
  of its warnings is told, in order and with its place. -/
  confirmed : ∀ chart, (Chart.ofText text).value = .ok chart →
    ∃ own, (ConsistentChart.ofText text).events = (Chart.ofText text).events ++ own ∧
      ((∃ report, (ConsistentChart.ofText text).value = .error report ∧
        own.map Event.entry =
          [⟨.debug, "figgen::validate", "cross-reference validation failed",
            [("request_id", chart.id.toText), ("failures", toString report.causes.length)]⟩]) ∨
      ∃ checked, (ConsistentChart.ofText text).value = .ok checked ∧ checked.chart = chart ∧
        own.map Event.entry = checked.chart.warnings.map fun warning =>
          ⟨.warn, "figgen::validate", warning.message, [("location", warning.location.render)]⟩)
  /-- Nothing more is told about a text that is not rendered. -/
  refused : ∀ refusal, (Script.render options text).value = .error refusal →
    (Script.render options text).events = (ConsistentChart.ofText text).events
  /-- About a script it is told once that it was written, in the shape and with the indentation that
  it has in the end, and with the number of its lines. -/
  rendered : ∀ script, (Script.render options text).value = .ok script →
    ∃ checked own, (ConsistentChart.ofText text).value = .ok checked ∧
      (Script.render options text).events = (ConsistentChart.ofText text).events ++ own ∧
      own.map Event.entry =
        [⟨.debug, "figgen::writer::pyplot", "generated pyplot code",
          [("request_id", checked.chart.id.toText),
            ("shape", (options.shape.getD checked.chart.figure.style.shape).label),
            ("indent", (options.indent.getD checked.chart.figure.style.indent).label),
            ("lines", toString script.lines.length)]⟩]

namespace Chart

variable {text : String}

/-- A text that is a document tells what constructing its chart tells. -/
theorem ofText_of_read {value : Json} (document : Json.read text = .ok value) :
    ofText text = construct value := by
  rw [ofText, document]

/-- Constructing a chart tells the lengths of its lists. -/
theorem events_construct_of_ok {value : Json} {chart : Chart} (made : ofJson value = .ok chart) :
    (construct value).events =
      [.constructed chart.id chart.axes.length chart.plots.length chart.series.length] := by
  rw [construct, made]

/-- Constructing no chart tells the number of failures. -/
theorem events_construct_of_error {value : Json} {report : Report}
    (failed : ofJson value = .error report) :
    (construct value).events = [.constructionFailed report.failures.length] := by
  rw [construct, failed]

/-- Confirming a chart tells its warnings. -/
theorem events_confirm_of_ok {chart : Chart} {checked : ConsistentChart}
    (passed : chart.check = .ok checked) :
    chart.confirm.events = chart.warnings.map Event.warned := by
  rw [confirm, passed]

/-- Turning a chart down tells the number of failures. -/
theorem events_confirm_of_error {chart : Chart} {report : Report}
    (failed : chart.check = .error report) :
    chart.confirm.events = [.checkFailed chart.id report.failures.length] := by
  rw [confirm, failed]

end Chart

/-- Rendering a consistent chart tells of its script. -/
theorem ConsistentChart.events_render (checked : ConsistentChart) (options : ScriptOptions) :
    (checked.render options).events =
      [.written checked.chart.id (options.shapeFor checked.chart.figure.style)
        (options.indentFor checked.chart.figure.style) (checked.script options).lines.length] := by
  rw [render, checked.emit_eq]

/-- A report has as many causes as failures. -/
theorem Report.length_causes (report : Report) : report.causes.length = report.failures.length := by
  rw [causes, List.length_map]

/-- A text is told about stage by stage, whatever comes of it. -/
theorem Script.events_nest (options : ScriptOptions) (text : String) : EventsNest options text where
  unreadable fault unreadable := by
    rw [Chart.ofText, unreadable]
    rfl
  read value document := by
    rw [Chart.ofText_of_read document]
    cases made : Chart.ofJson value with
    | ok chart =>
      refine .inl ⟨chart, ?_, ?_⟩
      · rw [Chart.value_construct, made]
      · rw [Chart.events_construct_of_ok made]
        rfl
    | error report =>
      refine .inr ⟨report, ?_, ?_⟩
      · rw [Chart.value_construct, made]
      · rw [Chart.events_construct_of_error made, Report.length_causes]
        rfl
  misread report failed := by
    constructor
    · rw [ConsistentChart.ofText, Told.onward, Told.andThen, failed]
      rfl
    · exact Told.events_onward_of_error failed
  confirmed chart read := by
    refine ⟨chart.confirm.events, Told.events_onward_of_ok read, ?_⟩
    have handedOn : (ConsistentChart.ofText text).value = chart.confirm.value := by
      rw [ConsistentChart.ofText, Told.onward, Told.andThen, read]
    rw [handedOn, Chart.value_confirm]
    cases checked : chart.check with
    | error report =>
      refine .inl ⟨report, rfl, ?_⟩
      rw [Chart.events_confirm_of_error checked, Report.length_causes]
      rfl
    | ok consistent =>
      obtain rfl := Chart.check_eq_ok_iff.1 checked
      refine .inr ⟨consistent, rfl, rfl, ?_⟩
      rw [Chart.events_confirm_of_ok checked, List.map_map]
      rfl
  refused refusal failed := by
    rw [render_value] at failed
    split at failed
    · cases failed
    · next report rejected => exact events_render_of_error rejected
  rendered script rendered := by
    obtain ⟨checked, described, rfl⟩ := render_value_eq_ok_iff.1 rendered
    refine ⟨checked, (checked.render options).events, described, ?_, ?_⟩
    · rw [render, Told.events_andThen, described]
    · rw [ConsistentChart.events_render]
      rfl

end ChartScript
