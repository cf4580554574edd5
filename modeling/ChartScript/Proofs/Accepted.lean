import ChartScript.Description

/-!
# Accepted texts

A step that goes on with a result succeeds exactly when both steps do, so a text is accepted exactly
when it is a document that describes a consistent chart. A small text shows it.
-/

namespace ChartScript

/-- A result that is there is the one of a success. -/
theorem eq_ok_of_toOption {ε α : Type} {result : Except ε α} {value : α}
    (found : result.toOption = some value) : result = .ok value := by
  cases result with
  | error fault => cases found
  | ok other => exact congrArg _ (Option.some.inj found)

/-- Going on with a result succeeds when the step before gives one and the next step succeeds. -/
theorem Told.onward_value_eq_ok_iff {α β : Type} {step : Told (Except Report α)}
    {next : α → Told (Except Report β)} {result : β} :
    (step.onward next).value = .ok result ↔
      ∃ value, step.value = .ok value ∧ (next value).value = .ok result := by
  rw [onward, andThen]
  cases step.value with
  | ok value => simp
  | error report => simp [silent]

namespace Chart

/-- Constructing a chart gives what is read from the value. -/
theorem value_construct (value : Json) : (construct value).value = ofJson value := by
  rw [construct]
  cases ofJson value <;> rfl

/-- Confirming a chart gives the outcome of its check. -/
theorem value_confirm (chart : Chart) : chart.confirm.value = chart.check := by
  rw [confirm]
  cases chart.check <;> rfl

/-- A chart is confirmed exactly when its check finds nothing. -/
theorem check_eq_ok_iff {chart : Chart} {checked : ConsistentChart} :
    chart.check = .ok checked ↔ chart = checked.chart := by
  obtain ⟨other, consistent⟩ := checked
  rw [check]
  split
  · rw [Except.ok.injEq, ConsistentChart.mk.injEq]
  · next faulty =>
    constructor
    · rintro ⟨⟩
    · rintro rfl
      exact absurd consistent faulty

/-- A chart is turned down exactly when something is wrong with it as a whole, and all of that is
reported. -/
theorem check_eq_error_iff {chart : Chart} {report : Report} :
    chart.check = .error report ↔
      chart.inconsistencies ≠ [] ∧ report = ⟨chart.inconsistencies⟩ := by
  rw [check]
  split
  · next consistent => simp [consistent]
  · next faulty => simp [faulty, eq_comm]

end Chart

/-- A text describes a consistent chart exactly when it is a document whose value the chart comes
of. -/
theorem ConsistentChart.ofText_value_eq_ok_iff {text : String} {checked : ConsistentChart} :
    (ofText text).value = .ok checked ↔
      ∃ value, Json.read text = .ok value ∧ Chart.ofJson value = .ok checked.chart := by
  rw [ofText, Told.onward_value_eq_ok_iff]
  simp only [Chart.value_confirm, Chart.check_eq_ok_iff]
  rw [Chart.ofText]
  cases Json.read text with
  | ok value => simp [Chart.value_construct]
  | error fault => simp [Told.silent]

namespace Script

/-- A text with axes in a cell, a plot and a series without numbers. -/
def smallText : String :=
  "\x7b\"request_id\":\"1b4e28ba-2fa1-11d2-883f-0016d3cca427\",\"figure\":\x7b\"size\":" ++
  "\x7b\"row\":1,\"column\":1\x7d,\"axes\":[[\"a\"]]\x7d,\"axes\":[\x7b\"name\":\"a\"," ++
  "\"plot\":[\"p\"]\x7d],\"plot\":[\x7b\"name\":\"p\",\"data\":\x7b\"relation\":\"plot\"," ++
  "\"x\":\"x\",\"y\":\"x\"\x7d\x7d],\"data\":[\x7b\"name\":\"x\",\"value\":[]\x7d]\x7d"

/-- The script of the small text. -/
def smallScript : Script :=
  ⟨["import numpy as np", "import matplotlib.pyplot as plt", "", "", "def draw_figure():",
    "    # Figure Definition", "    fig, axes = plt.subplots(1, 1, squeeze=False)", "",
    "    # Axes Definition", "    axes_a = axes[0][0]", "",
    "    # Data Definition", "    data_x = []", "",
    "    # Plot Definition", "    axes_a.plot(data_x, data_x, linestyle='solid')", "",
    "    return fig", "", "", "# Render", "fig = draw_figure()", "fig.savefig(\"figure.png\")"]⟩

/-- The small text is rendered as its script. -/
theorem render_smallText : (render .none smallText).value = .ok smallScript := by
  apply eq_ok_of_toOption
  decide +kernel

end Script

end ChartScript
