import ChartScript.Description
import ChartScript.Proofs.IndexAnswers
import Mathlib.Data.List.Basic

/-!
# Emission never fails

The index of a chart holds every name that the writer asks for: plots come from the chart, and the
axes that invoke a plot are axes of the chart. So the look-ups answer with the cell and the callers
that the chart itself gives, no refusal of the index is ever met, and what is emitted is the script
of the chart. Rendering a text is therefore the same as writing the script of its chart.
-/

namespace ChartScript

/-- A traversal whose steps all succeed is a map. -/
theorem mapM_eq_ok_map {α β ε : Type} {f : α → Except ε β} {g : α → β} {entries : List α}
    (each : ∀ entry ∈ entries, f entry = .ok (g entry)) :
    entries.mapM f = .ok (entries.map g) := by
  induction entries with
  | nil => rfl
  | cons first rest ih =>
    obtain ⟨head, tail⟩ := List.forall_mem_cons.1 each
    rw [List.mapM_cons, head, ih tail]
    rfl

namespace Index

variable {chart : Chart}

/-- The index of a chart knows the callers of every plot of the chart. -/
theorem callersOf_ofChart {plot : Plot} (member : plot ∈ chart.plots) :
    (ofChart chart).callersOf plot.name = .ok (chart.callers plot.name.code) :=
  callersOf_of_declared ⟨plot, member, rfl⟩

/-- The index of a chart knows the cell of every axes of the chart. -/
theorem cellOf_ofChart {axes : Axes} (member : axes ∈ chart.axes) :
    (ofChart chart).cellOf axes.name = .ok (chart.cellOf? axes.name.code) :=
  cellOf_of_declared ⟨axes, member, rfl⟩

/-- The callers of a plot are axes of the chart. -/
theorem exists_axes_of_mem_callers {code : String} {name : Identifier .axes}
    (member : name ∈ chart.callers code) : ∃ axes ∈ chart.axes, axes.name = name := by
  obtain ⟨axes, listed, rfl⟩ := List.mem_map.1 member
  exact ⟨axes, (List.mem_filter.1 listed).1, rfl⟩

theorem axesLine_ofChart {axes : Axes} (member : axes ∈ chart.axes) :
    (ofChart chart).axesLine axes.name = .ok (chart.axesLine axes.name) := by
  rw [axesLine, cellOf_ofChart member, Chart.axesLine]
  cases chart.cellOf? axes.name.code <;> rfl

theorem drawLine_ofChart (plot : Plot) {axes : Axes} (member : axes ∈ chart.axes) :
    (ofChart chart).drawLine plot axes.name = .ok (chart.drawLine plot axes.name) := by
  rw [drawLine, cellOf_ofChart member, Chart.drawLine]
  cases chart.cellOf? axes.name.code <;> rfl

theorem plotLines_ofChart {plot : Plot} (member : plot ∈ chart.plots) :
    (ofChart chart).plotLines plot =
      .ok ((chart.callers plot.name.code).map (chart.drawLine plot)) := by
  have each : ∀ name ∈ chart.callers plot.name.code,
      (ofChart chart).drawLine plot name = .ok (chart.drawLine plot name) := by
    intro name called
    obtain ⟨axes, listed, rfl⟩ := exists_axes_of_mem_callers called
    exact drawLine_ofChart plot listed
  rw [plotLines, callersOf_ofChart member]
  exact mapM_eq_ok_map each

/-- Every part of a chart is written with the look-ups of its index. -/
theorem blockLines_ofChart (block : Block) :
    (ofChart chart).blockLines chart block = .ok (chart.blockLines block) := by
  cases block with
  | figure | data => rfl
  | axes => exact mapM_eq_ok_map fun axes member => axesLine_ofChart member
  | plot =>
    rw [blockLines, mapM_eq_ok_map fun plot member => plotLines_ofChart member, Chart.blockLines,
      List.flatMap_def]
    rfl

/-- The body of a chart is written with the look-ups of its index. -/
theorem body_ofChart : (ofChart chart).body chart = .ok chart.body := by
  have parts : ∀ block ∈ [Block.figure, .axes, .data, .plot],
      (do return .heading block :: (← (ofChart chart).blockLines chart block) ++ [.blank]) =
        (.ok (.heading block :: chart.blockLines block ++ [.blank]) : Except Refusal _) := by
    intro block _
    rw [blockLines_ofChart]
    rfl
  rw [body, mapM_eq_ok_map parts, Chart.body, List.flatMap_def]
  rfl

end Index

/-- What is emitted is the script of the chart. -/
theorem ConsistentChart.emit_eq (options : ScriptOptions) (checked : ConsistentChart) :
    checked.emit options = .ok (checked.script options) := by
  rw [emit, Index.body_ofChart]
  rfl

/-- Rendering a consistent chart gives its script. -/
theorem ConsistentChart.value_render (checked : ConsistentChart) (options : ScriptOptions) :
    (checked.render options).value = .ok (checked.script options) := by
  rw [render, checked.emit_eq]

/-- A text is rendered as the script of the consistent chart that it describes, and is turned down
with the report of the stage that found fault with it. -/
theorem Script.render_value (options : ScriptOptions) (text : String) :
    (render options text).value =
      match (ConsistentChart.ofText text).value with
      | .ok checked => .ok (checked.script options)
      | .error report => .error (.invalid report) := by
  rw [render, Told.andThen]
  cases (ConsistentChart.ofText text).value with
  | ok checked => exact checked.value_render options
  | error report => rfl

/-- A text is rendered exactly when it describes a consistent chart, as the script of the chart. -/
theorem Script.render_value_eq_ok_iff {options : ScriptOptions} {text : String} {script : Script} :
    (render options text).value = .ok script ↔
      ∃ checked, (ConsistentChart.ofText text).value = .ok checked ∧
        script = checked.script options := by
  rw [render_value]
  cases (ConsistentChart.ofText text).value with
  | ok checked => simp [eq_comm]
  | error report => simp

/-- About a text that is turned down nothing more is told when it is rendered. -/
theorem Script.events_render_of_error {options : ScriptOptions} {text : String} {report : Report}
    (refused : (ConsistentChart.ofText text).value = .error report) :
    (render options text).events = (ConsistentChart.ofText text).events := by
  rw [render, Told.andThen, refused]
  exact List.append_nil _

end ChartScript
