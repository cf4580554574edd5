import ChartScript.Proofs.Consistency
import ChartScript.Proofs.Emission
import ChartScript.Proofs.IndexAnswers
import ChartScript.Proofs.Parts

/-!
# The invocations in the plot part of a script

Axes list the plots that they invoke, and the plot part of a script lists, for each plot, the axes
that invoke it. The pairs are the same in both directions: a plot and axes make one pair however
often and however spelled the axes list the plot. Each pair has one line, which draws when the axes
stand in a cell and is a remark otherwise.
-/

namespace ChartScript

namespace Chart

variable {chart : Chart}

/-- Each plot with the axes that invoke it: the plots in order, and for each the axes in order. -/
def invocations (chart : Chart) : List (Plot × Axes) :=
  chart.plots.flatMap fun plot =>
    (chart.axes.filter fun axes => ∃ invoked ∈ axes.plots, invoked.code = plot.name.code).map
      fun axes => (plot, axes)

/-- A pair is an invocation when the axes list the plot's code. -/
theorem mem_invocations {plot : Plot} {axes : Axes} :
    (plot, axes) ∈ chart.invocations ↔
      plot ∈ chart.plots ∧ axes ∈ chart.axes ∧
        ∃ invoked ∈ axes.plots, invoked.code = plot.name.code := by
  simp only [invocations, List.mem_flatMap, List.mem_map, List.mem_filter, decide_eq_true_eq,
    Prod.mk.injEq]
  constructor
  · rintro ⟨plot, listed, axes, found, rfl, rfl⟩
    exact ⟨listed, found⟩
  · rintro ⟨listed, found⟩
    exact ⟨plot, listed, axes, found, rfl, rfl⟩

/-- The plot part of a script shows the invocations of its chart, each in one line. -/
structure PlotsWritten (chart : Chart) (lines : List String) : Prop where
  /-- There is a line for each invocation. -/
  counted : (Script.part .plot lines).length = chart.invocations.length
  /-- An invocation by axes in a cell has, at its index, a line that draws the plot's own series in
  the plot's own style. -/
  drawn : ∀ (n : Nat) (plot : Plot) (axes : Axes) (x y : Identifier .data),
    chart.invocations[n]? = some (plot, axes) → plot.relation = .plot x y →
    (∃ cell, chart.figure.grid.Holds cell axes.name.code) →
      (Script.part .plot lines)[n]? =
        some (drawingText axes.name.code x.code y.code plot.lineStyle.label)
  /-- An invocation by axes without a cell has, at its index, a remark with the same call. -/
  loose : ∀ (n : Nat) (plot : Plot) (axes : Axes) (x y : Identifier .data),
    chart.invocations[n]? = some (plot, axes) → plot.relation = .plot x y →
    (∀ cell, ¬ chart.figure.grid.Holds cell axes.name.code) →
      (Script.part .plot lines)[n]? =
        some (looseDrawingText axes.name.code x.code y.code plot.lineStyle.label)
  /-- The line of an invocation does something exactly when its axes stand in a cell. -/
  live : ∀ (n : Nat) (plot : Plot) (axes : Axes) (line : String),
    chart.invocations[n]? = some (plot, axes) → (Script.part .plot lines)[n]? = some line →
      (Script.isRemark line = false ↔ ∃ cell, chart.figure.grid.Holds cell axes.name.code)
  /-- No plot and axes make two pairs. -/
  distinct : chart.invocations.Pairwise fun entry other =>
    ¬ (entry.1.name.code = other.1.name.code ∧ entry.2.name.code = other.2.name.code)
  /-- Whatever axes list is one invocation. -/
  represented : ∀ axes ∈ chart.axes, ∀ invoked ∈ axes.plots,
    chart.invocations.countP (fun entry =>
      entry.1.name.code = invoked.code ∧ entry.2.name.code = axes.name.code) = 1
  /-- A plot that no axes list is in no invocation. -/
  unused : ∀ plot ∈ chart.plots,
    (∀ axes ∈ chart.axes, ∀ invoked ∈ axes.plots, invoked.code ≠ plot.name.code) →
      ∀ entry ∈ chart.invocations, entry.1.name.code ≠ plot.name.code

/-- The texts of the plot block are those of the invocations, one by one. -/
theorem plotTexts_eq (chart : Chart) :
    chart.blockTexts .plot =
      chart.invocations.map fun entry => (chart.drawLine entry.1 entry.2.name).render := by
  simp only [blockTexts, blockLines, invocations, callers_eq, List.map_flatMap, List.map_map]
  rfl

/-- The line of an invocation by axes in a cell draws. -/
theorem drawLine_of_cell {plot : Plot} {axes : Identifier .axes} {x y : Identifier .data}
    {cell : Cell} (drawn : plot.relation = .plot x y)
    (found : chart.cellOf? axes.code = some cell) :
    (chart.drawLine plot axes).render =
      drawingText axes.code x.code y.code plot.lineStyle.label := by
  rw [drawLine, found]
  exact Line.render_draw drawn

/-- The line of an invocation by axes without a cell is a remark. -/
theorem drawLine_of_no_cell {plot : Plot} {axes : Identifier .axes} {x y : Identifier .data}
    (drawn : plot.relation = .plot x y) (none : chart.cellOf? axes.code = none) :
    (chart.drawLine plot axes).render =
      looseDrawingText axes.code x.code y.code plot.lineStyle.label := by
  rw [drawLine, none]
  exact Line.render_looseDraw drawn

/-- The line of an invocation does something exactly when its axes stand in a cell. -/
theorem isRemark_drawLine {plot : Plot} {axes : Identifier .axes} :
    Script.isRemark (chart.drawLine plot axes).render = false ↔
      ∃ cell, chart.figure.grid.Holds cell axes.code := by
  rw [Line.isRemark_render, drawLine]
  cases place : chart.cellOf? axes.code with
  | none =>
    have nowhere := Grid.cellOf?_eq_none_iff.1 place
    simpa [Line.isLoose] using nowhere
  | some cell =>
    have held := (Grid.cellOf?_first place).1
    simpa [Line.isLoose] using Exists.intro cell held

/-- A line of the plot block that does something draws on axes in a cell. -/
theorem exists_drawing_of_live {line : String}
    (live : line ∈ Script.live (chart.blockTexts .plot)) :
    ∃ plot axes x y, (plot, axes) ∈ chart.invocations ∧ plot.relation = .plot x y ∧
      (∃ cell, chart.figure.grid.Holds cell axes.name.code) ∧
      line = drawingText axes.name.code x.code y.code plot.lineStyle.label := by
  obtain ⟨member, acts⟩ := List.mem_filter.1 live
  rw [plotTexts_eq] at member
  obtain ⟨⟨plot, axes⟩, invoked, rfl⟩ := List.mem_map.1 member
  obtain ⟨cell, held⟩ := isRemark_drawLine.1 (by simpa using acts)
  obtain ⟨x, y, drawn⟩ := plot.relation.exists_plot
  refine ⟨plot, axes, x, y, invoked, drawn, ⟨cell, held⟩, ?_⟩
  cases place : chart.cellOf? axes.name.code with
  | none => exact absurd held (Grid.cellOf?_eq_none_iff.1 place cell)
  | some found => exact drawLine_of_cell drawn place

/-- In a coherent chart, no plot and axes make two invocations. -/
theorem Coherent.invocations_distinct (coherent : chart.Coherent) :
    chart.invocations.Pairwise fun entry other =>
      ¬ (entry.1.name.code = other.1.name.code ∧ entry.2.name.code = other.2.name.code) := by
  rw [invocations, List.pairwise_flatMap]
  constructor
  · intro plot _
    rw [List.pairwise_map]
    apply (coherent.axesDiffer.filter _).imp
    rintro axes other differ ⟨-, same⟩
    exact differ same
  · apply coherent.plotsDiffer.imp
    rintro plot other differ entry member entry' member' ⟨same, -⟩
    obtain ⟨axes, -, rfl⟩ := List.mem_map.1 member
    obtain ⟨axes', -, rfl⟩ := List.mem_map.1 member'
    exact differ same

/-- In a coherent chart, whatever axes list is one invocation. -/
theorem Coherent.invocation_represented (coherent : chart.Coherent) {axes : Axes}
    (found : axes ∈ chart.axes) {invoked : Identifier .plot} (listed : invoked ∈ axes.plots) :
    chart.invocations.countP (fun entry =>
      entry.1.name.code = invoked.code ∧ entry.2.name.code = axes.name.code) = 1 := by
  apply Nat.le_antisymm
  · apply countP_le_one_of_pairwise
    apply coherent.invocations_distinct.imp
    intro entry other differ counts
    simp only [decide_eq_true_eq] at counts
    exact differ ⟨counts.1.1.trans counts.2.1.symm, counts.1.2.trans counts.2.2.symm⟩
  · rw [Nat.succ_le_iff, List.countP_pos_iff]
    obtain ⟨plot, member, same⟩ := coherent.invocationsMet axes found invoked listed
    exact ⟨(plot, axes), mem_invocations.2 ⟨member, found, invoked, listed, same.symm⟩,
      decide_eq_true ⟨same, rfl⟩⟩

end Chart

/-- A consistent chart is rendered as a script whose parts are those of the chart. -/
theorem ConsistentChart.exists_rendered (checked : ConsistentChart) (options : ScriptOptions) :
    ∃ script, (checked.render options).value = .ok script ∧
      ∀ block, Script.part block (script.outerLines
          (options.shapeFor checked.chart.figure.style)
          (options.indentFor checked.chart.figure.style)) =
        checked.chart.blockTexts block :=
  ⟨checked.script options, checked.value_render options, checked.part_outerLines options⟩

/-- A consistent chart is rendered, and the plot part of its script shows the invocations of the
chart: none is lost, doubled or made up. -/
theorem ConsistentChart.plots_written (checked : ConsistentChart) (options : ScriptOptions) :
    ∃ script, (checked.render options).value = .ok script ∧
      checked.chart.PlotsWritten (script.outerLines
        (options.shapeFor checked.chart.figure.style)
        (options.indentFor checked.chart.figure.style)) := by
  have coherent := checked.coherent
  obtain ⟨script, rendered, parts⟩ := checked.exists_rendered options
  have texts := (parts .plot).trans checked.chart.plotTexts_eq
  refine ⟨script, rendered, ?_⟩
  constructor
  · rw [texts, List.length_map]
  · rintro n plot axes x y found drawn ⟨cell, held⟩
    rw [texts, List.getElem?_map, found, Option.map_some,
      Chart.drawLine_of_cell drawn (coherent.cellOf?_eq_some held)]
  · intro n plot axes x y found drawn none
    rw [texts, List.getElem?_map, found, Option.map_some,
      Chart.drawLine_of_no_cell drawn (Grid.cellOf?_eq_none_iff.2 none)]
  · intro n plot axes line found inside
    rw [texts, List.getElem?_map, found, Option.map_some, Option.some_inj] at inside
    rw [← inside]
    exact Chart.isRemark_drawLine
  · exact coherent.invocations_distinct
  · intro axes found invoked listed
    exact coherent.invocation_represented found listed
  · rintro plot - unlisted ⟨plot', axes⟩ member same
    obtain ⟨-, found, invoked, listed, code⟩ := Chart.mem_invocations.1 member
    exact unlisted axes found invoked listed (code.trans same)

end ChartScript
