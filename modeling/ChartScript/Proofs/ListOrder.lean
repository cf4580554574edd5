import ChartScript.Proofs.Warnings
import Mathlib.Data.List.Perm.Basic

/-!
# The order of declarations

The axes, the plots and the series of a chart are lists, and the order of a list shows in the order
of lines and warnings. It shows nowhere else: parts refer to each other by their codes, and what is
found under a code hangs on the lists and the grid but not on the order in which a list is walked.
So charts that differ in the order of their lists are confirmed alike, and their scripts hold the
same lines.
-/

namespace ChartScript

namespace Chart

/-- Another chart has the same figure and the same axes, plots and series, in any order. -/
structure Reorders (chart other : Chart) : Prop where
  /-- The identifier is the same. -/
  id : other.id = chart.id
  /-- The figure is the same. -/
  figure : other.figure = chart.figure
  /-- The axes are the same but for their order. -/
  axes : other.axes.Perm chart.axes
  /-- The plots are the same but for their order. -/
  plots : other.plots.Perm chart.plots
  /-- The series are the same but for their order. -/
  series : other.series.Perm chart.series

namespace Reorders

variable {chart other : Chart}

/-- Reordering can be undone. -/
theorem symm (reorders : chart.Reorders other) : other.Reorders chart :=
  ⟨reorders.id.symm, reorders.figure.symm, reorders.axes.symm, reorders.plots.symm,
    reorders.series.symm⟩

/-- The parts of a chart fit together in any order. -/
theorem coherent (reorders : chart.Reorders other) (coherent : chart.Coherent) :
    other.Coherent where
  axesDiffer := (reorders.axes.pairwise_iff Ne.symm).2 coherent.axesDiffer
  plotsDiffer := (reorders.plots.pairwise_iff Ne.symm).2 coherent.plotsDiffer
  seriesDiffer := (reorders.series.pairwise_iff Ne.symm).2 coherent.seriesDiffer
  sized := reorders.figure ▸ coherent.sized
  cellsMet := by
    rw [reorders.figure]
    simpa only [reorders.axes.mem_iff] using coherent.cellsMet
  invocationsMet := by
    simpa only [reorders.axes.mem_iff, reorders.plots.mem_iff] using coherent.invocationsMet
  drawingsMet := by
    simpa only [reorders.plots.mem_iff, reorders.series.mem_iff] using coherent.drawingsMet
  placedOnce := reorders.figure ▸ coherent.placedOnce

/-- The cell of a code is the same. -/
theorem cellOf? (reorders : chart.Reorders other) (code : String) :
    other.cellOf? code = chart.cellOf? code := by
  rw [Chart.cellOf?, Chart.cellOf?, reorders.figure]

/-- The callers of a plot are the same but for their order. -/
theorem callers (reorders : chart.Reorders other) (code : String) :
    (other.callers code).Perm (chart.callers code) :=
  (reorders.axes.filter _).map _

/-- The line about axes is the same. -/
theorem axesLine (reorders : chart.Reorders other) (axes : Identifier .axes) :
    other.axesLine axes = chart.axesLine axes := by
  rw [Chart.axesLine, Chart.axesLine, reorders.cellOf?]

/-- The line about a plot on axes is the same. -/
theorem drawLine (reorders : chart.Reorders other) (plot : Plot) (axes : Identifier .axes) :
    other.drawLine plot axes = chart.drawLine plot axes := by
  rw [Chart.drawLine, Chart.drawLine, reorders.cellOf?]

/-- The figure block is the same. -/
theorem figureLines (reorders : chart.Reorders other) :
    other.blockLines .figure = chart.blockLines .figure := by
  rw [blockLines, blockLines, reorders.figure]

/-- A block has the same lines but for their order. -/
theorem blockLines (reorders : chart.Reorders other) (block : Block) :
    (other.blockLines block).Perm (chart.blockLines block) := by
  cases block with
  | figure => exact .of_eq reorders.figureLines
  | axes =>
    simp only [Chart.blockLines, reorders.axesLine]
    exact reorders.axes.map _
  | data => exact reorders.series.map _
  | plot =>
    -- The plots change their order outside, and the axes that invoke each of them inside.
    simp only [Chart.blockLines, funext (reorders.drawLine _)]
    exact reorders.plots.flatMap fun plot _ => (reorders.callers plot.name.code).map _

/-- The body has the same lines but for their order. -/
theorem body (reorders : chart.Reorders other) : other.body.Perm chart.body :=
  List.Perm.flatMap_left _ fun block _ => ((reorders.blockLines block).cons _).append_right _

/-- The code of a plot is ignored by the axes in any order. -/
theorem ignores_iff (reorders : chart.Reorders other) (code : String) :
    other.Ignores code ↔ chart.Ignores code := by
  simp only [Ignores, reorders.axes.mem_iff]

end Reorders

end Chart

/-- Entries of a list that are chosen without regard to their indices. -/
theorem map_filter_zipIdx {α β : Type} (items : List α) (p : α → Bool) (f : α → β) :
    ((items.zipIdx.filter fun entry => p entry.1).map fun entry => f entry.1) =
      (items.filter p).map f := by
  have entries : items.zipIdx.map Prod.fst = items := List.zipIdx_map_fst 0 items
  calc ((items.zipIdx.filter fun entry => p entry.1).map fun entry => f entry.1)
    _ = (((items.zipIdx.map Prod.fst).filter p).map f) := by
        rw [List.filter_map, List.map_map]
        rfl
    _ = (items.filter p).map f := by rw [entries]

namespace Chart

/-- The words of a chart's warnings, by the axes and plots that they are about. -/
theorem messages_warnings (chart : Chart) :
    chart.warnings.map Warning.message =
      ((chart.axes.filter fun axes => chart.figure.grid.Lacks axes.name.code).map fun axes =>
        axes.name.code ++ " is not assigned into any subplot") ++
      ((chart.plots.filter fun plot => chart.Ignores plot.name.code).map fun plot =>
        "plot '" ++ plot.name.raw ++ "' is not used by any axes") := by
  have words := congrArg (List.map Prod.snd) chart.warnings_eq_leftOut
  simp only [leftOut, List.map_append, List.map_map, Function.comp_def] at words
  refine words.trans (congrArg₂ _ ?_ ?_)
  · exact map_filter_zipIdx chart.axes (fun axes => chart.figure.grid.Lacks axes.name.code)
      fun axes => axes.name.code ++ " is not assigned into any subplot"
  · exact map_filter_zipIdx chart.plots (fun plot => chart.Ignores plot.name.code)
      fun plot => "plot '" ++ plot.name.raw ++ "' is not used by any axes"

/-- The warnings have the same words but for their order. -/
theorem Reorders.messages {chart other : Chart} (reorders : chart.Reorders other) :
    (other.warnings.map Warning.message).Perm (chart.warnings.map Warning.message) := by
  simp only [messages_warnings, reorders.figure, reorders.ignores_iff]
  exact ((reorders.axes.filter _).map _).append ((reorders.plots.filter _).map _)

end Chart

namespace Script

/-- Bodies with the same lines give scripts with the same lines. -/
theorem perm_arrange (shape : ScriptShape) (style : IndentStyle) {body other : List String}
    (same : other.Perm body) :
    (arrange shape style other).lines.Perm (arrange shape style body).lines := by
  cases shape with
  | procedure => exact ((same.append_left _).append_right _).append_right _
  | function =>
    exact ((((same.map _).append_left _).append_right _).append_right _).append_right _

/-- Two scripts, one in the shape and style of the other, hold the same lines in each part. -/
structure SameParts (shape : ScriptShape) (style : IndentStyle) (script other : Script) :
    Prop where
  /-- The figure part is the same. -/
  figure : part .figure (other.outerLines shape style) =
    part .figure (script.outerLines shape style)
  /-- Each part has the same lines but for their order. -/
  parts : ∀ block, (part block (other.outerLines shape style)).Perm
    (part block (script.outerLines shape style))
  /-- Among these, the same lines do something. -/
  live : ∀ block, (live (part block (other.outerLines shape style))).Perm
    (live (part block (script.outerLines shape style)))
  /-- The scripts as a whole have the same lines but for their order. -/
  lines : other.lines.Perm script.lines

end Script

/-- Two consistent charts warn of the same and are written with the same lines, whatever is
overridden. -/
structure ConsistentChart.SaysSame (checked other : ConsistentChart) : Prop where
  /-- The warnings have the same words but for their order. -/
  warned : (other.chart.warnings.map Warning.message).Perm
    (checked.chart.warnings.map Warning.message)
  /-- Both are written, and part by part with the same lines. -/
  written : ∀ options : ScriptOptions, ∃ script script',
    (checked.render options).value = .ok script ∧ (other.render options).value = .ok script' ∧
      Script.SameParts (options.shapeFor checked.chart.figure.style)
        (options.indentFor checked.chart.figure.style) script script'

/-- Charts that differ in the order of their declarations say the same. -/
theorem Chart.Reorders.saysSame {checked other : ConsistentChart}
    (reorders : checked.chart.Reorders other.chart) : checked.SaysSame other := by
  refine ⟨reorders.messages, fun options => ⟨checked.script options, other.script options,
    checked.value_render options, other.value_render options, ?_⟩⟩
  have parts := checked.part_outerLines options
  have parts' := other.part_outerLines options
  simp only [ConsistentChart.outerLines, reorders.figure] at parts parts'
  have same (block : Block) : (other.chart.blockTexts block).Perm
      (checked.chart.blockTexts block) := (reorders.blockLines block).map _
  constructor
  · rw [parts, parts', Chart.blockTexts, Chart.blockTexts, reorders.figureLines]
  · intro block
    rw [parts, parts']
    exact same block
  · intro block
    rw [parts, parts']
    exact (same block).filter _
  · rw [ConsistentChart.script, ConsistentChart.script, reorders.figure]
    exact Script.perm_arrange _ _ (reorders.body.map _)

namespace Chart

/-- A chart is confirmed in every order of its declarations or in none. Once it is confirmed, the
order shows in the order of its lines and warnings only. -/
theorem confirm_reordered {chart other : Chart} (reorders : chart.Reorders other) :
    ((∃ checked, chart.confirm.value = .ok checked) ↔
      ∃ checked, other.confirm.value = .ok checked) ∧
    ∀ checked checked', chart.confirm.value = .ok checked → other.confirm.value = .ok checked' →
      checked.chart = chart ∧ checked'.chart = other ∧ checked.SaysSame checked' := by
  constructor
  · rw [exists_confirmed_iff, exists_confirmed_iff]
    exact ⟨reorders.coherent, reorders.symm.coherent⟩
  · intro checked checked' confirmed confirmed'
    rw [value_confirm, check_eq_ok_iff] at confirmed confirmed'
    subst confirmed confirmed'
    exact ⟨rfl, rfl, reorders.saysSame⟩

/-- The chart with its lists turned round. -/
def turned (chart : Chart) : Chart :=
  ⟨chart.id, chart.figure, chart.axes.reverse, chart.plots.reverse, chart.series.reverse⟩

/-- Turning the lists round reorders a chart. -/
theorem reorders_turned (chart : Chart) : chart.Reorders chart.turned :=
  ⟨rfl, rfl, List.reverse_perm _, List.reverse_perm _, List.reverse_perm _⟩

/-- A chart with two plots on axes in a cell, one of them on axes without a cell too, and a plot
that no axes invoke. -/
def mixedChart : Chart where
  id := ⟨0x1b4e28ba2fa111d2883f0016d3cca427⟩
  figure := ⟨⟨1, 2⟩, [[none, some ⟨"d-e", by decide⟩]], ⟨none, .tab, .function⟩⟩
  axes := [⟨⟨"d_e", by decide⟩, [⟨"t", by decide⟩, ⟨"s", by decide⟩], none⟩,
    ⟨⟨"f", by decide⟩, [⟨"s", by decide⟩, ⟨"s", by decide⟩], none⟩]
  plots := [⟨⟨"s", by decide⟩, .plot ⟨"i", by decide⟩ ⟨"j", by decide⟩, none, .solid⟩,
    ⟨⟨"t", by decide⟩, .plot ⟨"j", by decide⟩ ⟨"i", by decide⟩, none, .dotted⟩,
    ⟨⟨"v", by decide⟩, .plot ⟨"i", by decide⟩ ⟨"i", by decide⟩, none, .none⟩]
  series := [⟨⟨"i", by decide⟩, []⟩, ⟨⟨"j", by decide⟩, []⟩]

/-- The chart is confirmed with its lists as they are and turned round, and says the same. -/
theorem confirm_reordered_mixedChart :
    mixedChart.Reorders mixedChart.turned ∧
      ∃ checked checked', mixedChart.confirm.value = .ok checked ∧
        mixedChart.turned.confirm.value = .ok checked' ∧ checked.SaysSame checked' := by
  have reorders := mixedChart.reorders_turned
  have accepted : ∃ checked, mixedChart.confirm.value = .ok checked := by
    rw [exists_confirmed_iff, ← inconsistencies_eq_nil_iff]
    decide
  obtain ⟨both, same⟩ := confirm_reordered reorders
  obtain ⟨checked, confirmed⟩ := accepted
  obtain ⟨checked', confirmed'⟩ := both.1 ⟨checked, confirmed⟩
  exact ⟨reorders, checked, checked', confirmed, confirmed',
    (same checked checked' confirmed confirmed').2.2⟩

end Chart

end ChartScript
