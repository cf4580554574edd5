import ChartScript.Proofs.AxesPart
import ChartScript.Proofs.Emission

/-!
# Warnings and the lines they are about

A chart warns of axes in no cell and of plots that no axes list. The writer meets both again: the
binding of such axes is a remark, and such plots have no line. Warnings and lines come of two
separate walks over the index of the chart, and both are compared here with the lists and the grid of
the chart, so that they agree on every axes and every plot, the words of the remark included.
-/

namespace ChartScript

namespace Grid

variable {grid : Grid} {code : String}

/-- No row has a name of a code. -/
def Lacks (grid : Grid) (code : String) : Prop :=
  ∀ cells ∈ grid, ∀ content ∈ cells, ∀ name ∈ content, name.code ≠ code

instance (grid : Grid) (code : String) : Decidable (grid.Lacks code) :=
  inferInstanceAs (Decidable (∀ cells ∈ grid, _))

/-- A grid lacks a code exactly when no cell holds it. -/
theorem lacks_iff : grid.Lacks code ↔ ∀ cell, ¬ grid.Holds cell code := by
  constructor
  · rintro lacks cell ⟨name, held, same⟩
    obtain ⟨cells, found, inRow⟩ := Option.bind_eq_some_iff.1 (Option.join_eq_some_iff.1 held)
    exact lacks cells (List.mem_of_getElem? found) _ (List.mem_of_getElem? inRow) name rfl same
  · rintro nowhere cells member content inside name rfl same
    obtain ⟨row, found⟩ := List.mem_iff_getElem?.1 member
    obtain ⟨column, inRow⟩ := List.mem_iff_getElem?.1 inside
    refine nowhere ⟨row, column⟩ ⟨name, ?_, same⟩
    rw [at?, found, Option.bind_some, inRow, Option.join_some]

/-- A code has no cell exactly when the grid lacks it. -/
theorem cellOf?_eq_none_iff_lacks : grid.cellOf? code = none ↔ grid.Lacks code := by
  rw [lacks_iff, cellOf?_eq_none_iff]

end Grid

namespace Script

/-- What stands behind the last number sign that a blank follows, if there is one. -/
def annotation? : List Char → Option (List Char)
  | [] => none
  | c :: rest =>
    (annotation? rest).or (if c = '#' ∧ rest.head? = some ' ' then some rest.tail else none)

/-- A text without a number sign has no annotation. -/
theorem annotation?_of_not_mem {text : List Char} (clear : '#' ∉ text) :
    annotation? text = none := by
  induction text with
  | nil => rfl
  | cons c rest ih =>
    rw [List.mem_cons, not_or] at clear
    rw [annotation?, ih clear.2, Option.none_or, if_neg fun mark => clear.1 mark.1.symm]

/-- A text without a number sign is the annotation of the lines that end in it. -/
theorem annotation?_append (before : List Char) {text : List Char} (clear : '#' ∉ text) :
    annotation? (before ++ '#' :: ' ' :: text) = some text := by
  induction before with
  | nil =>
    have behind : annotation? (' ' :: text) = none := by
      apply annotation?_of_not_mem
      rw [List.mem_cons, not_or]
      exact ⟨by decide, clear⟩
    rw [List.nil_append, annotation?, behind, Option.none_or, if_pos ⟨rfl, rfl⟩, List.tail_cons]
  | cons c before ih => rw [List.cons_append, annotation?, ih, Option.some_or]

end Script

namespace Chart

/-- No axes list a code. -/
def Ignores (chart : Chart) (code : String) : Prop :=
  ∀ axes ∈ chart.axes, ∀ invoked ∈ axes.plots, invoked.code ≠ code

instance (chart : Chart) (code : String) : Decidable (chart.Ignores code) :=
  inferInstanceAs (Decidable (∀ axes ∈ chart.axes, _))

/-- The place of the axes at an index of a description. -/
def axesAt (i : Nat) : Location := ⟨[.key "axes", .index i]⟩

/-- The place of the plot at an index of a description. -/
def plotAt (i : Nat) : Location := ⟨[.key "plot", .index i]⟩

/-- What a chart should warn of, with the place and the words: the axes in no cell, then the plots
that no axes list, each in order. -/
def leftOut (chart : Chart) : List (Location × String) :=
  ((chart.axes.zipIdx.filter fun entry => chart.figure.grid.Lacks entry.1.name.code).map
    fun entry => (axesAt entry.2, entry.1.name.code ++ " is not assigned into any subplot")) ++
  ((chart.plots.zipIdx.filter fun entry => chart.Ignores entry.1.name.code).map
    fun entry => (plotAt entry.2, "plot '" ++ entry.1.name.raw ++ "' is not used by any axes"))

variable {chart : Chart}

/-- The index places axes of the chart unless the grid lacks them. -/
theorem isPlaced_ofChart {axes : Axes} (member : axes ∈ chart.axes) :
    (Index.ofChart chart).isPlaced axes.name = true ↔
      ¬ chart.figure.grid.Lacks axes.name.code := by
  rw [Index.isPlaced_iff, Index.cellOf_ofChart member, ← Grid.cellOf?_eq_none_iff_lacks, ← Ne,
    Option.ne_none_iff_exists']
  simp only [Except.ok.injEq, cellOf?]

/-- A plot has no callers exactly when no axes list it. -/
theorem callers_eq_nil_iff {code : String} : chart.callers code = [] ↔ chart.Ignores code := by
  rw [callers_eq, List.map_eq_nil_iff, List.filter_eq_nil_iff]
  simp [Ignores]

/-- The index has a plot of the chart in use unless no axes list it. -/
theorem isUsed_ofChart {plot : Plot} (member : plot ∈ chart.plots) :
    (Index.ofChart chart).isUsed plot.name = true ↔ ¬ chart.Ignores plot.name.code := by
  rw [Index.isUsed_iff, Index.callersOf_ofChart member, ← callers_eq_nil_iff]
  simp only [Except.ok.injEq, exists_eq_left', Ne]

/-- The words about a plot that is not used, around its name. -/
theorem message_unused (i : Nat) (name : Identifier .plot) :
    (Warning.unused i name).message = "plot '" ++ name.raw ++ "' is not used by any axes" := by
  have shape : (Warning.unused i name).message =
      "plot " ++ ("'" ++ name.raw ++ "'") ++ " is not used by any axes" := rfl
  rw [shape, ← String.toList_inj]
  simp

/-- A chart warns of what is left out, and of nothing else. -/
theorem warnings_eq_leftOut (chart : Chart) :
    chart.warnings.map (fun warning => (warning.location, warning.message)) = chart.leftOut := by
  rw [warnings, leftOut, List.map_append]
  congr 1
  · apply map_filterMap_eq_map_filter
    rintro ⟨axes, i⟩ member
    have placed := isPlaced_ofChart (List.mem_of_getElem? (List.mem_zipIdx_iff_getElem?.1 member))
    dsimp only at placed ⊢
    by_cases lacks : chart.figure.grid.Lacks axes.name.code
    · rw [if_pos lacks, if_neg fun found => placed.1 found lacks]
      rfl
    · rw [if_neg lacks, if_pos (placed.2 lacks)]
      rfl
  · apply map_filterMap_eq_map_filter
    rintro ⟨plot, i⟩ member
    have used := isUsed_ofChart (List.mem_of_getElem? (List.mem_zipIdx_iff_getElem?.1 member))
    dsimp only at used ⊢
    by_cases ignores : chart.Ignores plot.name.code
    · rw [if_pos ignores, if_neg fun found => used.1 found ignores, Option.map_some,
        message_unused]
      rfl
    · rw [if_neg ignores, if_pos (used.2 ignores)]
      rfl

/-- What is left out are axes that the grid lacks and plots that no axes list. -/
theorem mem_leftOut {place : Location} {words : String} :
    (place, words) ∈ chart.leftOut ↔
      (∃ (i : Nat) (axes : Axes), chart.axes[i]? = some axes ∧
        chart.figure.grid.Lacks axes.name.code ∧ place = axesAt i ∧
          words = axes.name.code ++ " is not assigned into any subplot") ∨
      ∃ (i : Nat) (plot : Plot), chart.plots[i]? = some plot ∧ chart.Ignores plot.name.code ∧
        place = plotAt i ∧ words = "plot '" ++ plot.name.raw ++ "' is not used by any axes" := by
  simp only [leftOut, List.mem_append, List.mem_map, List.mem_filter, decide_eq_true_eq,
    Prod.exists, List.mem_zipIdx_iff_getElem?, Prod.mk.injEq]
  constructor
  · rintro (⟨axes, i, ⟨found, lacks⟩, rfl, rfl⟩ | ⟨plot, i, ⟨found, ignores⟩, rfl, rfl⟩)
    · exact .inl ⟨i, axes, found, lacks, rfl, rfl⟩
    · exact .inr ⟨i, plot, found, ignores, rfl, rfl⟩
  · rintro (⟨i, axes, found, lacks, rfl, rfl⟩ | ⟨i, plot, found, ignores, rfl, rfl⟩)
    · exact .inl ⟨axes, i, ⟨found, lacks⟩, rfl, rfl⟩
    · exact .inr ⟨plot, i, ⟨found, ignores⟩, rfl, rfl⟩

/-- A place and words are left out exactly when a warning has them. -/
theorem mem_leftOut_iff_warned {place : Location} {words : String} :
    (place, words) ∈ chart.leftOut ↔
      ∃ warning ∈ chart.warnings, warning.location = place ∧ warning.message = words := by
  simp only [← warnings_eq_leftOut, List.mem_map, Prod.mk.injEq]

/-- What is left out at the place of axes are these axes, if the grid lacks them. -/
theorem mem_leftOut_axesAt {i : Nat} {axes : Axes} (found : chart.axes[i]? = some axes)
    {words : String} :
    (axesAt i, words) ∈ chart.leftOut ↔ chart.figure.grid.Lacks axes.name.code ∧
      words = axes.name.code ++ " is not assigned into any subplot" := by
  rw [mem_leftOut]
  constructor
  · rintro (⟨j, other, found', lacks, same, rfl⟩ | ⟨j, plot, -, -, same, -⟩)
    · obtain rfl : i = j := by simpa [axesAt] using same
      rw [found] at found'
      cases found'
      exact ⟨lacks, rfl⟩
    · simp [axesAt, plotAt] at same
  · rintro ⟨lacks, rfl⟩
    exact .inl ⟨i, axes, found, lacks, rfl, rfl⟩

/-- What is left out at the place of a plot is this plot, if no axes list it. -/
theorem mem_leftOut_plotAt {i : Nat} {plot : Plot} (found : chart.plots[i]? = some plot)
    {words : String} :
    (plotAt i, words) ∈ chart.leftOut ↔ chart.Ignores plot.name.code ∧
      words = "plot '" ++ plot.name.raw ++ "' is not used by any axes" := by
  rw [mem_leftOut]
  constructor
  · rintro (⟨j, axes, -, -, same, -⟩ | ⟨j, other, found', ignores, same, rfl⟩)
    · simp [axesAt, plotAt] at same
    · obtain rfl : i = j := by simpa [plotAt] using same
      rw [found] at found'
      cases found'
      exact ⟨ignores, rfl⟩
  · rintro ⟨ignores, rfl⟩
    exact .inr ⟨i, plot, found, ignores, rfl, rfl⟩

/-- A place is warned of when something is left out there. -/
theorem warned_iff {place : Location} :
    (∃ warning ∈ chart.warnings, warning.location = place) ↔
      ∃ words, (place, words) ∈ chart.leftOut := by
  simp only [mem_leftOut_iff_warned]
  constructor
  · rintro ⟨warning, member, same⟩
    exact ⟨warning.message, warning, member, same, rfl⟩
  · rintro ⟨words, warning, member, same, -⟩
    exact ⟨warning, member, same⟩

/-- The warnings of a chart and the lines of its script agree. -/
structure WarningsAgree (chart : Chart) (lines : List String) : Prop where
  /-- The chart warns, in order, of the axes in no cell and of the plots that no axes list, at their
  places and in these words, and of nothing else. -/
  exact : chart.warnings.map (fun warning => (warning.location, warning.message)) = chart.leftOut
  /-- There is a line for each axes. -/
  counted : (Script.part .axes lines).length = chart.axes.length
  /-- There is a warning at axes exactly when their line is a remark. -/
  axes : ∀ (i : Nat) (line : String), (Script.part .axes lines)[i]? = some line →
    ((∃ warning ∈ chart.warnings, warning.location = axesAt i) ↔ Script.isRemark line = true)
  /-- The remark ends in the words of the warning. -/
  annotated : ∀ (i : Nat) (line : String), (Script.part .axes lines)[i]? = some line →
    ∀ warning ∈ chart.warnings, warning.location = axesAt i →
      Script.annotation? line.toList = some warning.message.toList
  /-- The plot part is what the writer emits for each plot, in order, and there is a warning at a
  plot exactly when nothing is emitted for it. -/
  plots : ∃ emitted : List (List Line),
    chart.plots.mapM (Index.ofChart chart).plotLines = .ok emitted ∧
    emitted.length = chart.plots.length ∧
    Script.part .plot lines = emitted.flatten.map Line.render ∧
    ∀ (i : Nat) (own : List Line), emitted[i]? = some own →
      ((∃ warning ∈ chart.warnings, warning.location = plotAt i) ↔ own = [])

/-- The remark that is left of a binding is annotated with what a warning says of the axes. -/
theorem annotation?_looseBindingText (axes : Identifier .axes) :
    Script.annotation? (looseBindingText axes.code).toList =
      some (axes.code ++ " is not assigned into any subplot").toList := by
  have clear : '#' ∉ (axes.code ++ " is not assigned into any subplot").toList := by
    rw [String.toList_append, List.mem_append, not_or]
    exact ⟨axes.not_mem_code (by decide), by decide⟩
  have split : (looseBindingText axes.code).toList =
      ('#' :: ' ' :: (axes.code.toList ++ " = axes[?][?] ".toList)) ++
        '#' :: ' ' :: (axes.code ++ " is not assigned into any subplot").toList := by
    simp [toList_looseBindingText]
  rw [split, Script.annotation?_append _ clear]

end Chart

/-- The warnings of a consistent chart agree with the script that is emitted for it, whatever is
overridden. -/
theorem ConsistentChart.warnings_agree (checked : ConsistentChart) (options : ScriptOptions) :
    ∃ script, (checked.render options).value = .ok script ∧
      checked.chart.WarningsAgree (script.outerLines
        (options.shapeFor checked.chart.figure.style)
        (options.indentFor checked.chart.figure.style)) := by
  have remark {axes : Axes} : Script.isRemark (checked.chart.axesLine axes.name).render = true ↔
      checked.chart.figure.grid.Lacks axes.name.code := by
    rw [← Grid.cellOf?_eq_none_iff_lacks]
    cases place : checked.chart.figure.grid.cellOf? axes.name.code with
    | none =>
      rw [Chart.axesLine_of_no_cell place, Chart.isRemark_looseBindingText]
      simp
    | some cell =>
      rw [Chart.axesLine_of_cell place, Chart.isRemark_bindingText]
      simp
  obtain ⟨script, rendered, parts⟩ := checked.exists_rendered options
  refine ⟨script, rendered, ?_⟩
  constructor
  · exact checked.chart.warnings_eq_leftOut
  · rw [parts, Chart.axesTexts_eq, List.length_map]
  · intro i line found
    rw [parts, Chart.getElem?_axesTexts] at found
    obtain ⟨axes, listed, rfl⟩ := Option.map_eq_some_iff.1 found
    rw [Chart.warned_iff, remark]
    simp only [Chart.mem_leftOut_axesAt listed, exists_and_left, exists_eq, and_true]
  · intro i line found warning member place
    rw [parts, Chart.getElem?_axesTexts] at found
    obtain ⟨axes, listed, rfl⟩ := Option.map_eq_some_iff.1 found
    obtain ⟨lacks, words⟩ := (Chart.mem_leftOut_axesAt listed).1
      (Chart.mem_leftOut_iff_warned.2 ⟨warning, member, place, rfl⟩)
    rw [words, Chart.axesLine_of_no_cell (Grid.cellOf?_eq_none_iff_lacks.2 lacks),
      Chart.annotation?_looseBindingText]
  · refine ⟨_, mapM_eq_ok_map fun plot => Index.plotLines_ofChart, List.length_map _, ?_, ?_⟩
    · rw [parts, Chart.blockTexts, Chart.blockLines, List.flatMap_def]
    · intro i own found
      rw [List.getElem?_map] at found
      obtain ⟨plot, listed, rfl⟩ := Option.map_eq_some_iff.1 found
      rw [Chart.warned_iff, List.map_eq_nil_iff, Chart.callers_eq_nil_iff]
      simp only [Chart.mem_leftOut_plotAt listed, exists_and_left, exists_eq, and_true]

end ChartScript
