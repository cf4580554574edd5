import ChartScript.Proofs.Accepted
import ChartScript.Proofs.FirstCells
import ChartScript.Proofs.Repeated

/-!
# What the rules for whole charts demand

A chart is coherent when names differ within each list, the grid is of the declared size, every
reference is met and no code stands in two cells. The violations of a chart are spelled out by
index, kind and place, in the order of a report, without the searches of the rules. A chart is
confirmed exactly when it is coherent; otherwise the report lists the violations and nothing else.
-/

namespace ChartScript

/-- The class and the place of a failure, without its wording. -/
def Failure.mark (failure : Failure) : FailureKind × Location :=
  (failure.problem.kind, failure.location)

namespace Chart

/-- The parts of a chart fit together. -/
structure Coherent (chart : Chart) : Prop where
  /-- No two axes share a code. -/
  axesDiffer : chart.axes.Pairwise fun axes other => axes.name.code ≠ other.name.code
  /-- No two plots share a code. -/
  plotsDiffer : chart.plots.Pairwise fun plot other => plot.name.code ≠ other.name.code
  /-- No two series share a code. -/
  seriesDiffer : chart.series.Pairwise fun series other => series.name.code ≠ other.name.code
  /-- The grid has the declared number of rows, each with the declared number of columns. -/
  sized : chart.figure.grid.length = chart.figure.size.rows ∧
    ∀ cells ∈ chart.figure.grid, cells.length = chart.figure.size.columns
  /-- Every cell that is not empty names axes of the chart. -/
  cellsMet : ∀ cell name, chart.figure.grid.at? cell = some name →
    ∃ axes ∈ chart.axes, axes.name.code = name.code
  /-- Axes invoke plots of the chart only. -/
  invocationsMet : ∀ axes ∈ chart.axes, ∀ invoked ∈ axes.plots,
    ∃ plot ∈ chart.plots, plot.name.code = invoked.code
  /-- Plots draw series of the chart only. -/
  drawingsMet : ∀ plot ∈ chart.plots, ∀ x y, plot.relation = .plot x y →
    (∃ series ∈ chart.series, series.name.code = x.code) ∧
      ∃ series ∈ chart.series, series.name.code = y.code
  /-- No code stands in two cells. -/
  placedOnce : ∀ cell other code, chart.figure.grid.Holds cell code →
    chart.figure.grid.Holds other code → cell = other

/-- A cell names no axes of the chart. -/
def StrayCell (chart : Chart) (cell : Cell) : Prop :=
  ∃ name ∈ chart.figure.grid.at? cell, ∀ axes ∈ chart.axes, axes.name.code ≠ name.code

/-- The axes at an index invoke, in their list at another, no plot of the chart. -/
def StrayInvocation (chart : Chart) (i j : Nat) : Prop :=
  ∃ axes ∈ chart.axes[i]?, ∃ invoked ∈ axes.plots[j]?,
    ∀ plot ∈ chart.plots, plot.name.code ≠ invoked.code

/-- The plot at an index draws, under a field, no series of the chart. -/
def StrayDrawing (chart : Chart) (i : Nat) (field : String) : Prop :=
  ∃ plot ∈ chart.plots[i]?, ∃ reference ∈ plot.relation.references,
    reference.1 = field ∧ ∀ series ∈ chart.series, series.name.code ≠ reference.2.code

/-- The code in a cell stands in an earlier cell too. -/
def RepeatedCell (chart : Chart) (cell : Cell) : Prop :=
  ∃ name ∈ chart.figure.grid.at? cell, ∃ other ∈ chart.figure.grid.cells,
    other.Before cell ∧ ∃ earlier ∈ chart.figure.grid.at? other, earlier.code = name.code

instance (chart : Chart) (cell : Cell) : Decidable (chart.StrayCell cell) :=
  inferInstanceAs (Decidable (∃ name ∈ _, _))

instance (chart : Chart) (i j : Nat) : Decidable (chart.StrayInvocation i j) :=
  inferInstanceAs (Decidable (∃ axes ∈ _, _))

instance (chart : Chart) (i : Nat) (field : String) : Decidable (chart.StrayDrawing i field) :=
  inferInstanceAs (Decidable (∃ plot ∈ _, _))

instance (chart : Chart) (cell : Cell) : Decidable (chart.RepeatedCell cell) :=
  inferInstanceAs (Decidable (∃ name ∈ _, _))

/-- A list under a top-level key whose codes are not distinct. -/
def repetition (field : String) (codes : List String) : List (FailureKind × Location) :=
  if codes.Nodup then [] else [(.uniqueness, ⟨[.key field]⟩)]

/-- The place of a cell in a description. -/
def cellAt (cell : Cell) : Location :=
  ⟨[.key "figure", .key "axes", .index cell.row, .index cell.column]⟩

/-- What violates the rules for a whole chart, by class and place, in the order of a report. -/
def violations (chart : Chart) : List (FailureKind × Location) :=
  repetition "axes" chart.axesCodes ++ repetition "plot" chart.plotCodes ++
    repetition "data" chart.seriesCodes ++
    (if chart.figure.grid.length = chart.figure.size.rows ∧
        ∀ cells ∈ chart.figure.grid, cells.length = chart.figure.size.columns then []
      else [(.dimension, ⟨[.key "figure", .key "axes"]⟩)]) ++
    ((chart.figure.grid.cells.filter chart.StrayCell).map fun cell =>
      (.reference, cellAt cell)) ++
    ((List.range chart.axes.length).flatMap fun i =>
      ((List.range ((chart.axes[i]?.map Axes.plots).getD []).length).filter
        (chart.StrayInvocation i)).map fun j =>
          (.reference, ⟨[.key "axes", .index i, .key "plot", .index j]⟩)) ++
    ((List.range chart.plots.length).flatMap fun i =>
      (["x", "y"].filter (chart.StrayDrawing i)).map fun field =>
        (.reference, ⟨[.key "plot", .index i, .key "data", .key field]⟩)) ++
    ((chart.figure.grid.cells.filter chart.RepeatedCell).map fun cell =>
      (.placement, cellAt cell))

end Chart

/-- Failures that a list's entries give one by one, by class and place. -/
theorem map_filterMap_eq_map_filter {α β γ : Type} {items : List α} {f : α → Option β} {g : β → γ}
    {p : α → Prop} [DecidablePred p] {h : α → γ}
    (each : ∀ item ∈ items, (f item).map g = if p item then some (h item) else none) :
    (items.filterMap f).map g = (items.filter p).map h := by
  rw [List.map_filterMap, List.filterMap_congr each, ← List.filterMap_eq_map,
    List.filterMap_filter]
  simp only [decide_eq_true_eq, Function.comp_apply]

/-- Names that share a code violate one rule. -/
theorem repeatedFailures_marks {space : Namespace} (names : List (Identifier space)) :
    (repeatedFailures names).map Failure.mark =
      Chart.repetition space.label (names.map Identifier.code) := by
  rw [repeatedFailures, Chart.repetition]
  split
  · next none =>
    rw [if_pos (repeatedNames_eq_nil_iff.1 none)]
    rfl
  · next some =>
    rw [if_neg fun distinct => some (repeatedNames_eq_nil_iff.2 distinct)]
    rfl

namespace Figure

/-- A grid fits when its rows and columns are as declared. -/
theorem fits_iff {figure : Figure} :
    figure.fits = true ↔ figure.grid.length = figure.size.rows ∧
      ∀ cells ∈ figure.grid, cells.length = figure.size.columns := by
  simp only [fits, Bool.and_eq_true, beq_iff_eq, List.all_eq_true]

/-- A grid of another size violates one rule. -/
theorem shapeFailures_marks (figure : Figure) :
    figure.shapeFailures.map Failure.mark =
      if figure.grid.length = figure.size.rows ∧
          ∀ cells ∈ figure.grid, cells.length = figure.size.columns then []
      else [(.dimension, ⟨[.key "figure", .key "axes"]⟩)] := by
  simp only [shapeFailures, fits_iff]
  split <;> rfl

end Figure

namespace Chart

variable (chart : Chart)

/-- The cells that name no axes violate a rule each, row by row. -/
theorem cellFailures_marks :
    chart.cellFailures.map Failure.mark =
      (chart.figure.grid.cells.filter chart.StrayCell).map fun cell =>
        (.reference, cellAt cell) := by
  rw [cellFailures, Grid.placements_eq, List.filterMap_filterMap]
  apply map_filterMap_eq_map_filter
  intro cell _
  cases held : chart.figure.grid.at? cell with
  | none => simp [StrayCell, held]
  | some name =>
    have stray : chart.StrayCell cell ↔ chart.axesCodes.contains name.code = false := by
      simp [StrayCell, held, axesCodes]
    simp only [Option.map_some, Option.bind_some, stray]
    cases chart.axesCodes.contains name.code <;> rfl

/-- The invocations of no plot violate a rule each, axes by axes. -/
theorem invocationFailures_marks :
    chart.invocationFailures.map Failure.mark =
      (List.range chart.axes.length).flatMap fun i =>
        ((List.range ((chart.axes[i]?.map Axes.plots).getD []).length).filter
          (chart.StrayInvocation i)).map fun j =>
            (.reference, ⟨[.key "axes", .index i, .key "plot", .index j]⟩) := by
  rw [invocationFailures, flatMap_zipIdx, List.map_flatMap]
  apply List.flatMap_congr
  intro i member
  obtain ⟨axes, found⟩ : ∃ axes, chart.axes[i]? = some axes :=
    ⟨_, List.getElem?_eq_getElem (List.mem_range.1 member)⟩
  simp only [found, Option.elim_some, Option.map_some, Option.getD_some]
  rw [filterMap_zipIdx]
  apply map_filterMap_eq_map_filter
  intro j _
  cases listed : axes.plots[j]? with
  | none => simp [StrayInvocation, found, listed]
  | some invoked =>
    have stray : chart.StrayInvocation i j ↔ chart.plotCodes.contains invoked.code = false := by
      simp [StrayInvocation, found, listed, plotCodes]
    simp only [Option.bind_some, stray]
    cases chart.plotCodes.contains invoked.code <;> rfl

/-- The drawings of no series violate a rule each, plot by plot and `x` before `y`. -/
theorem drawingFailures_marks :
    chart.drawingFailures.map Failure.mark =
      (List.range chart.plots.length).flatMap fun i =>
        (["x", "y"].filter (chart.StrayDrawing i)).map fun field =>
          (.reference, ⟨[.key "plot", .index i, .key "data", .key field]⟩) := by
  rw [drawingFailures, flatMap_zipIdx, List.map_flatMap]
  apply List.flatMap_congr
  intro i member
  obtain ⟨plot, found⟩ : ∃ plot, chart.plots[i]? = some plot :=
    ⟨_, List.getElem?_eq_getElem (List.mem_range.1 member)⟩
  simp only [found, Option.elim_some]
  cases drawn : plot.relation with
  | plot x y =>
    have strayX : chart.StrayDrawing i "x" ↔ chart.seriesCodes.contains x.code = false := by
      simp [StrayDrawing, found, drawn, Relation.references, seriesCodes]
    have strayY : chart.StrayDrawing i "y" ↔ chart.seriesCodes.contains y.code = false := by
      simp [StrayDrawing, found, drawn, Relation.references, seriesCodes]
    simp only [Relation.references, List.filterMap_cons, List.filterMap_nil, List.filter_cons,
      List.filter_nil, strayX, strayY, decide_eq_true_eq]
    cases chart.seriesCodes.contains x.code <;> cases chart.seriesCodes.contains y.code <;> rfl

/-- The cells whose code stands in an earlier cell violate a rule each, row by row. -/
theorem placementFailures_marks :
    chart.figure.placementFailures.map Failure.mark =
      (chart.figure.grid.cells.filter chart.RepeatedCell).map fun cell =>
        (.placement, cellAt cell) := by
  rw [Figure.placementFailures_eq, Grid.placements_eq, List.filterMap_filterMap]
  apply map_filterMap_eq_map_filter
  intro cell _
  cases held : chart.figure.grid.at? cell with
  | none => simp [RepeatedCell, held]
  | some name =>
    simp only [Option.map_some, Option.bind_some]
    cases first : chart.figure.grid.cellOf? name.code with
    | none => exact absurd ⟨name, held, rfl⟩ (Grid.cellOf?_eq_none_iff.1 first cell)
    | some found =>
      obtain ⟨⟨earlier, inside, same⟩, least⟩ := Grid.cellOf?_first first
      have repeated : chart.RepeatedCell cell ↔ found ≠ cell := by
        constructor
        · rintro ⟨_, holds, other, -, before, twin, inside', same'⟩ rfl
          cases held.symm.trans holds
          exact least other ⟨twin, inside', same'⟩ before
        · intro different
          refine ⟨name, held, found, Grid.mem_cells_of_at? inside, ?_, earlier, inside, same⟩
          exact (Cell.before_or_before different).resolve_right (least cell ⟨name, held, rfl⟩)
      dsimp only
      by_cases stands : found = cell
      · rw [if_pos stands, if_neg fun other => repeated.1 other stands]
        rfl
      · rw [if_neg stands, if_pos (repeated.2 stands)]
        rfl

/-- The failures of a chart as a whole are its violations, in this order. -/
theorem inconsistencies_marks : chart.inconsistencies.map Failure.mark = chart.violations := by
  simp only [inconsistencies, violations, List.map_append, repeatedFailures_marks,
    Figure.shapeFailures_marks, cellFailures_marks, invocationFailures_marks,
    drawingFailures_marks, placementFailures_marks, List.map_map]
  rfl

/-- A list under a key violates no rule exactly when its codes are distinct. -/
theorem repetition_eq_nil_iff {field : String} {codes : List String} :
    repetition field codes = [] ↔ codes.Nodup := by
  unfold repetition
  split <;> simp_all

/-- No cell is stray exactly when every name in a cell is met. -/
theorem cellsMet_iff :
    (∀ cell ∈ chart.figure.grid.cells, ¬ chart.StrayCell cell) ↔
      ∀ cell name, chart.figure.grid.at? cell = some name →
        ∃ axes ∈ chart.axes, axes.name.code = name.code := by
  constructor
  · intro none cell name held
    by_contra unmet
    simp only [not_exists, not_and] at unmet
    exact none cell (Grid.mem_cells_of_at? held) ⟨name, held, unmet⟩
  · rintro met cell - ⟨name, held, unmet⟩
    obtain ⟨axes, member, same⟩ := met cell name held
    exact unmet axes member same

/-- No invocation is stray exactly when every invoked plot is there. -/
theorem invocationsMet_iff :
    (∀ i j, ¬ chart.StrayInvocation i j) ↔
      ∀ axes ∈ chart.axes, ∀ invoked ∈ axes.plots,
        ∃ plot ∈ chart.plots, plot.name.code = invoked.code := by
  constructor
  · intro none axes member invoked listed
    obtain ⟨i, found⟩ := List.mem_iff_getElem?.1 member
    obtain ⟨j, found'⟩ := List.mem_iff_getElem?.1 listed
    by_contra unmet
    simp only [not_exists, not_and] at unmet
    exact none i j ⟨axes, found, invoked, found', unmet⟩
  · rintro met i j ⟨axes, found, invoked, found', unmet⟩
    obtain ⟨plot, member, same⟩ :=
      met axes (List.mem_of_getElem? found) invoked (List.mem_of_getElem? found')
    exact unmet plot member same

/-- No drawing is stray exactly when every drawn series is there. -/
theorem drawingsMet_iff :
    (∀ i field, ¬ chart.StrayDrawing i field) ↔
      ∀ plot ∈ chart.plots, ∀ x y, plot.relation = .plot x y →
        (∃ series ∈ chart.series, series.name.code = x.code) ∧
          ∃ series ∈ chart.series, series.name.code = y.code := by
  constructor
  · intro none plot member x y drawn
    obtain ⟨i, found⟩ := List.mem_iff_getElem?.1 member
    have met : ∀ reference ∈ plot.relation.references,
        ∃ series ∈ chart.series, series.name.code = reference.2.code := by
      intro reference drawn
      by_contra unmet
      simp only [not_exists, not_and] at unmet
      exact none i reference.1 ⟨plot, found, reference, drawn, rfl, unmet⟩
    rw [drawn] at met
    exact ⟨met ("x", x) (by simp [Relation.references]),
      met ("y", y) (by simp [Relation.references])⟩
  · rintro met i field ⟨plot, found, reference, drawn, -, unmet⟩
    cases shape : plot.relation with
    | plot x y =>
      obtain ⟨metX, metY⟩ := met plot (List.mem_of_getElem? found) x y shape
      rw [shape] at drawn
      simp only [Relation.references, List.mem_cons, List.not_mem_nil, or_false] at drawn
      rcases drawn with rfl | rfl
      · obtain ⟨series, member, same⟩ := metX
        exact unmet series member same
      · obtain ⟨series, member, same⟩ := metY
        exact unmet series member same

/-- No cell is repeated exactly when no code stands in two cells. -/
theorem placedOnce_iff :
    (∀ cell ∈ chart.figure.grid.cells, ¬ chart.RepeatedCell cell) ↔
      ∀ cell other code, chart.figure.grid.Holds cell code →
        chart.figure.grid.Holds other code → cell = other := by
  constructor
  · intro none cell other code holds holds'
    have never : ∀ {cell other : Cell}, chart.figure.grid.Holds cell code →
        chart.figure.grid.Holds other code → ¬ other.Before cell := by
      rintro cell other ⟨name, held, rfl⟩ ⟨earlier, held', same⟩ before
      exact none cell (Grid.mem_cells_of_at? held)
        ⟨name, held, other, Grid.mem_cells_of_at? held', before, earlier, held', same⟩
    by_contra different
    rcases Cell.before_or_before different with before | before
    · exact never holds' holds before
    · exact never holds holds' before
  · rintro once cell - ⟨name, held, other, -, before, earlier, held', same⟩
    obtain rfl := once cell other name.code ⟨name, held, rfl⟩ ⟨earlier, held', same⟩
    exact Cell.not_before_self _ before

/-- Nothing violates the rules exactly when the parts of the chart fit together. -/
theorem violations_eq_nil_iff : chart.violations = [] ↔ chart.Coherent := by
  have invocations : (∀ i < chart.axes.length,
      ∀ j < ((chart.axes[i]?.map Axes.plots).getD []).length, ¬ chart.StrayInvocation i j) ↔
        ∀ i j, ¬ chart.StrayInvocation i j := by
    constructor
    · rintro none i j ⟨axes, found, invoked, found', unmet⟩
      refine none i (List.getElem?_eq_some_iff.1 found).1 j ?_ ⟨axes, found, invoked, found', unmet⟩
      rw [Option.mem_def.1 found]
      exact (List.getElem?_eq_some_iff.1 found').1
    · intro none i _ j _
      exact none i j
  have drawings : (∀ i < chart.plots.length, ∀ field ∈ ["x", "y"], ¬ chart.StrayDrawing i field) ↔
      ∀ i field, ¬ chart.StrayDrawing i field := by
    constructor
    · rintro none i field ⟨plot, found, reference, drawn, rfl, unmet⟩
      refine none i (List.getElem?_eq_some_iff.1 found).1 reference.1 ?_
        ⟨plot, found, reference, drawn, rfl, unmet⟩
      cases shape : plot.relation with
      | plot x y =>
        rw [shape] at drawn
        simp only [Relation.references, List.mem_cons, List.not_mem_nil, or_false] at drawn
        rcases drawn with rfl | rfl <;> simp
    · intro none i _ field _
      exact none i field
  simp only [violations, List.append_eq_nil_iff, repetition_eq_nil_iff, ite_eq_left_iff,
    List.map_eq_nil_iff, List.filter_eq_nil_iff, List.flatMap_eq_nil_iff, List.mem_range,
    decide_eq_true_eq, invocations, drawings, cellsMet_iff, invocationsMet_iff, drawingsMet_iff,
    placedOnce_iff, axesCodes, plotCodes, seriesCodes, List.Nodup, List.pairwise_map]
  constructor
  · rintro ⟨⟨⟨⟨⟨⟨⟨axes, plots⟩, series⟩, sized⟩, cells⟩, invocations⟩, drawings⟩, once⟩
    exact ⟨axes, plots, series, by simpa using sized, cells, invocations, drawings, once⟩
  · intro coherent
    exact ⟨⟨⟨⟨⟨⟨⟨coherent.axesDiffer, coherent.plotsDiffer⟩, coherent.seriesDiffer⟩,
      fun unfit => absurd coherent.sized unfit⟩, coherent.cellsMet⟩, coherent.invocationsMet⟩,
      coherent.drawingsMet⟩, coherent.placedOnce⟩

/-- Nothing is wrong with a chart as a whole exactly when its parts fit together. -/
theorem inconsistencies_eq_nil_iff : chart.inconsistencies = [] ↔ chart.Coherent := by
  rw [← violations_eq_nil_iff, ← inconsistencies_marks, List.map_eq_nil_iff]

end Chart

/-- The parts of a consistent chart fit together. -/
theorem ConsistentChart.coherent (checked : ConsistentChart) : checked.chart.Coherent :=
  checked.chart.inconsistencies_eq_nil_iff.1 checked.consistent

namespace Chart

/-- In a coherent chart, a cell that holds a code is the cell of the code. -/
theorem Coherent.cellOf?_eq_some {chart : Chart} (coherent : chart.Coherent) {cell : Cell}
    {code : String} (held : chart.figure.grid.Holds cell code) :
    chart.cellOf? code = some cell := by
  refine Grid.cellOf?_eq_some_iff.2 ⟨held, fun other held' before => ?_⟩
  rw [coherent.placedOnce other cell code held' held] at before
  exact Cell.not_before_self _ before

/-- In a coherent chart, every cell that holds a name lies inside the declared size. -/
theorem Coherent.inside {chart : Chart} (coherent : chart.Coherent) {cell : Cell}
    {name : Identifier .axes} (held : chart.figure.grid.at? cell = some name) :
    cell.row < chart.figure.size.rows ∧ cell.column < chart.figure.size.columns := by
  obtain ⟨rows, columns⟩ := coherent.sized
  obtain ⟨cells, found, inRow⟩ := Option.bind_eq_some_iff.1 (Option.join_eq_some_iff.1 held)
  have row := (List.getElem?_eq_some_iff.1 found).1
  have column := (List.getElem?_eq_some_iff.1 inRow).1
  rw [rows] at row
  rw [columns cells (List.mem_of_getElem? found)] at column
  exact ⟨row, column⟩

/-- A chart is confirmed exactly when it is coherent. -/
theorem exists_confirmed_iff {chart : Chart} :
    (∃ checked, chart.confirm.value = .ok checked) ↔ chart.Coherent := by
  simp only [value_confirm, check_eq_ok_iff, ← inconsistencies_eq_nil_iff]
  constructor
  · rintro ⟨checked, rfl⟩
    exact checked.consistent
  · intro consistent
    exact ⟨⟨chart, consistent⟩, rfl⟩

/-- A chart is confirmed exactly when its parts fit together; otherwise it is turned down with its
violations, each of them and in order. -/
theorem confirm_exact (chart : Chart) :
    ((∃ checked, chart.confirm.value = .ok checked ∧ checked.chart = chart) ↔ chart.Coherent) ∧
      (¬ chart.Coherent → ∃ report, chart.confirm.value = .error report ∧
        report.failures.map Failure.mark = chart.violations) := by
  constructor
  · constructor
    · rintro ⟨checked, -, rfl⟩
      exact checked.coherent
    · intro coherent
      have consistent := chart.inconsistencies_eq_nil_iff.2 coherent
      exact ⟨⟨chart, consistent⟩, by rw [confirm, check, dif_pos consistent], rfl⟩
  · intro incoherent
    have inconsistent : chart.inconsistencies ≠ [] := fun consistent =>
      incoherent (chart.inconsistencies_eq_nil_iff.1 consistent)
    exact ⟨⟨chart.inconsistencies⟩, by rw [confirm, check, dif_neg inconsistent],
      chart.inconsistencies_marks⟩

end Chart

end ChartScript
