import ChartScript.Proofs.Consistency

/-!
# How axes that are placed again are told

A grid of any shape may hold a code in many cells, spelled in many ways and with or without axes to
it. The first of these cells, row by row, is where the axes stand; each other cell has one failure,
which is at that cell, quotes the spelling in it and tells the first one. The first cell is the same
for all failures of a code, and it is the cell that an index has for axes with this code.
-/

namespace ChartScript

namespace Grid

variable {grid : Grid} {code : String} {cell first : Cell} {others : List Cell}

/-- The cells that hold a code, row by row. -/
def cellsOf (grid : Grid) (code : String) : List Cell :=
  grid.cells.filter fun cell => ∃ name ∈ grid.at? cell, name.code = code

/-- The cells of a code are those that hold it. -/
theorem mem_cellsOf : cell ∈ grid.cellsOf code ↔ grid.Holds cell code := by
  rw [cellsOf, List.mem_filter, decide_eq_true_eq]
  constructor
  · exact And.right
  · rintro ⟨name, held, same⟩
    exact ⟨mem_cells_of_at? held, name, held, same⟩

/-- The first of the cells of a code stands before the others. -/
theorem before_of_cellsOf (held : grid.cellsOf code = first :: others) :
    ∀ other ∈ others, first.Before other := by
  have order : (grid.cellsOf code).Pairwise Cell.Before := grid.pairwise_cells.filter _
  rw [held] at order
  exact (List.pairwise_cons.1 order).1

/-- The cell of a code is the first of its cells. -/
theorem cellOf?_of_cellsOf (held : grid.cellsOf code = first :: others) :
    grid.cellOf? code = some first := by
  refine cellOf?_eq_some_iff.2 ⟨mem_cellsOf.1 (held ▸ List.mem_cons_self), fun other holds => ?_⟩
  rcases List.mem_cons.1 (held ▸ mem_cellsOf.2 holds) with rfl | later
  · exact Cell.not_before_self _
  · exact (before_of_cellsOf held other later).asymm

end Grid

namespace Chart

variable {chart : Chart} {code : String} {cell first : Cell} {others : List Cell}

/-- Different cells have different places. -/
theorem cellAt_injective {cell other : Cell} (same : cellAt cell = cellAt other) :
    cell = other := by
  obtain ⟨row, column⟩ := cell
  obtain ⟨row', column'⟩ := other
  simpa [cellAt] using same

/-- The places of the cells of a code are those of the cells that hold it. -/
theorem mem_map_cellAt : cellAt cell ∈ (chart.figure.grid.cellsOf code).map cellAt ↔
    chart.figure.grid.Holds cell code := by
  rw [List.mem_map]
  constructor
  · rintro ⟨other, listed, same⟩
    exact cellAt_injective same ▸ Grid.mem_cellsOf.1 listed
  · intro holds
    exact ⟨cell, Grid.mem_cellsOf.2 holds, rfl⟩

/-- Of the cells of a code, all but the first are repeated. -/
theorem repeatedCell_iff (held : chart.figure.grid.cellsOf code = first :: others)
    (holds : cell ∈ first :: others) : chart.RepeatedCell cell ↔ cell ≠ first := by
  obtain ⟨name, inside, same⟩ := Grid.mem_cellsOf.1 (held ▸ holds)
  constructor
  · rintro ⟨name', inside', other, -, before, earlier, found, same'⟩ rfl
    cases inside.symm.trans inside'
    have least := (Grid.cellOf?_first (Grid.cellOf?_of_cellsOf held)).2
    exact least other ⟨earlier, found, same'.trans same⟩ before
  · intro different
    have later := (List.mem_cons.1 holds).resolve_left different
    obtain ⟨earlier, found, same'⟩ := Grid.mem_cellsOf.1 (held ▸ List.mem_cons_self)
    exact ⟨name, inside, first, Grid.mem_cells_of_at? found,
      Grid.before_of_cellsOf held cell later, earlier, found, same'.trans same.symm⟩

/-- The repeated cells of a code are one less than its cells. -/
theorem countP_repeatedCell (held : chart.figure.grid.cellsOf code = first :: others) :
    (chart.figure.grid.cells.filter chart.RepeatedCell).countP (fun cell =>
      ∃ name ∈ chart.figure.grid.at? cell, name.code = code) = others.length := by
  have apart : ∀ other ∈ others, other ≠ first := by
    rintro other later rfl
    exact Cell.not_before_self _ (Grid.before_of_cellsOf held other later)
  -- What is counted are the cells that are repeated and hold the code, whichever is tested first.
  have swapped : (chart.figure.grid.cells.filter chart.RepeatedCell).countP (fun cell =>
      ∃ name ∈ chart.figure.grid.at? cell, name.code = code) =
        (chart.figure.grid.cellsOf code).countP chart.RepeatedCell := by
    rw [Grid.cellsOf, List.countP_filter, List.countP_filter]
    simp only [Bool.and_comm]
  rw [swapped, held, List.countP_cons_of_neg, List.countP_eq_length]
  · intro other later
    exact decide_eq_true
      ((repeatedCell_iff held (List.mem_cons_of_mem _ later)).2 (apart other later))
  · intro counts
    exact (repeatedCell_iff held List.mem_cons_self).1 (of_decide_eq_true counts) rfl

/-- Failures tell the cells whose code stands in an earlier cell. -/
structure TellsPlacedAgain (chart : Chart) (failures : List Failure) : Prop where
  /-- There is one failure for each of these cells, at the cell, row by row. -/
  placed : failures.map Failure.location =
    (chart.figure.grid.cells.filter chart.RepeatedCell).map cellAt
  /-- A failure quotes the spelling in its cell and tells the first cell, row by row, that holds the
  code. -/
  worded : ∀ failure ∈ failures, ∃ (cell : Cell) (name : Identifier .axes) (first : Cell),
    failure.location = cellAt cell ∧ chart.figure.grid.at? cell = some name ∧
    chart.figure.grid.Holds first name.code ∧
    (∀ other, chart.figure.grid.Holds other name.code → ¬ other.Before first) ∧
    failure.cause = ⟨.placement,
      "request.figure.axes[" ++ toString cell.row ++ "][" ++ toString cell.column ++ "]",
      "Axes '" ++ name.raw ++ "' is already placed at figure.axes[" ++ toString first.row ++ "][" ++
        toString first.column ++ "]"⟩
  /-- A code that stands in a number of cells has a failure for each of them but one. -/
  counted : ∀ (code : String) (first : Cell) (others : List Cell),
    chart.figure.grid.cellsOf code = first :: others →
      failures.countP (fun failure => failure.location ∈ (first :: others).map cellAt) =
        others.length
  /-- All failures of a code tell its first cell. -/
  agree : ∀ (code : String) (first : Cell) (others : List Cell),
    chart.figure.grid.cellsOf code = first :: others →
      ∀ failure ∈ failures, failure.location ∈ (first :: others).map cellAt →
        ∃ raw, failure.problem = .placedBefore raw first
  /-- The index has this cell for axes with the code. -/
  indexed : ∀ (code : String) (first : Cell) (others : List Cell),
    chart.figure.grid.cellsOf code = first :: others →
      ∀ axes ∈ chart.axes, axes.name.code = code →
        (Index.ofChart chart).cellOf axes.name = .ok (some first)

/-- A failure of axes that are placed again, as a reader sees it. -/
theorem cause_placedBefore (cell first : Cell) (raw : String) :
    Failure.cause ⟨cellAt cell, .placedBefore raw first⟩ = ⟨.placement,
      "request.figure.axes[" ++ toString cell.row ++ "][" ++ toString cell.column ++ "]",
      "Axes '" ++ raw ++ "' is already placed at figure.axes[" ++ toString first.row ++ "][" ++
        toString first.column ++ "]"⟩ := by
  have place : (cellAt cell).render =
      "request.figure.axes[" ++ toString cell.row ++ "][" ++ toString cell.column ++ "]" := by
    rw [← String.toList_inj]
    simp [cellAt, Location.render, Location.Step.render, Location.rootName, String.join]
  have words : (Problem.placedBefore raw first).message =
      "Axes '" ++ raw ++ "' is already placed at figure.axes[" ++ toString first.row ++ "][" ++
        toString first.column ++ "]" := by
    have shape : (Problem.placedBefore raw first).message =
        "Axes " ++ ("'" ++ raw ++ "'") ++ " is already placed at figure.axes" ++
          ("[" ++ toString first.row ++ "][" ++ toString first.column ++ "]") := rfl
    rw [shape, ← String.toList_inj]
    simp
  rw [Failure.cause, place, words]
  rfl

/-- The failures of a figure are those of a name in a cell whose code has a first cell, which they
tell. -/
theorem mem_placementFailures {failure : Failure}
    (member : failure ∈ chart.figure.placementFailures) :
    ∃ cell name first, chart.figure.grid.at? cell = some name ∧
      chart.figure.grid.cellOf? name.code = some first ∧
      failure = ⟨cellAt cell, .placedBefore name.raw first⟩ := by
  rw [Figure.placementFailures_eq, List.mem_filterMap] at member
  obtain ⟨⟨cell, name⟩, held, fails⟩ := member
  dsimp only at fails
  split at fails
  · next first found =>
    split at fails
    · cases fails
    · cases fails
      exact ⟨cell, name, first, Grid.mem_placements.1 held, found, rfl⟩
  · cases fails

/-- The failures of a figure tell the cells whose code stands in an earlier cell, whatever the grid
looks like and whether the names in it are met or not. -/
theorem placementFailures_exact (chart : Chart) :
    chart.TellsPlacedAgain chart.figure.placementFailures := by
  have placed : chart.figure.placementFailures.map Failure.location =
      (chart.figure.grid.cells.filter chart.RepeatedCell).map cellAt := by
    have marks := congrArg (List.map Prod.snd) chart.placementFailures_marks
    rwa [List.map_map, List.map_map] at marks
  constructor
  · exact placed
  · intro failure member
    obtain ⟨cell, name, first, held, found, rfl⟩ := mem_placementFailures member
    obtain ⟨holds, least⟩ := Grid.cellOf?_first found
    exact ⟨cell, name, first, rfl, held, holds, least, cause_placedBefore cell first name.raw⟩
  · intro code first others held
    -- A failure is known by its place, so the failures of a code are counted as repeated cells.
    rw [← countP_repeatedCell held]
    calc chart.figure.placementFailures.countP
          (fun failure => failure.location ∈ (first :: others).map cellAt)
      _ = (chart.figure.placementFailures.map Failure.location).countP
            (fun place => place ∈ (first :: others).map cellAt) := by
          rw [List.countP_map]
          rfl
      _ = (chart.figure.grid.cells.filter chart.RepeatedCell).countP
            (fun cell => cellAt cell ∈ (first :: others).map cellAt) := by
          rw [placed, List.countP_map]
          rfl
      _ = _ := by
          apply List.countP_congr
          intro cell _
          rw [← held, decide_eq_true_eq, decide_eq_true_eq]
          exact mem_map_cellAt
  · intro code first others held failure member inside
    obtain ⟨cell, name, first', placed, found, rfl⟩ := mem_placementFailures member
    rw [← held] at inside
    obtain ⟨name', placed', same⟩ := mem_map_cellAt.1 inside
    cases placed.symm.trans placed'
    rw [same, Grid.cellOf?_of_cellsOf held] at found
    cases found
    exact ⟨name.raw, rfl⟩
  · intro code first others held axes member same
    rw [Index.cellOf_of_declared ⟨axes, member, rfl⟩, same]
    exact congrArg _ (Grid.cellOf?_of_cellsOf held)

end Chart

end ChartScript
