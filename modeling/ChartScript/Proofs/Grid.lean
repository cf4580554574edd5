import ChartScript.Chart.Basic
import Mathlib.Data.List.Basic
import Mathlib.Data.List.Induction

/-!
# The cells of a grid

A grid is read by cell: a cell holds a name, or it is empty or outside. The placements of a grid
are its cells with their names, row by row, each cell once, whatever the lengths of the rows. The
cell of a code is the first one, row by row, with a name of that code.
-/

namespace ChartScript

/-- Going through a list with its indices is going through the indices. -/
theorem flatMap_zipIdx {α β : Type} (items : List α) (f : α × Nat → List β) :
    items.zipIdx.flatMap f =
      (List.range items.length).flatMap fun i => items[i]?.elim [] fun item => f (item, i) := by
  induction items using List.reverseRecOn with
  | nil => rfl
  | append_singleton items last ih =>
    have earlier : ∀ i ∈ List.range items.length,
        ((items ++ [last])[i]?.elim [] fun item => f (item, i)) =
          items[i]?.elim [] fun item => f (item, i) := by
      intro i member
      rw [List.getElem?_append_left (List.mem_range.1 member)]
    rw [List.zipIdx_append, List.flatMap_append, ih, List.length_append, List.length_singleton,
      List.range_succ, List.flatMap_append, List.flatMap_congr earlier]
    simp

/-- Going through a list with its indices is going through the indices, where each entry gives one
result at most. -/
theorem filterMap_zipIdx {α β : Type} (items : List α) (f : α × Nat → Option β) :
    items.zipIdx.filterMap f =
      (List.range items.length).filterMap fun i => items[i]?.bind fun item => f (item, i) := by
  rw [List.filterMap_eq_flatMap_toList, flatMap_zipIdx, List.filterMap_eq_flatMap_toList]
  apply List.flatMap_congr
  intro i _
  cases items[i]? <;> rfl

/-- One cell stands before another row by row. -/
def Cell.Before (cell other : Cell) : Prop :=
  cell.row < other.row ∨ cell.row = other.row ∧ cell.column < other.column

instance (cell other : Cell) : Decidable (cell.Before other) :=
  inferInstanceAs (Decidable (_ ∨ _))

namespace Cell

/-- No cell stands before itself. -/
theorem not_before_self (cell : Cell) : ¬ cell.Before cell := by
  simp only [Before]
  omega

/-- Of two different cells, one stands before the other. -/
theorem before_or_before {cell other : Cell} (different : cell ≠ other) :
    cell.Before other ∨ other.Before cell := by
  obtain ⟨row, column⟩ := cell
  obtain ⟨row', column'⟩ := other
  simp only [ne_eq, Cell.mk.injEq, Before] at different ⊢
  omega

/-- Two cells do not both stand before the other. -/
theorem Before.asymm {cell other : Cell} (h : cell.Before other) : ¬ other.Before cell := by
  simp only [Before] at h ⊢
  omega

end Cell

namespace Grid

variable {grid : Grid} {cell : Cell} {name : Identifier .axes} {code : String}

/-- The name in a cell, if the grid has the cell and it is not empty. -/
def at? (grid : Grid) (cell : Cell) : Option (Identifier .axes) :=
  (grid[cell.row]?.bind fun cells => cells[cell.column]?).join

/-- The cells of a grid, row by row, the empty ones among them. -/
def cells (grid : Grid) : List Cell :=
  (List.range grid.length).flatMap fun row =>
    (List.range (grid[row]?.getD []).length).map fun column => ⟨row, column⟩

/-- A cell with a name is one of the cells. -/
theorem mem_cells_of_at? (h : grid.at? cell = some name) : cell ∈ grid.cells := by
  obtain ⟨row, column⟩ := cell
  simp only [at?, Option.join_eq_some_iff, Option.bind_eq_some_iff] at h
  obtain ⟨row', found, inside⟩ := h
  simp only [cells, List.mem_flatMap, List.mem_range, List.mem_map]
  refine ⟨row, (List.getElem?_eq_some_iff.1 found).1, column, ?_, rfl⟩
  rw [found]
  exact (List.getElem?_eq_some_iff.1 inside).1

/-- The cells are listed row by row. -/
theorem pairwise_cells (grid : Grid) : grid.cells.Pairwise Cell.Before := by
  rw [cells, List.pairwise_flatMap]
  constructor
  · intro row _
    rw [List.pairwise_map]
    exact List.pairwise_lt_range.imp fun less => .inr ⟨rfl, less⟩
  · apply List.pairwise_lt_range.imp
    intro row row' less cell member cell' member'
    obtain ⟨column, -, rfl⟩ := List.mem_map.1 member
    obtain ⟨column', -, rfl⟩ := List.mem_map.1 member'
    exact .inl less

/-- The placements of a row are its cells that hold a name, each with its name. -/
theorem placements_row {row : Nat} {cells : List (Option (Identifier .axes))}
    (found : grid[row]? = some cells) :
    (cells.zipIdx.filterMap fun (content, column) =>
        content.map fun name => (Cell.mk row column, name)) =
      (List.range cells.length).filterMap fun column =>
        (grid.at? ⟨row, column⟩).map fun name => (Cell.mk row column, name) := by
  rw [filterMap_zipIdx]
  apply List.filterMap_congr
  intro column _
  rw [at?, found]
  cases h : cells[column]? <;> simp [h]

/-- The placements are the cells that hold a name, each with its name. -/
theorem placements_eq (grid : Grid) :
    grid.placements =
      grid.cells.filterMap fun cell => (grid.at? cell).map fun name => (cell, name) := by
  rw [placements, flatMap_zipIdx, cells, List.filterMap_flatMap]
  apply List.flatMap_congr
  intro row member
  have found := List.getElem?_eq_getElem (List.mem_range.1 member)
  rw [found]
  simpa only [Option.elim_some, Option.getD_some, List.filterMap_map, Function.comp_def]
    using placements_row found

/-- A cell and a name are a placement exactly when the cell holds the name. -/
theorem mem_placements : (cell, name) ∈ grid.placements ↔ grid.at? cell = some name := by
  rw [placements_eq, List.mem_filterMap]
  constructor
  · rintro ⟨other, -, h⟩
    obtain ⟨held, found, same⟩ := Option.map_eq_some_iff.1 h
    cases same
    exact found
  · intro h
    exact ⟨cell, mem_cells_of_at? h, by rw [h, Option.map_some]⟩

/-- The placements come row by row. -/
theorem pairwise_placements (grid : Grid) :
    grid.placements.Pairwise fun placed other => placed.1.Before other.1 := by
  rw [placements_eq, List.pairwise_filterMap]
  apply (pairwise_cells grid).imp
  intro cell other before placed held placed' held'
  obtain ⟨name, -, rfl⟩ := Option.map_eq_some_iff.1 held
  obtain ⟨name', -, rfl⟩ := Option.map_eq_some_iff.1 held'
  exact before

/-- The grid holds a name of a code in a cell. -/
def Holds (grid : Grid) (cell : Cell) (code : String) : Prop :=
  ∃ name, grid.at? cell = some name ∧ name.code = code

/-- A code has no cell exactly when no cell holds it. -/
theorem cellOf?_eq_none_iff : grid.cellOf? code = none ↔ ∀ cell, ¬ grid.Holds cell code := by
  simp only [cellOf?, Option.map_eq_none_iff, List.find?_eq_none, beq_iff_eq]
  constructor
  · rintro h cell ⟨name, found, same⟩
    exact h (cell, name) (mem_placements.2 found) same
  · rintro h ⟨cell, name⟩ member same
    exact h cell ⟨name, mem_placements.1 member, same⟩

/-- The cell of a code holds it, and no earlier cell does. -/
theorem cellOf?_first (h : grid.cellOf? code = some cell) :
    grid.Holds cell code ∧ ∀ other, grid.Holds other code → ¬ other.Before cell := by
  obtain ⟨⟨found, name⟩, hit, rfl⟩ := Option.map_eq_some_iff.1 h
  obtain ⟨same, earlier, later, split, missed⟩ := List.find?_eq_some_iff_append.1 hit
  have order := pairwise_placements grid
  rw [split, List.pairwise_append, List.pairwise_cons] at order
  constructor
  · exact ⟨name, mem_placements.1 (List.mem_of_find?_eq_some hit), beq_iff_eq.1 same⟩
  · rintro other ⟨held, inside, same'⟩ before
    have member : (other, held) ∈ earlier ++ (found, name) :: later :=
      split ▸ mem_placements.2 inside
    rcases List.mem_append.1 member with early | late
    · have miss := missed _ early
      simp [same'] at miss
    · rcases List.mem_cons.1 late with equal | late
      · cases equal
        exact Cell.not_before_self _ before
      · exact (order.2.1.1 _ late).asymm before

/-- The cell of a code is the first one that holds it. -/
theorem cellOf?_eq_some_iff :
    grid.cellOf? code = some cell ↔
      grid.Holds cell code ∧ ∀ other, grid.Holds other code → ¬ other.Before cell := by
  constructor
  · exact cellOf?_first
  · rintro ⟨held, first⟩
    cases h : grid.cellOf? code with
    | none => exact absurd held (cellOf?_eq_none_iff.1 h cell)
    | some found =>
      obtain ⟨held', first'⟩ := cellOf?_first h
      by_cases same : found = cell
      · rw [same]
      · rcases Cell.before_or_before same with before | before
        · exact absurd before (first found held')
        · exact absurd before (first' cell held)

end Grid

end ChartScript
