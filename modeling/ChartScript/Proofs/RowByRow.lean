import ChartScript.Proofs.Grid
import Mathlib.Data.List.Nodup

/-!
# The way through a grid

A grid may have any number of rows, of any lengths and with any cells. Its placements are the cells
that hold a name, each with that name and each once, row by row and within a row from column to
column. An empty cell is not among them, but it takes a column: where one is put into a row, the
names behind it stand one column further, and all others stay where they were.
-/

namespace ChartScript

/-- Where a cell gets to when a gap is put into the grid: one column further, if the gap is in its
row and in front of it or in its place. -/
def Cell.pushed (cell gap : Cell) : Cell :=
  if cell.row = gap.row ∧ gap.column ≤ cell.column then ⟨cell.row, cell.column + 1⟩ else cell

namespace Grid

variable {placed : Cell × Identifier .axes} {row column first : Nat} {rows : Grid}
variable {cells : List (Option (Identifier .axes))}

/-- The placements of a row, whose first cell is in the column. -/
def placementsOfRow (row column : Nat) (cells : List (Option (Identifier .axes))) :
    List (Cell × Identifier .axes) :=
  (cells.zipIdx column).filterMap fun (content, column) =>
    content.map fun name => (⟨row, column⟩, name)

/-- The placements of rows one below the other, with the number of the first one. -/
def placementsFrom (first : Nat) (rows : Grid) : List (Cell × Identifier .axes) :=
  (rows.zipIdx first).flatMap fun (cells, row) => placementsOfRow row 0 cells

/-- The placements of a grid are those of its rows from the first one on. -/
theorem placements_eq_placementsFrom (grid : Grid) : grid.placements = placementsFrom 0 grid := rfl

/-- An empty cell has no placement, and the next cell is one column further. -/
theorem placementsOfRow_none :
    placementsOfRow row column (none :: cells) = placementsOfRow row (column + 1) cells := by
  rw [placementsOfRow, List.zipIdx_cons, List.filterMap_cons, placementsOfRow]
  rfl

/-- A cell with a name has a placement, and the next cell is one column further. -/
theorem placementsOfRow_some {name : Identifier .axes} :
    placementsOfRow row column (some name :: cells) =
      (⟨row, column⟩, name) :: placementsOfRow row (column + 1) cells := by
  rw [placementsOfRow, List.zipIdx_cons, List.filterMap_cons, placementsOfRow]
  rfl

/-- Cells behind others are as many columns further. -/
theorem placementsOfRow_append (after : List (Option (Identifier .axes))) :
    placementsOfRow row column (cells ++ after) =
      placementsOfRow row column cells ++ placementsOfRow row (column + cells.length) after := by
  rw [placementsOfRow, List.zipIdx_append, List.filterMap_append, placementsOfRow, placementsOfRow]

/-- The placements of rows are those of the first row and then those of the others. -/
theorem placementsFrom_cons :
    placementsFrom first (cells :: rows) =
      placementsOfRow first 0 cells ++ placementsFrom (first + 1) rows := by
  rw [placementsFrom, List.zipIdx_cons, List.flatMap_cons, placementsFrom]

/-- Rows below others are as many rows further. -/
theorem placementsFrom_append (below : Grid) :
    placementsFrom first (rows ++ below) =
      placementsFrom first rows ++ placementsFrom (first + rows.length) below := by
  rw [placementsFrom, List.zipIdx_append, List.flatMap_append, placementsFrom, placementsFrom]

/-- The placements of a row are in it, in the columns of its cells. -/
theorem inside_of_mem_placementsOfRow (member : placed ∈ placementsOfRow row column cells) :
    placed.1.row = row ∧ column ≤ placed.1.column ∧
      placed.1.column < column + cells.length := by
  obtain ⟨⟨content, place⟩, listed, held⟩ := List.mem_filterMap.1 member
  obtain ⟨name, -, rfl⟩ := Option.map_eq_some_iff.1 held
  obtain ⟨lower, upper, -⟩ := List.mem_zipIdx listed
  exact ⟨rfl, lower, upper⟩

/-- The placements of rows are in these rows. -/
theorem inside_of_mem_placementsFrom (member : placed ∈ placementsFrom first rows) :
    first ≤ placed.1.row ∧ placed.1.row < first + rows.length := by
  obtain ⟨⟨cells, row⟩, listed, held⟩ := List.mem_flatMap.1 member
  obtain ⟨lower, upper, -⟩ := List.mem_zipIdx listed
  obtain ⟨same, -⟩ := inside_of_mem_placementsOfRow held
  rw [same]
  exact ⟨lower, upper⟩

/-- Placements with their cells pushed by a gap. -/
def push (gap : Cell) (placements : List (Cell × Identifier .axes)) :
    List (Cell × Identifier .axes) :=
  placements.map fun placed => (placed.1.pushed gap, placed.2)

/-- Placements one behind the other are pushed one behind the other. -/
theorem push_append (gap : Cell) (placements more : List (Cell × Identifier .axes)) :
    push gap (placements ++ more) = push gap placements ++ push gap more := List.map_append

/-- A gap leaves placements where they are if none of them is behind it in its row. -/
theorem push_eq_self {gap : Cell} {placements : List (Cell × Identifier .axes)}
    (clear : ∀ placed ∈ placements, placed.1.row = gap.row → placed.1.column < gap.column) :
    push gap placements = placements := by
  have still : ∀ placed ∈ placements, (placed.1.pushed gap, placed.2) = placed := by
    intro placed member
    have ahead : ¬ (placed.1.row = gap.row ∧ gap.column ≤ placed.1.column) := by
      rintro ⟨same, behind⟩
      exact Nat.not_le_of_lt (clear placed member same) behind
    rw [Cell.pushed, if_neg ahead]
  rw [push, List.map_congr_left still, List.map_id']

/-- A gap in front of the cells of a row pushes each of their placements one column further. -/
theorem push_placementsOfRow {gap : Nat} (behind : gap ≤ column) :
    push ⟨row, gap⟩ (placementsOfRow row column cells) =
      placementsOfRow row (column + 1) cells := by
  induction cells generalizing column with
  | nil => rfl
  | cons content cells ih =>
    have further : gap ≤ column + 1 := Nat.le_succ_of_le behind
    cases content with
    | none => rw [placementsOfRow_none, placementsOfRow_none, ih further]
    | some name =>
      have pushed : Cell.pushed ⟨row, column⟩ ⟨row, gap⟩ = ⟨row, column + 1⟩ :=
        if_pos ⟨rfl, behind⟩
      rw [placementsOfRow_some, placementsOfRow_some, push, List.map_cons, pushed, ← push,
        ih further]

/-- A gap in another row leaves the placements of rows where they are. -/
theorem push_placementsFrom {gap : Cell} (apart : gap.row < first ∨ first + rows.length ≤ gap.row) :
    push gap (placementsFrom first rows) = placementsFrom first rows := by
  apply push_eq_self
  intro placed member same
  have inside := inside_of_mem_placementsFrom member
  omega

/-- An empty cell that is put into a row pushes the names behind it in the row one column further,
and changes nothing else. -/
theorem placements_insert_empty (above below : Grid)
    (before after : List (Option (Identifier .axes))) :
    placements (above ++ (before ++ none :: after) :: below) =
      push ⟨above.length, before.length⟩ (placements (above ++ (before ++ after) :: below)) := by
  have earlierRows : 0 + above.length ≤ above.length := Nat.le_of_eq (Nat.zero_add _)
  have laterRows : above.length < above.length + 1 := Nat.lt_succ_self _
  have earlierCells : push ⟨above.length, before.length⟩
      (placementsOfRow above.length 0 before) = placementsOfRow above.length 0 before := by
    apply push_eq_self
    intro placed member _
    have inside := inside_of_mem_placementsOfRow member
    dsimp only
    omega
  have laterCells : push ⟨above.length, before.length⟩
      (placementsOfRow above.length (0 + before.length) after) =
        placementsOfRow above.length (0 + before.length + 1) after :=
    push_placementsOfRow (Nat.le_add_left _ 0)
  rw [placements_eq_placementsFrom, placements_eq_placementsFrom, placementsFrom_append,
    placementsFrom_append, placementsFrom_cons, placementsFrom_cons, push_append, push_append,
    Nat.zero_add, placementsOfRow_append, placementsOfRow_append, placementsOfRow_none,
    push_append, earlierCells, laterCells, push_placementsFrom (.inr earlierRows),
    push_placementsFrom (.inl laterRows)]

/-- A list goes through the names of a grid, row by row. -/
structure GoesThrough (grid : Grid) (listed : List (Cell × Identifier .axes)) : Prop where
  /-- It has the cells that hold a name, each with this name. -/
  lists : ∀ row column name, (⟨row, column⟩, name) ∈ listed ↔
    ∃ cells, grid[row]? = some cells ∧ cells[column]? = some (some name)
  /-- It has each of them once. -/
  once : ∀ placed ∈ listed, (listed.map Prod.fst).count placed.1 = 1
  /-- A cell comes behind those of earlier rows and behind those of earlier columns in its row. -/
  ordered : listed.Pairwise fun placed other => placed.1.row < other.1.row ∨
    placed.1.row = other.1.row ∧ placed.1.column < other.1.column
  /-- An empty cell counts as a column and nothing more: the list is that of the grid without this
  cell, with the names that were behind it in its row one column further. -/
  skips : ∀ above before after below, grid = above ++ (before ++ none :: after) :: below →
    listed = push ⟨above.length, before.length⟩ (placements (above ++ (before ++ after) :: below))

/-- The placements of every grid go through its names, whatever the lengths of its rows. -/
theorem placements_goThrough (grid : Grid) : grid.GoesThrough grid.placements where
  lists row column name := by
    rw [mem_placements, at?, Option.join_eq_some_iff, Option.bind_eq_some_iff]
  once placed member := by
    have distinct : (grid.placements.map Prod.fst).Nodup := by
      rw [List.nodup_iff_pairwise_ne, List.pairwise_map]
      apply grid.pairwise_placements.imp
      rintro placed other before same
      exact Cell.not_before_self _ (same ▸ before)
    exact List.count_eq_one_of_mem distinct (List.mem_map_of_mem member)
  ordered := grid.pairwise_placements
  skips above before after below shape := by
    rw [shape, placements_insert_empty]

end Grid

end ChartScript
