import ChartScript.Chart.Consistency
import ChartScript.Proofs.IndexAnswers

/-!
# The first cells of codes

The rule that axes stand in one cell at most is checked in one pass over the placements, which keeps
a cell for each code that it has met. A code is entered only when it is new, so what is kept is the
first cell of the code and stays so. A placement fails in that pass exactly when the first cell of
its code is another cell, which is the cell that a search of the whole grid finds.
-/

namespace ChartScript.Figure

/-- The cell of the first placement of a code. -/
def firstCell? (placements : List (Cell × Identifier .axes)) (code : String) : Option Cell :=
  (placements.find? fun placed => placed.2.code == code).map Prod.fst

variable {earlier later : List (Cell × Identifier .axes)} {cell : Cell} {name : Identifier .axes}

/-- The first placement of a code is among the earlier ones, if one of these has the code. -/
theorem firstCell?_append (earlier later : List (Cell × Identifier .axes)) (code : String) :
    firstCell? (earlier ++ later) code = (firstCell? earlier code).or (firstCell? later code) := by
  rw [firstCell?, List.find?_append, firstCell?, firstCell?]
  cases earlier.find? fun placed => placed.2.code == code <;> rfl

/-- A single placement is the first one of its own code. -/
theorem firstCell?_singleton (cell : Cell) (name : Identifier .axes) (code : String) :
    firstCell? [(cell, name)] code = if code = name.code then some cell else none := by
  rw [firstCell?, List.find?_singleton]
  by_cases same : code = name.code
  · simp [same]
  · simp [same, Ne.symm same]

/-- The first cell of a code is the cell of a placement. -/
theorem exists_placed_of_firstCell? {placements : List (Cell × Identifier .axes)} {code : String}
    (found : firstCell? placements code = some cell) : ∃ placed ∈ placements, placed.1 = cell := by
  obtain ⟨placed, hit, same⟩ := Option.map_eq_some_iff.1 found
  exact ⟨placed, List.mem_of_find?_eq_some hit, same⟩

/-- A table has the first cell of each code among placements. -/
def Keeps (seen : List (String × Cell)) (placements : List (Cell × Identifier .axes)) : Prop :=
  ∀ code, seen.lookup code = firstCell? placements code

namespace Keeps

variable {seen : List (String × Cell)}

/-- A placement whose code is known leaves the first cells as they are. -/
theorem known (keeps : Keeps seen earlier) {first : Cell}
    (found : seen.lookup name.code = some first) : Keeps seen (earlier ++ [(cell, name)]) := by
  intro code
  rw [firstCell?_append, firstCell?_singleton, keeps code]
  by_cases same : code = name.code
  · rw [same, ← keeps, found, Option.some_or]
  · rw [if_neg same, Option.or_none]

/-- A placement whose code is new brings the first cell of that code. -/
theorem new (keeps : Keeps seen earlier) (missing : seen.lookup name.code = none) :
    Keeps (Index.enter seen name.code cell) (earlier ++ [(cell, name)]) := by
  intro code
  rw [Index.lookup_enter, firstCell?_append, firstCell?_singleton, ← keeps code]
  by_cases same : code = name.code
  · rw [if_pos same, if_pos same, same, missing, Option.none_or]
  · rw [if_neg same, if_neg same, Option.or_none]

/-- From a table of the first cells so far, the pass over the rest fails the placements whose code
has its first cell elsewhere. -/
theorem seenFailures_eq (keeps : Keeps seen earlier)
    (apart : (earlier ++ later).Pairwise fun placed other => placed.1 ≠ other.1) :
    seenFailures seen later = later.filterMap fun (cell, name) =>
      match firstCell? (earlier ++ later) name.code with
      | some first =>
        if first = cell then none else some ⟨cellPlace cell, .placedBefore name.raw first⟩
      | none => none := by
  induction later generalizing seen earlier with
  | nil => rfl
  | cons placed rest ih =>
    obtain ⟨cell, name⟩ := placed
    -- The table is about the placements met so far, so the one in front joins the earlier ones.
    have regroup : earlier ++ (cell, name) :: rest = earlier ++ [(cell, name)] ++ rest := by simp
    rw [regroup] at apart ⊢
    have first : firstCell? (earlier ++ [(cell, name)] ++ rest) name.code =
        (seen.lookup name.code).or (some cell) := by
      rw [firstCell?_append, firstCell?_append, firstCell?_singleton, if_pos rfl, ← keeps]
      cases seen.lookup name.code <;> rfl
    simp only [seenFailures, List.filterMap_cons, first]
    cases found : seen.lookup name.code with
    | some first =>
      -- The first cell was met earlier, and no earlier placement is in this cell.
      have elsewhere : first ≠ cell := by
        obtain ⟨placed, member, rfl⟩ := exists_placed_of_firstCell? (keeps name.code ▸ found)
        exact (List.pairwise_append.1 (List.pairwise_append.1 apart).1).2.2 placed member _
          (List.mem_singleton.2 rfl)
      simp only [Option.some_or, if_neg elsewhere, ih (keeps.known found) apart]
    | none => simp only [Option.none_or, if_true, ih (keeps.new found) apart]

end Keeps

/-- A placement fails when the cell of its code is another one. -/
theorem placementFailures_eq (figure : Figure) :
    figure.placementFailures = figure.grid.placements.filterMap fun (cell, name) =>
      match figure.grid.cellOf? name.code with
      | some first =>
        if first = cell then none else some ⟨cellPlace cell, .placedBefore name.raw first⟩
      | none => none := by
  have nothing : Keeps [] [] := fun _ => rfl
  have apart : figure.grid.placements.Pairwise fun placed other => placed.1 ≠ other.1 := by
    apply figure.grid.pairwise_placements.imp
    intro placed other before same
    rw [same] at before
    exact Cell.not_before_self _ before
  exact nothing.seenFailures_eq apart

end ChartScript.Figure
