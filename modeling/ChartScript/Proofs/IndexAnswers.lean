import ChartScript.Chart.Index
import ChartScript.Proofs.Grid

/-!
# What an index answers

The tables of an index are filled in one pass over the names of a chart, and a later entry takes the
place of an earlier one with the same code. What is entered depends on the code alone, so no entry is
lost by that: a look-up finds exactly the declared codes, and for each of them the axes that invoke
it or the first cell that holds it. This holds for every chart, with repeated names, references to
nothing and rows of any length.
-/

namespace ChartScript

namespace Index

variable {α β : Type}

/-- Entering a value changes what stands under its code only. -/
theorem lookup_enter (table : List (String × β)) (code other : String) (value : β) :
    (enter table code value).lookup other =
      if other = code then some value else table.lookup other := by
  rw [enter, List.lookup_cons]
  by_cases same : other = code
  · rw [if_pos same, same, beq_self_eq_true]
  · rw [if_neg same, beq_eq_false_iff_ne.2 same]
    dsimp only
    induction table with
    | nil => rfl
    | cons entry rest ih =>
      rw [List.filter_cons, List.lookup_cons]
      split
      · rw [List.lookup_cons, ih]
      · next overwritten =>
        have differs : other ≠ entry.1 := by
          intro equal
          apply overwritten
          rw [← equal, bne_iff_ne]
          exact same
        rw [ih, beq_eq_false_iff_ne.2 differs]

/-- A table that was filled with a value for the code of each entry finds these codes, and
otherwise what it found before. -/
theorem lookup_filled (entries : List α) (key : α → String) (value : String → β)
    (table : List (String × β)) (code : String) :
    (entries.foldl (fun table entry => enter table (key entry) (value (key entry)))
        table).lookup code =
      if code ∈ entries.map key then some (value code) else table.lookup code := by
  induction entries generalizing table with
  | nil => rw [List.foldl_nil, List.map_nil, if_neg List.not_mem_nil]
  | cons first rest ih =>
    rw [List.foldl_cons, ih, lookup_enter, List.map_cons]
    by_cases later : code ∈ rest.map key
    · rw [if_pos later, if_pos (List.mem_cons_of_mem _ later)]
    · rw [if_neg later]
      by_cases here : code = key first
      · rw [if_pos here, if_pos (here ▸ List.mem_cons_self), here]
      · rw [if_neg here, if_neg fun member => (List.mem_cons.1 member).elim here later]

variable {chart : Chart} {code : String}

/-- The index of a chart has the callers of the declared plots. -/
theorem lookup_callers (chart : Chart) (code : String) :
    (ofChart chart).callers.lookup code =
      if code ∈ chart.plots.map (fun plot => plot.name.code) then some (chart.callers code)
      else none :=
  lookup_filled chart.plots (fun plot => plot.name.code) chart.callers [] code

/-- The index of a chart has the cells of the declared axes. -/
theorem lookup_cells (chart : Chart) (code : String) :
    (ofChart chart).cells.lookup code =
      if code ∈ chart.axes.map (fun axes => axes.name.code) then some (chart.cellOf? code)
      else none :=
  lookup_filled chart.axes (fun axes => axes.name.code) chart.cellOf? [] code

variable {space : Namespace} {name : Identifier space}

/-- A declared plot has its callers in the index. -/
theorem callersOf_of_declared (declared : ∃ plot ∈ chart.plots, plot.name.code = name.code) :
    (ofChart chart).callersOf name = .ok (chart.callers name.code) := by
  rw [callersOf, lookup_callers, if_pos (List.mem_map.2 declared)]

/-- A plot that is not declared is missing from the index. -/
theorem callersOf_of_undeclared (undeclared : ¬ ∃ plot ∈ chart.plots, plot.name.code = name.code) :
    (ofChart chart).callersOf name = .error (.notIndexed .plot name.code) := by
  rw [callersOf, lookup_callers, if_neg fun member => undeclared (List.mem_map.1 member)]

/-- Declared axes have their cell in the index. -/
theorem cellOf_of_declared (declared : ∃ axes ∈ chart.axes, axes.name.code = name.code) :
    (ofChart chart).cellOf name = .ok (chart.cellOf? name.code) := by
  rw [cellOf, lookup_cells, if_pos (List.mem_map.2 declared)]

/-- Axes that are not declared are missing from the index. -/
theorem cellOf_of_undeclared (undeclared : ¬ ∃ axes ∈ chart.axes, axes.name.code = name.code) :
    (ofChart chart).cellOf name = .error (.notIndexed .axes name.code) := by
  rw [cellOf, lookup_cells, if_neg fun member => undeclared (List.mem_map.1 member)]

/-- A plot is used when the index knows callers of it. -/
theorem isUsed_iff (index : Index) (name : Identifier space) :
    index.isUsed name = true ↔ ∃ names, index.callersOf name = .ok names ∧ names ≠ [] := by
  rw [isUsed, callersOf]
  cases index.callers.lookup name.code with
  | none => simp
  | some names => simp

/-- Axes are placed when the index knows a cell of them. -/
theorem isPlaced_iff (index : Index) (name : Identifier space) :
    index.isPlaced name = true ↔ ∃ cell, index.cellOf name = .ok (some cell) := by
  rw [isPlaced, cellOf]
  cases index.cells.lookup name.code with
  | none => simp
  | some found => simp [Option.isSome_iff_exists]

end Index

namespace Chart

/-- The callers of a plot are the axes whose list has its code, in order and each of them once. -/
theorem callers_eq (chart : Chart) (code : String) :
    chart.callers code =
      (chart.axes.filter fun axes => ∃ invoked ∈ axes.plots, invoked.code = code).map Axes.name := by
  have same : (fun axes : Axes => axes.invokes code) =
      fun axes => decide (∃ invoked ∈ axes.plots, invoked.code = code) := by
    funext axes
    simp [Axes.invokes, List.any_eq]
  rw [callers, same]

end Chart

/-- An index answers for a name of any namespace what the lists and the grid of a chart say. -/
structure Index.AnswersFor {space : Namespace} (index : Index) (chart : Chart)
    (name : Identifier space) : Prop where
  /-- The plots of the chart are known, by their codes, and no others. -/
  knowsPlot : (∃ names, index.callersOf name = .ok names) ↔
    ∃ plot ∈ chart.plots, plot.name.code = name.code
  /-- The callers of a plot are the axes that list its code, in order. Each axes counts once, however
  often it lists the plot and whatever other axes share its name. -/
  callers : ∀ names, index.callersOf name = .ok names →
    names = (chart.axes.filter fun axes =>
      ∃ invoked ∈ axes.plots, invoked.code = name.code).map Axes.name
  /-- A plot that is not known is missing, by its code. -/
  missingPlot : ∀ refusal, index.callersOf name = .error refusal →
    refusal = .notIndexed .plot name.code ∧
      refusal.message = "Internal error: plot '" ++ name.code ++ "' missing from index"
  /-- The axes of the chart are known, by their codes, and no others. -/
  knowsAxes : (∃ found, index.cellOf name = .ok found) ↔
    ∃ axes ∈ chart.axes, axes.name.code = name.code
  /-- The cell of axes is the first one that holds their code, row by row. -/
  cell : ∀ found, index.cellOf name = .ok found → ∀ cell, found = some cell ↔
    chart.figure.grid.Holds cell name.code ∧
      ∀ other, chart.figure.grid.Holds other name.code → ¬ other.Before cell
  /-- Axes have no cell exactly when no cell holds their code. -/
  noCell : ∀ found, index.cellOf name = .ok found →
    (found = none ↔ ∀ cell, ¬ chart.figure.grid.Holds cell name.code)
  /-- Axes that are not known are missing, by their code. -/
  missingAxes : ∀ refusal, index.cellOf name = .error refusal →
    refusal = .notIndexed .axes name.code ∧
      refusal.message = "Internal error: axes '" ++ name.code ++ "' missing from index"
  /-- A plot is used when it has callers. -/
  used : index.isUsed name = true ↔ ∃ names, index.callersOf name = .ok names ∧ names ≠ []
  /-- Axes are placed when they have a cell. -/
  placed : index.isPlaced name = true ↔ ∃ cell, index.cellOf name = .ok (some cell)

/-- The wording of the refusal of a name that an index does not hold. -/
theorem Refusal.message_notIndexed (space : Namespace) (code : String) :
    message (.notIndexed space code) =
      "Internal error: " ++ space.label ++ " '" ++ code ++ "' missing from index" := by
  have shape : message (.notIndexed space code) =
      "Internal error: " ++ space.label ++ " " ++ ("'" ++ code ++ "'") ++ " missing from index" := rfl
  rw [shape, ← String.toList_inj]
  simp

/-- The index of a chart answers for every name, whether the chart is consistent or not. -/
theorem Index.answersFor_ofChart {space : Namespace} (chart : Chart) (name : Identifier space) :
    (ofChart chart).AnswersFor chart name := by
  have plots : (ofChart chart).callersOf name =
      if ∃ plot ∈ chart.plots, plot.name.code = name.code then .ok (chart.callers name.code)
      else .error (.notIndexed .plot name.code) := by
    split
    · next declared => exact callersOf_of_declared declared
    · next undeclared => exact callersOf_of_undeclared undeclared
  have axes : (ofChart chart).cellOf name =
      if ∃ axes ∈ chart.axes, axes.name.code = name.code then .ok (chart.cellOf? name.code)
      else .error (.notIndexed .axes name.code) := by
    split
    · next declared => exact cellOf_of_declared declared
    · next undeclared => exact cellOf_of_undeclared undeclared
  constructor
  · rw [plots]
    split <;> simp_all
  · intro names known
    rw [plots] at known
    split at known <;> cases known
    exact chart.callers_eq name.code
  · intro refusal missing
    rw [plots] at missing
    split at missing <;> cases missing
    refine ⟨rfl, ?_⟩
    rw [Refusal.message_notIndexed,
      show "Internal error: " ++ Namespace.plot.label ++ " '" = "Internal error: plot '" by decide]
  · rw [axes]
    split <;> simp_all
  · intro found known cell
    rw [axes] at known
    split at known <;> cases known
    exact Grid.cellOf?_eq_some_iff
  · intro found known
    rw [axes] at known
    split at known <;> cases known
    exact Grid.cellOf?_eq_none_iff
  · intro refusal missing
    rw [axes] at missing
    split at missing <;> cases missing
    refine ⟨rfl, ?_⟩
    rw [Refusal.message_notIndexed,
      show "Internal error: " ++ Namespace.axes.label ++ " '" = "Internal error: axes '" by decide]
  · exact isUsed_iff _ name
  · exact isPlaced_iff _ name

end ChartScript
