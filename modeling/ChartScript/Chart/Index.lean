import ChartScript.Chart.Basic
import ChartScript.Refusal

/-!
# Index of a chart

Two tables that answer, by code, which axes invoke a plot and in which cell axes stand. They are
filled name by name, and a name whose code is in a table already overwrites what stands there. They
hold the declared names only, of any chart, consistent or not; a name that is not declared is
missing from the index. A name of any namespace may be looked up, for its code is all that counts.
-/

namespace ChartScript

/-- The tables of a chart. -/
structure Index where
  /-- The axes that invoke each plot, in order, by the plot's code. -/
  callers : List (String × List (Identifier .axes))
  /-- The cell of each axes, if they stand in one, by the axes' code. -/
  cells : List (String × Option Cell)

namespace Index

/-- A table with a value under a code, instead of what stood there. -/
def enter {α : Type} (table : List (String × α)) (code : String) (value : α) :
    List (String × α) :=
  (code, value) :: table.filter fun entry => entry.1 != code

/-- The tables of a chart. -/
def ofChart (chart : Chart) : Index where
  callers := chart.plots.foldl
    (fun table plot => enter table plot.name.code (chart.callers plot.name.code)) []
  cells := chart.axes.foldl
    (fun table axes => enter table axes.name.code (chart.cellOf? axes.name.code)) []

variable {space : Namespace}

/-- The axes that invoke a plot, in order. -/
def callersOf (index : Index) (plot : Identifier space) :
    Except Refusal (List (Identifier .axes)) :=
  match index.callers.lookup plot.code with
  | some names => .ok names
  | none => .error (.notIndexed .plot plot.code)

/-- The cell of axes, `none` for axes that stand in no cell. -/
def cellOf (index : Index) (axes : Identifier space) : Except Refusal (Option Cell) :=
  match index.cells.lookup axes.code with
  | some cell => .ok cell
  | none => .error (.notIndexed .axes axes.code)

/-- Some axes invoke the plot. -/
def isUsed (index : Index) (plot : Identifier space) : Bool :=
  (index.callers.lookup plot.code).any fun names => !names.isEmpty

/-- The axes stand in a cell. -/
def isPlaced (index : Index) (axes : Identifier space) : Bool :=
  (index.cells.lookup axes.code).any Option.isSome

end Index

end ChartScript
