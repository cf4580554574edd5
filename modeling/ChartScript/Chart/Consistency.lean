import ChartScript.Chart.Index

/-!
# Consistent charts

The rules that tie the parts of a chart together: names differ within a list, the grid is of the
declared size, every reference is met, and axes stand in one cell at most. All rules are checked,
and the failures come rule by rule in this order. A consistent chart may still have axes without a
cell and plots that no axes invoke; these are warnings.
-/

namespace ChartScript

/-- What a pass over the names of a list has counted. -/
structure Tally (space : Namespace) where
  /-- How many names were met, by their code. -/
  counts : List (String × Nat)
  /-- The names whose code was new when they were met, in order. -/
  heads : List (Identifier space)

namespace Tally

variable {space : Namespace}

/-- How many names of a code were met. -/
def count (tally : Tally space) (code : String) : Nat := (tally.counts.lookup code).getD 0

/-- Meets one more name. -/
def meet (tally : Tally space) (name : Identifier space) : Tally space where
  counts := Index.enter tally.counts name.code (tally.count name.code + 1)
  heads := if tally.count name.code = 0 then tally.heads ++ [name] else tally.heads

/-- Meets the names of a list one by one. -/
def ofNames (names : List (Identifier space)) : Tally space := names.foldl meet ⟨[], []⟩

end Tally

/-- The first spelling of each code that a list has more than once. -/
def repeatedNames {space : Namespace} (names : List (Identifier space)) :
    List (Identifier space) :=
  let tally := Tally.ofNames names
  tally.heads.filter fun name => 1 < tally.count name.code

/-- The failure of names that share a code, at the list's place. -/
def repeatedFailures {space : Namespace} (names : List (Identifier space)) : List Failure :=
  match repeatedNames names with
  | [] => []
  | repeated => [⟨Location.root.key space.label, .duplicates space (repeated.map Identifier.raw)⟩]

namespace Figure

/-- The place of the grid. -/
def gridPlace : Location := (Location.root.key "figure").key "axes"

/-- The place of a cell. -/
def cellPlace (cell : Cell) : Location := (gridPlace.index cell.row).index cell.column

/-- The grid has the declared rows, each with the declared columns. -/
def fits (figure : Figure) : Bool :=
  figure.grid.length == figure.size.rows &&
    figure.grid.all fun cells => cells.length == figure.size.columns

/-- The failure of a grid that is not of the declared size. -/
def shapeFailures (figure : Figure) : List Failure :=
  if figure.fits then []
  else
    [⟨gridPlace, .gridShape figure.size.rows figure.size.columns (figure.grid.map List.length)⟩]

/-- The failures of placements whose code was seen before. The first cell of each code that was seen
is kept and told again. -/
def seenFailures : List (String × Cell) → List (Cell × Identifier .axes) → List Failure
  | _, [] => []
  | seen, (cell, name) :: rest =>
    match seen.lookup name.code with
    | some first => ⟨cellPlace cell, .placedBefore name.raw first⟩ :: seenFailures seen rest
    | none => seenFailures (Index.enter seen name.code cell) rest

/-- The failures of cells whose axes stand in an earlier cell. -/
def placementFailures (figure : Figure) : List Failure := seenFailures [] figure.grid.placements

end Figure

namespace Chart

/-- The codes of the axes. -/
def axesCodes (chart : Chart) : List String := chart.axes.map fun axes => axes.name.code

/-- The codes of the plots. -/
def plotCodes (chart : Chart) : List String := chart.plots.map fun plot => plot.name.code

/-- The codes of the series. -/
def seriesCodes (chart : Chart) : List String := chart.series.map fun series => series.name.code

/-- The place of the axes at an index. -/
def axesPlace (i : Nat) : Location := (Location.root.key "axes").index i

/-- The place of the plot at an index. -/
def plotPlace (i : Nat) : Location := (Location.root.key "plot").index i

/-- The failures of cells that name no axes. -/
def cellFailures (chart : Chart) : List Failure :=
  chart.figure.grid.placements.filterMap fun (cell, name) =>
    if chart.axesCodes.contains name.code then none
    else some ⟨Figure.cellPlace cell, .unknownAxes cell name.raw⟩

/-- The failures of axes that invoke no plot of the chart. -/
def invocationFailures (chart : Chart) : List Failure :=
  chart.axes.zipIdx.flatMap fun (axes, i) =>
    axes.plots.zipIdx.filterMap fun (plot, j) =>
      if chart.plotCodes.contains plot.code then none
      else some ⟨((axesPlace i).key "plot").index j, .unknownPlot plot.raw axes.name.raw⟩

/-- The failures of plots that draw no series of the chart. -/
def drawingFailures (chart : Chart) : List Failure :=
  chart.plots.zipIdx.flatMap fun (plot, i) =>
    plot.relation.references.filterMap fun (field, series) =>
      if chart.seriesCodes.contains series.code then none
      else some ⟨((plotPlace i).key "data").key field, .unknownData series.raw plot.name.raw⟩

/-- All failures of a chart as a whole, rule by rule. -/
def inconsistencies (chart : Chart) : List Failure :=
  repeatedFailures (chart.axes.map Axes.name) ++
    repeatedFailures (chart.plots.map Plot.name) ++
    repeatedFailures (chart.series.map Series.name) ++
    chart.figure.shapeFailures ++
    chart.cellFailures ++
    chart.invocationFailures ++
    chart.drawingFailures ++
    chart.figure.placementFailures

end Chart

/-- A chart whose parts fit together. -/
structure ConsistentChart where
  /-- The chart. -/
  chart : Chart
  /-- Nothing is wrong with it as a whole. -/
  consistent : chart.inconsistencies = []

/-- What a consistent chart may do without. -/
inductive Warning where
  /-- Axes, by index, that stand in no cell. -/
  | unplaced (i : Nat) (name : Identifier .axes)
  /-- A plot, by index, that no axes invoke. -/
  | unused (i : Nat) (name : Identifier .plot)
  deriving DecidableEq

namespace Warning

/-- The remark on axes without a cell. -/
def unplacedRemark (name : Identifier .axes) : String :=
  name.code ++ " is not assigned into any subplot"

/-- The place of a warning. -/
def location : Warning → Location
  | .unplaced i _ => Chart.axesPlace i
  | .unused i _ => Chart.plotPlace i

/-- The wording of a warning. -/
def message : Warning → String
  | .unplaced _ name => unplacedRemark name
  | .unused _ name => "plot " ++ Problem.named name.raw ++ " is not used by any axes"

end Warning

namespace Chart

/-- The chart as a consistent one, or all that is wrong with it as a whole. -/
def check (chart : Chart) : Except Report ConsistentChart :=
  if consistent : chart.inconsistencies = [] then .ok ⟨chart, consistent⟩
  else .error ⟨chart.inconsistencies⟩

/-- The warnings of a chart, by its index: axes first, then plots. -/
def warnings (chart : Chart) : List Warning :=
  let index := Index.ofChart chart
  (chart.axes.zipIdx.filterMap fun (axes, i) =>
    if index.isPlaced axes.name then none else some (.unplaced i axes.name)) ++
  (chart.plots.zipIdx.filterMap fun (plot, i) =>
    if index.isUsed plot.name then none else some (.unused i plot.name))

end Chart

end ChartScript
