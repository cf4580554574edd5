import ChartScript.Proofs.Document
import ChartScript.Proofs.Grid
import ChartScript.Proofs.Line
import ChartScript.Proofs.Mirror
import ChartScript.Proofs.Stages

/-!
# Where the failures of a whole chart point

The rules for a whole chart build their places from the indices of its parts, while a reader follows
them through the description that was sent in. The two agree: a failure about a name leads to the
text that is the name, and its message quotes it first; one about a list or the grid leads to all of
it. A name that is not met belongs to no entry of the list it refers to.
-/

namespace ChartScript

namespace Json

/-- A member of an object is one step into it. -/
theorem IsObject.reaches {value : Json} {declared : List String} {members : Members}
    (object : value.IsObject declared members) {key : String} {Fits : Json → Prop}
    (has : members.Has key Fits) :
    ∃ inner, Fits inner ∧ ∀ path, value.at? (.key key :: path) = inner.at? path := by
  obtain ⟨inner, found, fits⟩ := has
  refine ⟨inner, fits, fun path => ?_⟩
  rw [object.1, ← List.singleton_append,
    at?_append_of_eq_some (at?_key.2 ⟨members, inner, rfl, found, rfl⟩)]

/-- An item of a list is one step into it, and stands for its thing. -/
theorem IsList.reaches {α : Type} {StandsFor : Json → α → Prop} {value : Json} {things : List α}
    (listed : value.IsList StandsFor things) {i : Nat} {thing : α}
    (there : things[i]? = some thing) :
    ∃ item, StandsFor item thing ∧ ∀ path, value.at? (.index i :: path) = item.at? path := by
  obtain ⟨items, rfl, related⟩ := listed
  obtain ⟨inside, rfl⟩ := List.getElem?_eq_some_iff.1 there
  have inside' : i < items.length := related.length_eq ▸ inside
  refine ⟨items[i], related.get inside' inside, fun path => ?_⟩
  rw [← List.singleton_append, at?_append_of_eq_some
    (at?_index.2 ⟨items, items[i], rfl, List.getElem?_eq_getElem inside', rfl⟩)]

/-- A value has, under `name`, a name of a code. -/
def IsNamed (space : Namespace) (value : Json) (code : String) : Prop :=
  ∃ raw, value.at? [.key "name"] = some (.string raw) ∧ space.code raw = code

/-- An object with a member that spells a name is named by its code. -/
theorem IsObject.isNamed {value : Json} {declared : List String} {members : Members}
    (object : value.IsObject declared members) {space : Namespace} {name : Identifier space}
    (has : members.Has "name" name.SpelledBy) : value.IsNamed space name.code := by
  obtain ⟨_, ⟨raw, rfl, -, rfl, -⟩, leads⟩ := object.reaches has
  exact ⟨name.raw, leads [], rfl⟩

/-- Named items carry the codes of the things they stand for. -/
theorem IsList.forall₂_isNamed {α : Type} {StandsFor : Json → α → Prop} {value : Json}
    {things : List α} (listed : value.IsList StandsFor things) {space : Namespace}
    {code : α → String}
    (named : ∀ item thing, StandsFor item thing → item.IsNamed space (code thing)) :
    ∃ items, value = .array items ∧ List.Forall₂ (IsNamed space) items (things.map code) := by
  obtain ⟨items, rfl, related⟩ := listed
  exact ⟨items, rfl, List.forall₂_map_right_iff.2 (related.imp named)⟩

end Json

namespace Chart

/-- The codes of the entries that names of a namespace refer to. -/
def codes (chart : Chart) : Namespace → List String
  | .axes => chart.axesCodes
  | .plot => chart.plotCodes
  | .data => chart.seriesCodes

/-- The places of a description that refer to an entry of a namespace. -/
inductive RefersTo : Namespace → List Location.Step → Prop where
  /-- A cell of the grid refers to axes. -/
  | cell (row column : Nat) :
      RefersTo .axes [.key "figure", .key "axes", .index row, .index column]
  /-- Axes refer to the plots that they invoke. -/
  | invocation (i j : Nat) : RefersTo .plot [.key "axes", .index i, .key "plot", .index j]
  /-- A plot refers to the series that it draws. -/
  | drawing (i : Nat) {field : String} (drawn : field = "x" ∨ field = "y") :
      RefersTo .data [.key "plot", .index i, .key "data", .key field]

namespace Mirrors

variable {chart : Chart} {value : Json}

/-- The grid of a chart is all that a description holds under the key of the grid. -/
theorem grid (mirrored : chart.Mirrors value) :
    ∃ grid : Json, grid.IsList (Json.IsList Grid.CellMirrors) chart.figure.grid ∧
      ∀ path, value.at? (.key "figure" :: .key "axes" :: path) = grid.at? path := by
  obtain ⟨members, object, -, hasFigure, -⟩ := mirrored
  obtain ⟨figure, ⟨_, object', -, hasGrid, -⟩, toFigure⟩ := object.reaches hasFigure
  obtain ⟨grid, listed, toGrid⟩ := object'.reaches hasGrid
  exact ⟨grid, listed, fun path => (toFigure _).trans (toGrid path)⟩

/-- The place of a cell leads to the spelling of the name in it. -/
theorem cell (mirrored : chart.Mirrors value) {cell : Cell} {name : Identifier .axes}
    (held : chart.figure.grid.at? cell = some name) :
    value.at? (Figure.cellPlace cell).steps = some (.string name.raw) := by
  obtain ⟨grid, listed, toGrid⟩ := mirrored.grid
  rw [Grid.at?, Option.join_eq_some_iff, Option.bind_eq_some_iff] at held
  obtain ⟨cells, inGrid, inRow⟩ := held
  obtain ⟨row, listed', toRow⟩ := listed.reaches inGrid
  obtain ⟨content, filled, toCell⟩ := listed'.reaches inRow
  have leads : value.at? (Figure.cellPlace cell).steps = some content :=
    (toGrid _).trans ((toRow _).trans (toCell []))
  rcases filled with ⟨-, ⟨⟩⟩ | ⟨_, ⟨⟩, raw, rfl, -, rfl, -⟩
  exact leads

/-- The place of an invocation leads to the spelling of the plot's name. -/
theorem invocation (mirrored : chart.Mirrors value) {i j : Nat} {axes : Axes}
    {invoked : Identifier .plot} (found : chart.axes[i]? = some axes)
    (listed : axes.plots[j]? = some invoked) :
    value.at? [.key "axes", .index i, .key "plot", .index j] = some (.string invoked.raw) := by
  obtain ⟨members, object, -, -, hasAxes, -⟩ := mirrored
  obtain ⟨list, axesListed, toList⟩ := object.reaches hasAxes
  obtain ⟨item, ⟨_, object', -, hasPlots, -⟩, toItem⟩ := axesListed.reaches found
  obtain ⟨plots, plotsListed, toPlots⟩ := object'.reaches hasPlots
  obtain ⟨_, ⟨raw, rfl, -, rfl, -⟩, toName⟩ := plotsListed.reaches listed
  rw [toList, toItem, toPlots, toName, Json.at?_nil]

/-- The place of a drawing leads to the spelling of the series' name. -/
theorem drawing (mirrored : chart.Mirrors value) {i : Nat} {plot : Plot}
    (found : chart.plots[i]? = some plot) {field : String} {series : Identifier .data}
    (drawn : (field, series) ∈ plot.relation.references) :
    (field = "x" ∨ field = "y") ∧
      value.at? [.key "plot", .index i, .key "data", .key field] = some (.string series.raw) := by
  obtain ⟨members, object, -, -, -, hasPlots, -⟩ := mirrored
  obtain ⟨list, plotsListed, toList⟩ := object.reaches hasPlots
  obtain ⟨item, ⟨_, object', -, hasData, -⟩, toItem⟩ := plotsListed.reaches found
  obtain ⟨data, ⟨_, x, y, object'', -, hasX, hasY, same⟩, toData⟩ := object'.reaches hasData
  rw [same, Relation.references, List.mem_cons, List.mem_singleton] at drawn
  rw [toList, toItem, toData]
  rcases drawn with same | same
  · obtain ⟨rfl, rfl⟩ := Prod.mk.inj same
    obtain ⟨_, ⟨raw, rfl, -, rfl, -⟩, toName⟩ := object''.reaches hasX
    exact ⟨.inl rfl, toName []⟩
  · obtain ⟨rfl, rfl⟩ := Prod.mk.inj same
    obtain ⟨_, ⟨raw, rfl, -, rfl, -⟩, toName⟩ := object''.reaches hasY
    exact ⟨.inr rfl, toName []⟩

/-- The list of a namespace is all that a description holds under the key of the list, and its items
carry the codes of the entries. -/
theorem list (mirrored : chart.Mirrors value) (space : Namespace) :
    ∃ items, value.at? [.key space.label] = some (.array items) ∧
      List.Forall₂ (Json.IsNamed space) items (chart.codes space) := by
  obtain ⟨members, object, -, -, hasAxes, hasPlots, hasSeries⟩ := mirrored
  cases space with
  | axes =>
    obtain ⟨_, listed, leads⟩ := object.reaches hasAxes
    obtain ⟨items, rfl, named⟩ := listed.forall₂_isNamed fun _ _ ⟨_, object', has, _⟩ =>
      object'.isNamed has
    exact ⟨items, leads [], named⟩
  | plot =>
    obtain ⟨_, listed, leads⟩ := object.reaches hasPlots
    obtain ⟨items, rfl, named⟩ := listed.forall₂_isNamed fun _ _ ⟨_, object', has, _⟩ =>
      object'.isNamed has
    exact ⟨items, leads [], named⟩
  | data =>
    obtain ⟨_, listed, leads⟩ := object.reaches hasSeries
    obtain ⟨items, rfl, named⟩ := listed.forall₂_isNamed fun _ _ ⟨_, object', has, _⟩ =>
      object'.isNamed has
    exact ⟨items, leads [], named⟩

end Mirrors

end Chart

/-- A text is the first one that a message puts between apostrophes. -/
def QuotesFirst (message raw : String) : Prop :=
  ∃ lead rest, message = lead ++ Problem.named raw ++ rest ∧ '\'' ∉ lead.toList ∧ '\'' ∉ raw.toList

/-- A character that is no identifier character, nor a hyphen, is not in the spelling of a name. -/
theorem Identifier.not_mem_raw {space : Namespace} (name : Identifier space) {c : Char}
    (stop : isIdentifierTail c = false) (other : c ≠ '-') : c ∉ name.raw.toList := by
  intro member
  apply name.not_mem_code stop
  rw [code, Namespace.code, underscored, String.toList_append, String.toList_ofList]
  refine List.mem_append_right _ (List.mem_map.2 ⟨c, member, if_neg other⟩)

/-- A message that leads up to a name quotes the name first. -/
theorem Identifier.quotesFirst {space : Namespace} (name : Identifier space) {message lead : String}
    (rest : String) (clear : '\'' ∉ lead.toList)
    (words : message = lead ++ Problem.named name.raw ++ rest) :
    QuotesFirst message name.raw :=
  ⟨lead, rest, words, clear, name.not_mem_raw (by decide) (by decide)⟩

/-- The text of a cell has no apostrophes. -/
theorem Cell.not_mem_render (cell : Cell) : '\'' ∉ cell.render.toList := by
  have clear (n : Nat) : '\'' ∉ Nat.toDigits 10 n := not_mem_toDigits n (by decide)
  simp [render, clear]

namespace Chart

variable {chart : Chart} {value : Json} {failure : Failure}

/-- A failure points at the value of a description that it is about. -/
structure PointsInto (chart : Chart) (value : Json) (failure : Failure) : Prop where
  /-- It is about the parts of the chart together. -/
  isMutual : failure.problem.IsMutual
  /-- Its place leads to a value. -/
  leads : ∃ found, value.at? failure.location.steps = some found
  /-- If a name is not met, the place refers to entries of a namespace and leads to the name that
  the message quotes first. It is a safe name whose code no entry has. -/
  unmet : failure.problem.kind = .reference → ∃ space raw, RefersTo space failure.location.steps ∧
    value.at? failure.location.steps = some (.string raw) ∧
    QuotesFirst failure.problem.message raw ∧
    ∃ name, Identifier.sanitize space raw = .ok name ∧ name.code ∉ chart.codes space
  /-- If axes are placed again, the place leads to the name that the message quotes first. -/
  placed : failure.problem.kind = .placement → ∃ raw,
    value.at? failure.location.steps = some (.string raw) ∧
    QuotesFirst failure.problem.message raw
  /-- If names repeat, the place leads to the whole list of the entries. -/
  repeated : failure.problem.kind = .uniqueness → ∃ space items,
    failure.location.steps = [.key space.label] ∧
    value.at? failure.location.steps = some (.array items) ∧
    List.Forall₂ (Json.IsNamed space) items (chart.codes space)
  /-- If the grid is not of the declared size, the place leads to the whole grid. -/
  misshapen : failure.problem.kind = .dimension → ∃ grid,
    failure.location.steps = [.key "figure", .key "axes"] ∧
    value.at? failure.location.steps = some grid ∧
    grid.IsList (Json.IsList Grid.CellMirrors) chart.figure.grid

namespace PointsInto

/-- A failure of a reference points at the name that is not met. -/
theorem of_unmet {place : Location} {problem : Problem} {space : Namespace}
    {name : Identifier space} (kind : problem.kind = .reference)
    (refers : RefersTo space place.steps) (leads : value.at? place.steps = some (.string name.raw))
    (quotes : QuotesFirst problem.message name.raw) (unmet : name.code ∉ chart.codes space) :
    chart.PointsInto value ⟨place, problem⟩ where
  isMutual := .inr (.inr (.inl kind))
  leads := ⟨_, leads⟩
  unmet _ := ⟨space, name.raw, refers, leads, quotes, name,
    Identifier.sanitize_eq_ok_iff.2 rfl, unmet⟩
  placed other := by cases kind.symm.trans other
  repeated other := by cases kind.symm.trans other
  misshapen other := by cases kind.symm.trans other

/-- A failure of names that share a code points at their list. -/
theorem of_repeated (mirrored : chart.Mirrors value) {space : Namespace}
    {names : List (Identifier space)} (member : failure ∈ repeatedFailures names) :
    chart.PointsInto value failure := by
  obtain ⟨items, leads, named⟩ := mirrored.list space
  rw [repeatedFailures] at member
  split at member
  · cases member
  · obtain rfl := List.mem_singleton.1 member
    exact {
      isMutual := .inl rfl
      leads := ⟨_, leads⟩
      unmet := by rintro ⟨⟩
      placed := by rintro ⟨⟩
      repeated := fun _ => ⟨space, items, rfl, leads, named⟩
      misshapen := by rintro ⟨⟩ }

/-- The failure of a grid that is not of the declared size points at the grid. -/
theorem of_misshapen (mirrored : chart.Mirrors value)
    (member : failure ∈ chart.figure.shapeFailures) : chart.PointsInto value failure := by
  obtain ⟨grid, listed, leads⟩ := mirrored.grid
  rw [Figure.shapeFailures] at member
  split at member
  · cases member
  · obtain rfl := List.mem_singleton.1 member
    exact {
      isMutual := .inr (.inl rfl)
      leads := ⟨grid, leads []⟩
      unmet := by rintro ⟨⟩
      placed := by rintro ⟨⟩
      repeated := by rintro ⟨⟩
      misshapen := fun _ => ⟨grid, rfl, leads [], listed⟩ }

/-- A failure of a cell that names no axes points at the name in the cell. -/
theorem of_cell (mirrored : chart.Mirrors value) (member : failure ∈ chart.cellFailures) :
    chart.PointsInto value failure := by
  rw [cellFailures, List.mem_filterMap] at member
  obtain ⟨⟨cell, name⟩, held, fails⟩ := member
  dsimp only at fails
  split at fails
  · cases fails
  · next unmet =>
    cases fails
    have clear : '\'' ∉ ("Cannot find figure.axes" ++ cell.render ++ " = ").toList := by
      simp [cell.not_mem_render]
    exact of_unmet rfl (.cell cell.row cell.column) (mirrored.cell (Grid.mem_placements.1 held))
      (name.quotesFirst " in axes names" clear rfl) (by simpa [codes] using unmet)

/-- A failure of axes that invoke no plot points at the name they invoke. -/
theorem of_invocation (mirrored : chart.Mirrors value)
    (member : failure ∈ chart.invocationFailures) : chart.PointsInto value failure := by
  rw [invocationFailures, List.mem_flatMap] at member
  obtain ⟨⟨axes, i⟩, found, member⟩ := member
  obtain ⟨⟨plot, j⟩, listed, fails⟩ := List.mem_filterMap.1 member
  dsimp only at fails
  split at fails
  · cases fails
  · next unmet =>
    cases fails
    have words := calc (Problem.unknownPlot plot.raw axes.name.raw).message
      _ = "Cannot find plot " ++ Problem.named plot.raw ++ " from axes " ++
          Problem.named axes.name.raw ++ " in plot names" := rfl
      _ = "Cannot find plot " ++ Problem.named plot.raw ++
          (" from axes " ++ Problem.named axes.name.raw ++ " in plot names") := by
        simp only [String.append_assoc]
    exact of_unmet rfl (.invocation i j)
      (mirrored.invocation (List.mem_zipIdx_iff_getElem?.1 found)
        (List.mem_zipIdx_iff_getElem?.1 listed))
      (plot.quotesFirst _ (by simp) words) (by simpa [codes] using unmet)

/-- A failure of a plot that draws no series points at the name it draws. -/
theorem of_drawing (mirrored : chart.Mirrors value) (member : failure ∈ chart.drawingFailures) :
    chart.PointsInto value failure := by
  rw [drawingFailures, List.mem_flatMap] at member
  obtain ⟨⟨plot, i⟩, found, member⟩ := member
  obtain ⟨⟨field, series⟩, drawn, fails⟩ := List.mem_filterMap.1 member
  obtain ⟨known, leads⟩ := mirrored.drawing (List.mem_zipIdx_iff_getElem?.1 found) drawn
  dsimp only at fails
  split at fails
  · cases fails
  · next unmet =>
    cases fails
    have words := calc (Problem.unknownData series.raw plot.name.raw).message
      _ = "Cannot find data " ++ Problem.named series.raw ++ " from plot " ++
          Problem.named plot.name.raw ++ " in data names" := rfl
      _ = "Cannot find data " ++ Problem.named series.raw ++
          (" from plot " ++ Problem.named plot.name.raw ++ " in data names") := by
        simp only [String.append_assoc]
    exact of_unmet rfl (.drawing i known) leads (series.quotesFirst _ (by simp) words)
      (by simpa [codes] using unmet)

/-- A failure of axes that are placed again points at the name in the later cell. -/
theorem of_placed (mirrored : chart.Mirrors value)
    (member : failure ∈ chart.figure.placementFailures) : chart.PointsInto value failure := by
  rw [Figure.placementFailures_eq, List.mem_filterMap] at member
  obtain ⟨⟨cell, name⟩, held, fails⟩ := member
  have leads := mirrored.cell (Grid.mem_placements.1 held)
  dsimp only at fails
  split at fails
  · next first _ =>
    split at fails
    · cases fails
    · cases fails
      have words := calc (Problem.placedBefore name.raw first).message
        _ = "Axes " ++ Problem.named name.raw ++ " is already placed at figure.axes" ++
            first.render := rfl
        _ = "Axes " ++ Problem.named name.raw ++
            (" is already placed at figure.axes" ++ first.render) := String.append_assoc
      exact {
        isMutual := .inr (.inr (.inr rfl))
        leads := ⟨_, leads⟩
        unmet := by rintro ⟨⟩
        placed := fun _ => ⟨name.raw, leads, name.quotesFirst _ (by simp) words⟩
        repeated := by rintro ⟨⟩
        misshapen := by rintro ⟨⟩ }
  · cases fails

end PointsInto

/-- Whatever is wrong with a chart as a whole is at a place of the description it was read from, and
this place holds what the failure is about. -/
theorem confirm_pointsInto {report : Report} (constructed : ofJson value = .ok chart)
    (rejected : chart.confirm.value = .error report) :
    ∀ failure ∈ report.failures, chart.PointsInto value failure := by
  intro failure member
  have mirrored := reads_schema.1 (ofJson_eq_ok_iff.1 constructed)
  rw [value_confirm, check] at rejected
  split at rejected
  · cases rejected
  · cases rejected
    simp only [inconsistencies, List.mem_append] at member
    rcases member with
      ((((((axes | plots) | series) | unfit) | cell) | invocation) | drawing) | placed
    · exact .of_repeated mirrored axes
    · exact .of_repeated mirrored plots
    · exact .of_repeated mirrored series
    · exact .of_misshapen mirrored unfit
    · exact .of_cell mirrored cell
    · exact .of_invocation mirrored invocation
    · exact .of_drawing mirrored drawing
    · exact .of_placed mirrored placed

/-- A description that breaks every rule for whole charts. -/
def strayDescription : Json :=
  .object [
    ("request_id", .string "1b4e28ba-2fa1-11d2-883f-0016d3cca427"),
    ("figure", .object [
      ("size", .object [("row", .number (.integer 2 (by decide))),
        ("column", .number (.integer 3 (by decide)))]),
      ("axes", .array [.array [.string "m-n", .string "c"], .array [.string "m_n"]])]),
    ("axes", .array [.object [("name", .string "m_n"), ("plot", .array [.string "q", .string "r"])],
      .object [("name", .string "m-n"), ("plot", .array [])]]),
    ("plot", .array [.object [("name", .string "q"),
      ("data", .object [("relation", .string "plot"), ("x", .string "u"), ("y", .string "z")])]]),
    ("data", .array [.object [("name", .string "u"), ("value", .array [])]])]

/-- The chart of the description. -/
def strayChart : Chart where
  id := ⟨0x1b4e28ba2fa111d2883f0016d3cca427⟩
  figure := ⟨⟨2, 3⟩, [[some ⟨"m-n", by decide⟩, some ⟨"c", by decide⟩], [some ⟨"m_n", by decide⟩]],
    ⟨none, .space, .function⟩⟩
  axes := [⟨⟨"m_n", by decide⟩, [⟨"q", by decide⟩, ⟨"r", by decide⟩], none⟩,
    ⟨⟨"m-n", by decide⟩, [], none⟩]
  plots := [⟨⟨"q", by decide⟩, .plot ⟨"u", by decide⟩ ⟨"z", by decide⟩, none, .solid⟩]
  series := [⟨⟨"u", by decide⟩, []⟩]

/-- The description is read as the chart. -/
theorem ofJson_strayDescription : ofJson strayDescription = .ok strayChart := by
  apply eq_ok_of_toOption
  decide +kernel

/-- The chart has failures of all kinds, which point into the description. -/
theorem confirm_pointsInto_strayChart :
    ofJson strayDescription = .ok strayChart ∧
      strayChart.confirm.value = .error ⟨strayChart.inconsistencies⟩ ∧
      strayChart.inconsistencies.map (fun failure => failure.problem.kind) =
        [.uniqueness, .dimension, .reference, .reference, .reference, .placement] ∧
      ∀ failure ∈ strayChart.inconsistencies, strayChart.PointsInto strayDescription failure := by
  have rejected : strayChart.confirm.value = .error ⟨strayChart.inconsistencies⟩ := by
    rw [value_confirm, check, dif_neg (by decide +kernel)]
  exact ⟨ofJson_strayDescription, rejected, by decide +kernel,
    confirm_pointsInto ofJson_strayDescription rejected⟩

end Chart

end ChartScript
