import ChartScript.Proofs.PlotPart
import ChartScript.Proofs.Scope

/-!
# The names of the parts of a script

The figure part binds the figure and its subplots, the axes part the axes in cells, the data part
the series, and the plot part nothing. Each part reads only what the ones before it bind. The codes
of axes and of series start with different leads, none of which starts a name that every script
uses, so all these names are distinct.
-/

namespace ChartScript

namespace Chart

variable (chart : Chart)

/-- The lines of a block that do something. -/
def actingLines (block : Block) : List Line :=
  (chart.blockLines block).filter fun line => !line.isLoose

/-- The codes of the axes that stand in a cell, in order. -/
def placedCodes : List String :=
  (chart.axes.filter fun axes => (chart.cellOf? axes.name.code).isSome).map
    fun axes => axes.name.code

/-- The names that a block binds. -/
def blockNames : Block → List String
  | .figure => ["fig", "axes"]
  | .axes => chart.placedCodes
  | .data => chart.seriesCodes
  | .plot => []

/-- The live texts of lines are those of the lines that do something. -/
theorem live_map_render (lines : List Line) :
    Script.live (lines.map Line.render) =
      (lines.filter fun line => !line.isLoose).map Line.render := by
  rw [Script.live, List.filter_map]
  congr 2
  funext line
  rw [Function.comp_apply, Line.isRemark_render]

/-- The live texts of a block. -/
theorem live_blockTexts (block : Block) :
    Script.live (chart.blockTexts block) = (chart.actingLines block).map Line.render :=
  live_map_render _

/-- Lines that do something show the names that they bind. -/
theorem flatMap_binds_render {lines : List Line} (acts : ∀ line ∈ lines, line.isLoose = false) :
    (lines.map Line.render).flatMap Script.binds = lines.flatMap Line.binds := by
  rw [List.flatMap_map]
  apply List.flatMap_congr
  intro line member
  exact (Line.ofText_render (acts line member)).1

/-- The lines of a block that do something do something. -/
theorem isLoose_of_mem_actingLines {block : Block} {line : Line}
    (member : line ∈ chart.actingLines block) : line.isLoose = false := by
  simpa using (List.mem_filter.1 member).2

/-- The names that the lines of a block bind, in order. -/
theorem flatMap_binds_actingLines (block : Block) :
    (chart.actingLines block).flatMap Line.binds = chart.blockNames block := by
  cases block with
  | figure => rfl
  | axes =>
    have placed : ∀ axes : Axes, (!(chart.axesLine axes.name).isLoose) =
        (chart.cellOf? axes.name.code).isSome := by
      intro axes
      rw [axesLine]
      cases chart.cellOf? axes.name.code <;> rfl
    rw [actingLines, blockLines, List.filter_map, List.flatMap_map, blockNames, placedCodes,
      List.map_eq_flatMap]
    simp only [Function.comp_def, placed]
    apply List.flatMap_congr
    intro axes member
    obtain ⟨cell, found⟩ := Option.isSome_iff_exists.1 (List.mem_filter.1 member).2
    rw [axesLine, found]
    rfl
  | data =>
    rw [actingLines, blockLines, List.filter_map, List.flatMap_map, blockNames, seriesCodes,
      List.map_eq_flatMap]
    have all : (chart.series.filter ((fun line : Line => !line.isLoose) ∘ Line.bindSeries)) =
        chart.series := List.filter_eq_self.2 fun _ _ => rfl
    rw [all]
    rfl
  | plot =>
    rw [List.flatMap_eq_nil_iff.2]
    · rfl
    · intro line member
      obtain ⟨plot, -, inside⟩ := List.mem_flatMap.1 (List.mem_filter.1 member).1
      obtain ⟨axes, -, rfl⟩ := List.mem_map.1 inside
      rw [drawLine]
      split <;> rfl

/-- The statements of a block: its lines that do something, and the empty line after them. -/
def blockStatements (shape : ScriptShape) (block : Block) : List Statement :=
  (chart.actingLines block ++ [Line.blank]).map fun line : Line =>
    Statement.inBody shape line.render

/-- The statements of a body are those of its four blocks. -/
theorem live_body (shape : ScriptShape) :
    (Script.live (chart.body.map Line.render)).map (Statement.inBody shape) =
      [Block.figure, .axes, .data, .plot].flatMap (chart.blockStatements shape) := by
  rw [live_map_render, body, List.filter_flatMap, List.map_flatMap, List.map_flatMap]
  apply List.flatMap_congr
  intro block _
  rw [blockStatements, List.map_map, actingLines, List.filter_append,
    List.filter_cons_of_neg (by rw [Line.isLoose]; decide)]
  rfl

/-- The statements of a block bind the names of the block. -/
theorem flatMap_binds_blockStatements (shape : ScriptShape) (block : Block) :
    (chart.blockStatements shape block).flatMap Statement.binds = chart.blockNames block := by
  have acts : ∀ line ∈ chart.actingLines block ++ [Line.blank], line.isLoose = false := by
    intro line member
    rcases List.mem_append.1 member with inside | last
    · exact chart.isLoose_of_mem_actingLines inside
    · rw [List.mem_singleton.1 last]
      rfl
  have texts : (chart.blockStatements shape block).flatMap Statement.binds =
      ((chart.actingLines block ++ [Line.blank]).map Line.render).flatMap Script.binds := by
    rw [blockStatements, List.flatMap_map, List.flatMap_map]
    rfl
  rw [texts, flatMap_binds_render acts, List.flatMap_append, flatMap_binds_actingLines]
  exact List.append_nil _

/-- A statement of a block reads what a line of the block reads. -/
theorem exists_line_of_reads {shape : ScriptShape} {block : Block} {statement : Statement}
    {name : String} (member : statement ∈ chart.blockStatements shape block)
    (reads : name ∈ statement.reads) :
    ∃ line ∈ chart.actingLines block, line.render ≠ "" ∧ name ∈ line.reads ∧
      statement = Statement.inBody shape line.render := by
  obtain ⟨line, listed, rfl⟩ := List.mem_map.1 member
  rcases List.mem_append.1 listed with inside | last
  · have acts := chart.isLoose_of_mem_actingLines inside
    have inner := isFrame_of_mem_blockLines (List.mem_filter.1 inside).1
    refine ⟨line, inside, Line.render_ne_empty inner, ?_, rfl⟩
    rw [← (Line.ofText_render acts).2]
    exact reads
  · rw [List.mem_singleton.1 last] at reads
    have none : Script.reads (Line.render .blank) = [] := (Line.ofText_render rfl).2
    rw [Statement.reads, Statement.inBody, none] at reads
    cases reads

variable {chart}

/-- A placed code is the code of axes in a cell. -/
theorem mem_placedCodes {code : String} :
    code ∈ chart.placedCodes ↔
      ∃ axes ∈ chart.axes, axes.name.code = code ∧ ∃ cell, chart.cellOf? code = some cell := by
  simp only [placedCodes, List.mem_map, List.mem_filter, Option.isSome_iff_exists]
  constructor
  · rintro ⟨axes, ⟨member, placed⟩, rfl⟩
    exact ⟨axes, member, rfl, placed⟩
  · rintro ⟨axes, member, rfl, placed⟩
    exact ⟨axes, ⟨member, placed⟩, rfl⟩

/-- The names of the axes part and the data part are codes of axes or of series. -/
theorem code_of_mem_names {name : String} (member : name ∈ chart.placedCodes ++ chart.seriesCodes) :
    (∃ axes : Identifier .axes, axes.code = name) ∨
      ∃ series : Identifier .data, series.code = name := by
  rcases List.mem_append.1 member with placed | given
  · obtain ⟨axes, -, same, -⟩ := mem_placedCodes.1 placed
    exact .inl ⟨axes.name, same⟩
  · obtain ⟨series, -, same⟩ := List.mem_map.1 given
    exact .inr ⟨series.name, same⟩

end Chart

namespace Identifier

/-- No script uses the code of axes for itself. -/
theorem axesCode_not_mem_fixedNames (axes : Identifier .axes) : axes.code ∉ Script.fixedNames := by
  intro member
  simp only [Script.fixedNames, List.mem_cons, List.not_mem_nil, or_false] at member
  have chars := axes.toList_axesCode
  rcases member with same | same | same | same | same <;> simp [same] at chars

/-- No script uses the code of a series for itself. -/
theorem dataCode_not_mem_fixedNames (series : Identifier .data) :
    series.code ∉ Script.fixedNames := by
  intro member
  simp only [Script.fixedNames, List.mem_cons, List.not_mem_nil, or_false] at member
  have chars := series.toList_dataCode
  rcases member with same | same | same | same | same <;> simp [same] at chars

end Identifier

namespace Chart

variable {chart : Chart}

/-- In a coherent chart, no name of the axes part or the data part comes twice. -/
theorem Coherent.nodup_names (coherent : chart.Coherent) :
    (chart.placedCodes ++ chart.seriesCodes).Nodup := by
  rw [List.nodup_append]
  refine ⟨?_, ?_, ?_⟩
  · rw [placedCodes, List.Nodup, List.pairwise_map]
    exact coherent.axesDiffer.filter _
  · rw [seriesCodes, List.Nodup, List.pairwise_map]
    exact coherent.seriesDiffer
  · intro code placed other given same
    obtain ⟨axes, -, rfl, -⟩ := mem_placedCodes.1 placed
    obtain ⟨series, -, rfl⟩ := List.mem_map.1 given
    exact axes.name.axesCode_ne_dataCode series.name same

/-- No script uses a name of the axes part or the data part for itself. -/
theorem not_mem_fixedNames {name : String}
    (member : name ∈ chart.placedCodes ++ chart.seriesCodes) : name ∉ Script.fixedNames := by
  rcases code_of_mem_names member with ⟨axes, rfl⟩ | ⟨series, rfl⟩
  · exact axes.axesCode_not_mem_fixedNames
  · exact series.dataCode_not_mem_fixedNames

end Chart

namespace Chart

variable {chart : Chart}

/-- The names that a block reads: each is bound in front of it. -/
def neededNames (chart : Chart) : Block → List String
  | .figure => ["plt"]
  | .axes => ["axes"]
  | .data => []
  | .plot => chart.placedCodes ++ chart.seriesCodes

/-- In a coherent chart, what a plot draws is among the series. -/
theorem Coherent.mem_seriesCodes (coherent : chart.Coherent) {plot : Plot}
    (found : plot ∈ chart.plots) {x y : Identifier .data} (drawn : plot.relation = .plot x y) :
    x.code ∈ chart.seriesCodes ∧ y.code ∈ chart.seriesCodes := by
  obtain ⟨⟨first, given, same⟩, second, given', same'⟩ := coherent.drawingsMet plot found x y drawn
  exact ⟨List.mem_map.2 ⟨first, given, same⟩, List.mem_map.2 ⟨second, given', same'⟩⟩

/-- In a coherent chart, the lines of a block read what the block needs. -/
theorem Coherent.mem_neededNames (coherent : chart.Coherent) {block : Block} {line : Line}
    (member : line ∈ chart.actingLines block) {name : String} (reads : name ∈ line.reads) :
    name ∈ chart.neededNames block := by
  obtain ⟨listed, acts⟩ := List.mem_filter.1 member
  cases block with
  | figure =>
    rw [blockLines, List.mem_singleton] at listed
    rw [listed] at reads
    exact reads
  | axes =>
    obtain ⟨axes, -, rfl⟩ := List.mem_map.1 listed
    rw [axesLine] at reads acts
    cases place : chart.cellOf? axes.name.code with
    | none =>
      rw [place] at acts
      cases acts
    | some cell =>
      rw [place] at reads
      exact reads
  | data =>
    obtain ⟨series, -, rfl⟩ := List.mem_map.1 listed
    cases reads
  | plot =>
    obtain ⟨plot, found, inside⟩ := List.mem_flatMap.1 listed
    obtain ⟨caller, called, rfl⟩ := List.mem_map.1 inside
    obtain ⟨axes, calls, rfl⟩ := List.mem_map.1 called
    rw [drawLine] at reads acts
    cases place : chart.cellOf? axes.name.code with
    | none =>
      rw [place] at acts
      cases acts
    | some cell =>
      rw [place] at reads
      rcases List.mem_cons.1 reads with same | drawn
      · exact List.mem_append_left _
          (mem_placedCodes.2 ⟨axes, (List.mem_filter.1 calls).1, same.symm, cell, same ▸ place⟩)
      · apply List.mem_append_right
        obtain ⟨x, y, relation⟩ := plot.relation.exists_plot
        obtain ⟨givenX, givenY⟩ := coherent.mem_seriesCodes found relation
        rw [Plot.arguments, relation] at drawn
        rcases List.mem_cons.1 drawn with rfl | last
        · exact givenX
        · rw [List.map_cons, List.map_nil, List.mem_singleton] at last
          rw [last]
          exact givenY

/-- Statements of a block stand inside the function, if there is one, or bind nothing. -/
theorem level_of_mem_blockStatements {shape : ScriptShape} {block : Block} {statement : Statement}
    (member : statement ∈ chart.blockStatements shape block) :
    (statement.nested = true → shape = .function) ∧
      (shape = .function → statement.nested = false → statement.binds = []) := by
  obtain ⟨line, -, rfl⟩ := List.mem_map.1 member
  constructor
  · intro nested
    cases shape with
    | procedure => cases nested
    | function => rfl
  · rintro rfl outer
    have empty : line.render = "" := by simpa [Statement.inBody] using outer
    rw [Statement.binds, Statement.inBody, empty]
    decide

/-- A statement of a block that reads something sees all that stands in front of it. -/
theorem sees_of_reads {shape : ScriptShape} {block : Block} {reader other : Statement}
    {name : String} (member : reader ∈ chart.blockStatements shape block)
    (reads : name ∈ reader.reads)
    (level : other.nested = true → shape = .function) : reader.sees other = true := by
  obtain ⟨line, -, filled, -, rfl⟩ := chart.exists_line_of_reads member reads
  rw [Statement.sees, Statement.inBody]
  cases nested : other.nested with
  | false => simp
  | true =>
    rw [level nested]
    simp [filled]

/-- A block has its reads bound behind statements that bind what it needs. -/
theorem Coherent.readsBound_block (coherent : chart.Coherent) {shape : ScriptShape} {block : Block}
    {earlier : List Statement}
    (level : ∀ statement ∈ earlier, statement.nested = true → shape = .function)
    (bound : ∀ name ∈ chart.neededNames block, name ∈ earlier.flatMap Statement.binds)
    (distinct : ((earlier ++ chart.blockStatements shape block).flatMap Statement.binds).Nodup) :
    Statement.ReadsBound earlier (chart.blockStatements shape block) := by
  apply Statement.readsBound_of_seen
  · intro reader member name reads
    obtain ⟨line, acting, -, shown, -⟩ := chart.exists_line_of_reads member reads
    rw [Statement.namesSeen_eq fun other before => sees_of_reads member reads (level other before)]
    exact bound name (coherent.mem_neededNames acting shown)
  · intro reader _
    exact Statement.nodup_namesSeen distinct

/-- Each block needs only names from outside and names of blocks before it. -/
def Supplied (chart : Chart) : List String → List Block → Prop
  | _, [] => True
  | names, block :: blocks =>
    (∀ name ∈ chart.neededNames block, name ∈ names) ∧
      chart.Supplied (names ++ chart.blockNames block) blocks

/-- Blocks that are supplied have their reads bound. -/
theorem Coherent.readsBound_blocks (coherent : chart.Coherent) {shape : ScriptShape}
    {blocks : List Block} {earlier : List Statement}
    (level : ∀ statement ∈ earlier, statement.nested = true → shape = .function)
    (supplied : chart.Supplied (earlier.flatMap Statement.binds) blocks)
    (distinct : (earlier.flatMap Statement.binds ++ blocks.flatMap chart.blockNames).Nodup) :
    Statement.ReadsBound earlier (blocks.flatMap (chart.blockStatements shape)) := by
  induction blocks generalizing earlier with
  | nil =>
    intro before reader after split
    exact absurd split.symm (by simp)
  | cons block blocks ih =>
    have names : (earlier ++ chart.blockStatements shape block).flatMap Statement.binds =
        earlier.flatMap Statement.binds ++ chart.blockNames block := by
      rw [List.flatMap_append, flatMap_binds_blockStatements]
    rw [List.flatMap_cons, ← List.append_assoc] at distinct
    rw [List.flatMap_cons]
    apply (coherent.readsBound_block level supplied.1 ?_).append
    · apply ih
      · intro statement member
        rcases List.mem_append.1 member with before | inside
        · exact level statement before
        · exact (level_of_mem_blockStatements inside).1
      · rw [names]
        exact supplied.2
      · rw [names]
        exact distinct
    · rw [names]
      exact (List.nodup_append.1 distinct).1

/-- The blocks of a body are supplied when the plotting module is there. -/
theorem supplied_body {names : List String} (plotting : "plt" ∈ names) :
    chart.Supplied names [.figure, .axes, .data, .plot] := by
  refine ⟨?_, ?_, ?_, ?_, trivial⟩
  · intro name needed
    rw [List.mem_singleton.1 needed]
    exact plotting
  · intro name needed
    rw [List.mem_singleton.1 needed]
    exact List.mem_append_right _ (by simp [blockNames])
  · intro name needed
    cases needed
  · intro name needed
    rw [List.append_assoc]
    exact List.mem_append_right _ needed

end Chart

namespace Chart

variable {chart : Chart} {shape : ScriptShape}

/-- The statements in front of and in a body. -/
def upperStatements (chart : Chart) (shape : ScriptShape) : List Statement :=
  Script.openingStatements shape ++
    [Block.figure, .axes, .data, .plot].flatMap (chart.blockStatements shape)

/-- The names that the statements in front of and in a body bind. -/
theorem flatMap_binds_upperStatements :
    (chart.upperStatements shape).flatMap Statement.binds =
      (Script.openingStatements shape).flatMap Statement.binds ++ ["fig", "axes"] ++
        (chart.placedCodes ++ chart.seriesCodes) := by
  rw [upperStatements, List.flatMap_append, List.append_assoc]
  simp only [List.flatMap_cons, List.flatMap_nil, List.flatMap_append, List.append_nil,
    flatMap_binds_blockStatements, blockNames]

/-- In a coherent chart, the statements in front of and in a body bind no name twice. -/
theorem Coherent.nodup_upperStatements (coherent : chart.Coherent) (shape : ScriptShape) :
    ((chart.upperStatements shape).flatMap Statement.binds).Nodup := by
  have fixed : ((Script.openingStatements shape).flatMap Statement.binds ++
      ["fig", "axes"]).Nodup := by
    cases shape <;> decide +kernel
  rw [flatMap_binds_upperStatements, List.nodup_append]
  refine ⟨fixed, coherent.nodup_names, ?_⟩
  rintro name used other given rfl
  exact not_mem_fixedNames given (Script.mem_fixedNames_of_opening used)

/-- The statements of a body. -/
theorem mem_body_iff {statement : Statement} :
    statement ∈ [Block.figure, .axes, .data, .plot].flatMap (chart.blockStatements shape) ↔
      ∃ block, statement ∈ chart.blockStatements shape block := by
  rw [List.mem_flatMap]
  constructor
  · rintro ⟨block, -, member⟩
    exact ⟨block, member⟩
  · rintro ⟨block, member⟩
    exact ⟨block, by cases block <;> simp, member⟩

/-- In a coherent chart, the statements of a script have their reads bound. -/
theorem Coherent.readsBound_script (coherent : chart.Coherent) :
    Statement.ReadsBound [] (chart.upperStatements shape ++
      (Script.returnStatements shape ++ Script.closingStatements shape ++ [Script.saving])) := by
  have distinct := coherent.nodup_upperStatements shape
  have plotting : "plt" ∈ (Script.openingStatements shape).flatMap Statement.binds := by
    cases shape <;> decide +kernel
  have inner : Statement.ReadsBound (Script.openingStatements shape)
      ([Block.figure, .axes, .data, .plot].flatMap (chart.blockStatements shape)) := by
    apply coherent.readsBound_blocks
    · intro statement member nested
      rw [Script.nested_of_mem_openingStatements member] at nested
      cases nested
    · exact supplied_body plotting
    · simpa only [flatMap_binds_upperStatements, List.flatMap_cons, List.flatMap_nil, blockNames,
        List.append_nil, List.append_assoc] using distinct
  have figure : "fig" ∈ ([Block.figure, .axes, .data, .plot].flatMap
      (chart.blockStatements shape)).flatMap Statement.binds := by
    rw [List.flatMap_cons, List.flatMap_append, flatMap_binds_blockStatements]
    exact List.mem_append_left _ List.mem_cons_self
  have closing : Statement.ReadsBound (chart.upperStatements shape)
      (Script.returnStatements shape ++ Script.closingStatements shape ++ [Script.saving]) := by
    cases shape with
    | procedure =>
      apply Script.readsBound_closing_procedure _ figure distinct
      intro statement member
      obtain ⟨block, inside⟩ := mem_body_iff.1 member
      cases nested : statement.nested with
      | false => rfl
      | true => cases (level_of_mem_blockStatements inside).1 nested
    | function =>
      apply Script.readsBound_closing_function _ figure distinct
      intro statement member
      obtain ⟨block, inside⟩ := mem_body_iff.1 member
      exact (level_of_mem_blockStatements inside).2 rfl
  exact ((Script.readsBound_opening shape).append inner).append closing

end Chart

end ChartScript
