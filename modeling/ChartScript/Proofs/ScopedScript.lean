import ChartScript.Proofs.Accepted
import ChartScript.Proofs.BlockNames
import ChartScript.Proofs.Emission

/-!
# Scripts are well scoped

What binds a name of the axes part or of the data part stands in this part, and nothing else binds
the name. So whatever a line of a script reads has one meaning, which an earlier line gives to it.
This holds for the script of every text that is accepted, whatever overrides its style.
-/

namespace ChartScript

namespace ConsistentChart

variable (checked : ConsistentChart) (options : ScriptOptions)

/-- The assigned names of a script are those of the axes part and the data part. -/
theorem assignedNames_outerLines :
    Script.assignedNames (checked.outerLines options) =
      checked.chart.placedCodes ++ checked.chart.seriesCodes := by
  have acts : ∀ block, ∀ line ∈ checked.chart.actingLines block, line.isLoose = false :=
    fun _ _ member => checked.chart.isLoose_of_mem_actingLines member
  rw [Script.assignedNames, checked.part_outerLines, checked.part_outerLines, Chart.live_blockTexts,
    Chart.live_blockTexts, List.flatMap_append, Chart.flatMap_binds_render (acts .axes),
    Chart.flatMap_binds_render (acts .data), Chart.flatMap_binds_actingLines,
    Chart.flatMap_binds_actingLines]
  rfl

/-- The statements of the script of a chart. -/
def statements : List Statement :=
  (checked.script options).statements (options.shapeFor checked.chart.figure.style)
    (options.indentFor checked.chart.figure.style)

/-- The statements of a script. -/
theorem statements_eq :
    checked.statements options =
      checked.chart.upperStatements (options.shapeFor checked.chart.figure.style) ++
        (Script.returnStatements (options.shapeFor checked.chart.figure.style) ++
          Script.closingStatements (options.shapeFor checked.chart.figure.style) ++
          [Script.saving]) := by
  rw [statements, script, Script.statements_arrange, Chart.live_body, Chart.upperStatements]
  simp only [List.append_assoc]

/-- A name of a block is bound by a statement in the part of the block. -/
theorem exists_binder {block : Block} {name : String}
    (member : name ∈ checked.chart.blockNames block) :
    ∃ binder ∈ checked.statements options,
      binder.text ∈ Script.part block (checked.outerLines options) ∧ name ∈ binder.binds := by
  rw [← Chart.flatMap_binds_actingLines] at member
  obtain ⟨line, acting, bound⟩ := List.mem_flatMap.1 member
  refine ⟨Statement.inBody (options.shapeFor checked.chart.figure.style) line.render, ?_, ?_, ?_⟩
  · rw [statements_eq, Chart.upperStatements]
    apply List.mem_append_left
    apply List.mem_append_right
    exact Chart.mem_body_iff.2 ⟨block, List.mem_map.2 ⟨line, List.mem_append_left _ acting, rfl⟩⟩
  · rw [part_outerLines]
    exact List.mem_map.2 ⟨line, (List.mem_filter.1 acting).1, rfl⟩
  · have shown := (Line.ofText_render (checked.chart.isLoose_of_mem_actingLines acting)).1
    rw [Statement.binds, Statement.inBody, shown]
    exact bound

/-- Every name of the axes part or the data part is bound by one statement. -/
theorem bound_once {name : String}
    (member : name ∈ checked.chart.placedCodes ++ checked.chart.seriesCodes) :
    (checked.statements options).countP (fun statement => name ∈ statement.binds) = 1 := by
  have upper : (checked.chart.upperStatements
      (options.shapeFor checked.chart.figure.style)).countP (fun statement =>
        name ∈ statement.binds) = 1 := by
    apply countP_mem_eq_one (checked.coherent.nodup_upperStatements _)
    rw [Chart.flatMap_binds_upperStatements]
    exact List.mem_append_right _ member
  rw [statements_eq, List.countP_append, upper, Nat.add_eq_left, List.countP_eq_zero]
  intro statement last bound
  exact Chart.not_mem_fixedNames member
    (Script.mem_fixedNames_of_closing last (of_decide_eq_true bound))

/-- What binds a name of the axes part or the data part stands in this part. -/
theorem mem_part_of_binds {block : Block} {name : String} {statement : Statement}
    (member : name ∈ checked.chart.blockNames block)
    (assigned : name ∈ checked.chart.placedCodes ++ checked.chart.seriesCodes)
    (stands : statement ∈ checked.statements options) (bound : name ∈ statement.binds) :
    statement.text ∈ Script.part block (checked.outerLines options) := by
  obtain ⟨binder, stands', inside, bound'⟩ := checked.exists_binder options member
  have same := eq_of_countP_eq_one (checked.bound_once options assigned) stands
    (decide_eq_true bound) stands' (decide_eq_true bound')
  rw [same]
  exact inside

/-- The statements of a script have their reads bound. -/
theorem readsBound : Statement.ReadsBound [] (checked.statements options) := by
  rw [statements_eq]
  exact checked.coherent.readsBound_script

/-- What a statement reads of the axes part or the data part is bound before it in this part. -/
theorem exists_binder_before {before after : List Statement} {reader : Statement}
    (split : checked.statements options = before ++ reader :: after) {name : String}
    (reads : name ∈ reader.reads) {block : Block} (member : name ∈ checked.chart.blockNames block)
    (assigned : name ∈ checked.chart.placedCodes ++ checked.chart.seriesCodes) :
    ∃ binder ∈ before, binder.text ∈ Script.part block (checked.outerLines options) ∧
      name ∈ binder.binds := by
  have once := checked.readsBound options before reader after split name reads
  rw [List.nil_append, Statement.bindings] at once
  obtain ⟨binder, earlier, sees⟩ := List.countP_pos_iff.1 (once ▸ Nat.one_pos)
  have bound := (of_decide_eq_true sees).2
  have stands : binder ∈ checked.statements options := by
    rw [split]
    exact List.mem_append_left _ earlier
  exact ⟨binder, earlier, checked.mem_part_of_binds options member assigned stands bound, bound⟩

/-- A statement of the plot part draws on axes in a cell, and what it reads is bound before it. -/
theorem drawn_from_parts {before after : List Statement} {reader : Statement}
    (split : checked.statements options = before ++ reader :: after)
    (inside : reader.text ∈ Script.part .plot (checked.outerLines options)) :
    ∃ axes x y style, reader.text = drawingText axes x y style ∧
      (∃ binder ∈ before, binder.text ∈ Script.part .axes (checked.outerLines options) ∧
        axes ∈ binder.binds) ∧
      (∃ binder ∈ before, binder.text ∈ Script.part .data (checked.outerLines options) ∧
        x ∈ binder.binds) ∧
      ∃ binder ∈ before, binder.text ∈ Script.part .data (checked.outerLines options) ∧
        y ∈ binder.binds := by
  have stands : reader ∈ checked.statements options := by
    rw [split]
    exact List.mem_append_right _ List.mem_cons_self
  have live : reader.text ∈ Script.live (checked.chart.blockTexts .plot) := by
    rw [part_outerLines] at inside
    exact List.mem_filter.2 ⟨inside, (List.mem_filter.1 stands).2⟩
  obtain ⟨plot, axes, x, y, invoked, relation, ⟨cell, held⟩, text⟩ :=
    Chart.exists_drawing_of_live live
  obtain ⟨found, called, -⟩ := Chart.mem_invocations.1 invoked
  obtain ⟨knownX, knownY⟩ := checked.coherent.mem_seriesCodes found relation
  have placed : axes.name.code ∈ checked.chart.placedCodes :=
    Chart.mem_placedCodes.2 ⟨axes, called, rfl, cell, checked.coherent.cellOf?_eq_some held⟩
  have reads : reader.reads = [axes.name.code, x.code, y.code] := by
    rw [Statement.reads, Script.reads, text, Scan.ofText_drawingText]
    rfl
  refine ⟨axes.name.code, x.code, y.code, plot.lineStyle.label, text, ?_, ?_, ?_⟩
  · exact checked.exists_binder_before options split (by simp [reads]) placed
      (List.mem_append_left _ placed)
  · exact checked.exists_binder_before options split (by simp [reads]) knownX
      (List.mem_append_right _ knownX)
  · exact checked.exists_binder_before options split (by simp [reads]) knownY
      (List.mem_append_right _ knownY)

/-- The script of a chart is well scoped. -/
theorem wellScoped :
    Script.WellScoped (checked.outerLines options) (checked.statements options) := by
  have assigned := checked.assignedNames_outerLines options
  constructor
  · intro name member
    rw [assigned] at member
    exact checked.bound_once options member
  · rw [assigned]
    exact checked.coherent.nodup_names
  · intro name member
    rw [assigned] at member
    rcases Chart.code_of_mem_names member with ⟨axes, rfl⟩ | ⟨series, rfl⟩
    · exact ⟨axes.isIdentifier_code, axes.isReserved_code⟩
    · exact ⟨series.isIdentifier_code, series.isReserved_code⟩
  · intro name member
    rw [assigned] at member
    exact Chart.not_mem_fixedNames member
  · intro statement member name bound
    rw [assigned]
    rw [statements_eq] at member
    rcases List.mem_append.1 member with upper | lower
    · have listed : name ∈ (checked.chart.upperStatements _).flatMap Statement.binds :=
        List.mem_flatMap.2 ⟨statement, upper, bound⟩
      rw [Chart.flatMap_binds_upperStatements] at listed
      exact (List.mem_append.1 listed).symm.imp_right Script.mem_fixedNames_of_opening
    · exact .inr (Script.mem_fixedNames_of_closing lower bound)
  · intro before reader after split inside
    exact checked.drawn_from_parts options split inside
  · exact checked.readsBound options

end ConsistentChart

namespace Script

/-- The script that an accepted text is rendered as is well scoped, and it assigns the axes in cells
and the series of the chart that the text describes. -/
theorem render_wellScoped {options : ScriptOptions} {text : String} {script : Script}
    (accepted : (render options text).value = .ok script) :
    ∃ checked, (ConsistentChart.ofText text).value = .ok checked ∧
      WellScoped
        (script.outerLines (options.shapeFor checked.chart.figure.style)
          (options.indentFor checked.chart.figure.style))
        (script.statements (options.shapeFor checked.chart.figure.style)
          (options.indentFor checked.chart.figure.style)) ∧
      assignedNames
          (script.outerLines (options.shapeFor checked.chart.figure.style)
            (options.indentFor checked.chart.figure.style)) =
        checked.chart.placedCodes ++ checked.chart.seriesCodes := by
  obtain ⟨checked, described, rfl⟩ := render_value_eq_ok_iff.1 accepted
  exact ⟨checked, described, checked.wellScoped options, checked.assignedNames_outerLines options⟩

/-- The script of the small text is well scoped. -/
theorem render_wellScoped_smallText :
    (render .none smallText).value = .ok smallScript ∧
      ∃ checked, (ConsistentChart.ofText smallText).value = .ok checked ∧
        WellScoped
          (smallScript.outerLines checked.chart.figure.style.shape
            checked.chart.figure.style.indent)
          (smallScript.statements checked.chart.figure.style.shape
            checked.chart.figure.style.indent) ∧
        assignedNames
            (smallScript.outerLines checked.chart.figure.style.shape
              checked.chart.figure.style.indent) =
          checked.chart.placedCodes ++ checked.chart.seriesCodes :=
  ⟨render_smallText, render_wellScoped render_smallText⟩

end Script

end ChartScript
