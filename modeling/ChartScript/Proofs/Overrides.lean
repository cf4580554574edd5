import ChartScript.Proofs.Emission

/-!
# Overrides are edits of the style

A writer is given overrides one call after the other. Of each kind the last call counts, so calls of
different kinds may change places. A text is rendered with overrides as if its chart had been given
them as its own style before it was checked and written, down to the events that are told. The style
has no part in the check, so no override decides on whether a text is accepted or on what is
reported.
-/

namespace ChartScript

/-- A call that overrides a part of the style of a figure. -/
inductive Override where
  /-- The shape of the script. -/
  | shape (shape : ScriptShape)
  /-- The indentation of the script. -/
  | indent (style : IndentStyle)

namespace Override

/-- The shape that a call asks for. -/
def shape? : Override → Option ScriptShape
  | .shape asked => some asked
  | .indent _ => none

/-- The indentation that a call asks for. -/
def indent? : Override → Option IndentStyle
  | .shape _ => none
  | .indent asked => some asked

/-- The shape that the last call for a shape asks for. -/
def lastShape (calls : List Override) : Option ScriptShape := (calls.filterMap shape?).getLast?

/-- The indentation that the last call for an indentation asks for. -/
def lastIndent (calls : List Override) : Option IndentStyle := (calls.filterMap indent?).getLast?

end Override

namespace ScriptOptions

/-- The overrides after a further call. -/
def after (options : ScriptOptions) : Override → ScriptOptions
  | .shape shape => options.withShape shape
  | .indent style => options.withIndent style

/-- The overrides after some calls, where at first there are none. -/
def overridden (calls : List Override) : ScriptOptions := calls.foldl after none

/-- Of each kind the last call counts. -/
theorem overridden_eq (calls : List Override) :
    overridden calls = ⟨Override.lastShape calls, Override.lastIndent calls⟩ := by
  induction calls using List.reverseRecOn with
  | nil => rfl
  | append_singleton calls call ih =>
    unfold overridden at ih ⊢
    rw [List.foldl_append, ih]
    cases call <;>
      simp [after, withShape, withIndent, Override.lastShape, Override.lastIndent, Override.shape?,
        Override.indent?]

/-- Calls of different kinds may change places. -/
theorem overridden_swap (front back : List Override) (shape : ScriptShape) (style : IndentStyle) :
    overridden (front ++ .shape shape :: .indent style :: back) =
      overridden (front ++ .indent style :: .shape shape :: back) := by
  unfold overridden
  rw [List.foldl_append, List.foldl_append]
  rfl

end ScriptOptions

/-- The chart with another shape and indentation in the style of its figure, where these are given. -/
def Chart.restyled (chart : Chart) (shape : Option ScriptShape) (style : Option IndentStyle) :
    Chart :=
  let old := chart.figure.style
  { chart with figure.style := ⟨old.styleName, style.getD old.indent, shape.getD old.shape⟩ }

/-- A consistent chart stays consistent in another style. -/
def ConsistentChart.restyled (checked : ConsistentChart) (shape : Option ScriptShape)
    (style : Option IndentStyle) : ConsistentChart :=
  ⟨checked.chart.restyled shape style, checked.consistent⟩

/-- Checks a chart and writes its script. A chart that is turned down is an invalid one. -/
def Chart.render (options : ScriptOptions) (chart : Chart) : Told (Except Refusal Script) :=
  chart.confirm.andThen fun result =>
    match result with
    | .ok checked => checked.render options
    | .error report => .silent (.error (.invalid report))

variable {α β γ : Type}

/-- Steps that follow each other may be taken together. -/
theorem Told.andThen_andThen (first : Told α) (next : α → Told β) (last : β → Told γ) :
    (first.andThen next).andThen last = first.andThen fun value => (next value).andThen last := by
  simp only [andThen, List.append_assoc]

/-- The check of a chart does not look at its style. -/
theorem Chart.check_restyled (chart : Chart) (shape : Option ScriptShape)
    (style : Option IndentStyle) :
    (chart.restyled shape style).check =
      chart.check.map fun checked => checked.restyled shape style := by
  have same : (chart.restyled shape style).inconsistencies = chart.inconsistencies := rfl
  by_cases consistent : chart.inconsistencies = []
  · rw [check, check, dif_pos consistent, dif_pos (same.trans consistent)]
    rfl
  · rw [check, check, dif_neg consistent, dif_neg (same ▸ consistent)]
    rfl

/-- A consistent chart in another style is written as it is with this style as overrides. -/
theorem ConsistentChart.render_restyled (checked : ConsistentChart) (shape : Option ScriptShape)
    (style : Option IndentStyle) :
    (checked.restyled shape style).render .none = checked.render ⟨shape, style⟩ := by
  have script : (checked.restyled shape style).script .none = checked.script ⟨shape, style⟩ := rfl
  rw [render, render, emit_eq, emit_eq, script]
  rfl

/-- A chart in another style is checked and written as it is with this style as overrides. -/
theorem Chart.render_restyled (chart : Chart) (shape : Option ScriptShape)
    (style : Option IndentStyle) :
    (chart.restyled shape style).render .none = chart.render ⟨shape, style⟩ := by
  unfold render confirm
  rw [check_restyled]
  cases chart.check with
  | ok checked =>
    have written := checked.render_restyled shape style
    simp only [Except.map, Told.andThen, written]
    rfl
  | error report => rfl

namespace Script

/-- A text is rendered by checking and writing the chart that it describes. -/
theorem render_eq_andThen (options : ScriptOptions) (text : String) :
    render options text = (Chart.ofText text).andThen fun result =>
      match result with
      | .ok chart => chart.render options
      | .error report => .silent (.error (.invalid report)) := by
  unfold render ConsistentChart.ofText Told.onward
  rw [Told.andThen_andThen]
  congr
  funext result
  cases result <;> rfl

/-- A text is turned down with the same refusal whatever is overridden. -/
theorem render_value_eq_error_iff (options others : ScriptOptions) (text : String)
    (refusal : Refusal) :
    (render options text).value = .error refusal ↔ (render others text).value = .error refusal := by
  rw [render_value, render_value]
  cases (ConsistentChart.ofText text).value with
  | ok checked => simp
  | error report => rfl

/-- A text is rendered whatever is overridden, or never. -/
theorem exists_render_value_iff (options others : ScriptOptions) (text : String) :
    (∃ script, (render options text).value = .ok script) ↔
      ∃ script, (render others text).value = .ok script := by
  rw [render_value, render_value]
  cases (ConsistentChart.ofText text).value <;> simp

/-- After any calls, a text is rendered as with the last value of each kind, whatever it is and down
to the events. If it describes a chart, this is checked and written with no overrides after the
values have been put into the style of its figure; if not, the report is handed on. Calls of
different kinds may change places. No calls change whether a text is accepted or with what it is
turned down. -/
theorem render_overridden (calls : List Override) (text : String) :
    render (.overridden calls) text =
        render ⟨Override.lastShape calls, Override.lastIndent calls⟩ text ∧
      render (.overridden calls) text = ((Chart.ofText text).andThen fun result =>
        match result with
        | .ok chart =>
          (chart.restyled (Override.lastShape calls) (Override.lastIndent calls)).render .none
        | .error report => .silent (.error (.invalid report))) ∧
      (∀ front back shape style,
        render (.overridden (front ++ .shape shape :: .indent style :: back)) text =
          render (.overridden (front ++ .indent style :: .shape shape :: back)) text) ∧
      ((∃ script, (render (.overridden calls) text).value = .ok script) ↔
        ∃ script, (render .none text).value = .ok script) ∧
      ∀ refusal, (render (.overridden calls) text).value = .error refusal ↔
        (render .none text).value = .error refusal := by
  have options := ScriptOptions.overridden_eq calls
  have edited : render (.overridden calls) text = ((Chart.ofText text).andThen fun result =>
      match result with
      | .ok chart =>
        (chart.restyled (Override.lastShape calls) (Override.lastIndent calls)).render .none
      | .error report => .silent (.error (.invalid report))) := by
    rw [options, render_eq_andThen]
    congr
    funext result
    cases result with
    | ok chart => exact (chart.render_restyled _ _).symm
    | error report => rfl
  have swapped : ∀ front back shape style,
      render (.overridden (front ++ .shape shape :: .indent style :: back)) text =
        render (.overridden (front ++ .indent style :: .shape shape :: back)) text := by
    intro front back shape style
    rw [ScriptOptions.overridden_swap]
  exact ⟨by rw [options], edited, swapped, exists_render_value_iff _ _ text,
    render_value_eq_error_iff _ _ text⟩

end Script

end ChartScript
