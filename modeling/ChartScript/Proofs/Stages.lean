import ChartScript.Proofs.Accepted
import ChartScript.Proofs.Blame
import ChartScript.Proofs.Consistency
import ChartScript.Proofs.Emission
import ChartScript.Proofs.Recording

/-!
# The stage that turns a text down

A text is read as a chart, the chart is confirmed as a consistent one, and this one is rendered. The
first stage that finds fault hands its report on unchanged, and rendering itself finds none. What
each stage finds is of its own classes: reading finds misshapen values and unsafe names, and the
check of a whole chart finds what does not fit together.
-/

namespace ChartScript

/-- A problem of a value on its own, whatever else a description holds. -/
def Problem.IsLocal (problem : Problem) : Prop :=
  problem.kind = .shape ∨ problem.kind = .identifier

/-- All failures of an outcome are problems of values on their own. -/
def Outcome.IsLocal {α : Type} (outcome : Outcome α) : Prop :=
  ∀ failure ∈ outcome.failures, failure.problem.IsLocal

/-- Every combinator of outcomes keeps to problems of values on their own. -/
theorem Outcome.isKept_isLocal : IsKept (fun _ => IsLocal) Problem.IsLocal where
  done _ := by simp [IsLocal, Outcome.done]
  failed _ _ isLocal := by simpa [IsLocal, Outcome.failed] using isLocal
  map _ _ isLocal := isLocal
  both function argument := List.forall_mem_append.2 ⟨function, argument⟩
  spoiledBy declared place members isLocal := by
    refine List.forall_mem_append.2 ⟨isLocal, fun failure member => ?_⟩
    obtain ⟨key, -, rfl⟩ := List.mem_map.1 member
    exact .inl rfl
  shape misshapen := .inl misshapen

/-- A problem of the value at a place is one of a value on its own. -/
theorem Problem.IsOfValue.isLocal {problem : Problem} (ofValue : problem.IsOfValue) :
    problem.IsLocal := by
  cases ofValue with
  | refusedName => exact .inr rfl
  | _ => exact .inl rfl

/-- The leaves of a chart description find problems of values on their own only. -/
theorem Chart.leavesFind_schema : schema.LeavesFind Problem.IsLocal :=
  schema.leavesFind_of_eachLeaf
    (fun _ finds value problem refused => (finds value problem refused).isLocal)
    findsOfValue_schema

/-- The only cause of a text that is no document, at the whole. -/
theorem Report.causes_unreadable (fault : Json.PlacedFault) :
    (single ⟨.root, .unreadable fault⟩).causes = [⟨.shape, "request", fault.message⟩] := by
  have whole : Location.root.render = "request" := by decide
  rw [single, causes, List.map_singleton, Failure.cause, whole]
  rfl

/-- A problem of the parts of a chart with each other. -/
def Problem.IsMutual (problem : Problem) : Prop :=
  problem.kind = .uniqueness ∨ problem.kind = .dimension ∨ problem.kind = .reference ∨
    problem.kind = .placement

namespace Chart

variable {chart : Chart}

/-- What violates the rules for a whole chart is of one of their classes. -/
theorem kind_of_mem_violations {mark : FailureKind × Location} (member : mark ∈ chart.violations) :
    mark.1 = .uniqueness ∨ mark.1 = .dimension ∨ mark.1 = .reference ∨ mark.1 = .placement := by
  have repeated {field : String} {codes : List String} (member : mark ∈ repetition field codes) :
      mark.1 = .uniqueness := by
    rw [repetition] at member
    split at member
    · cases member
    · rw [List.mem_singleton.1 member]
  simp only [violations, List.mem_append, List.mem_map, List.mem_flatMap] at member
  rcases member with
    ((((((axes | plots) | series) | unfit) | cell) | invocation) | drawing) | placed
  · exact .inl (repeated axes)
  · exact .inl (repeated plots)
  · exact .inl (repeated series)
  · split at unfit
    · cases unfit
    · rw [List.mem_singleton.1 unfit]
      exact .inr (.inl rfl)
  · obtain ⟨-, -, rfl⟩ := cell
    exact .inr (.inr (.inl rfl))
  · obtain ⟨-, -, -, -, rfl⟩ := invocation
    exact .inr (.inr (.inl rfl))
  · obtain ⟨-, -, -, -, rfl⟩ := drawing
    exact .inr (.inr (.inl rfl))
  · obtain ⟨-, -, rfl⟩ := placed
    exact .inr (.inr (.inr rfl))

/-- The check of a whole chart finds problems of its parts with each other only. -/
theorem isMutual_of_mem_inconsistencies {failure : Failure}
    (member : failure ∈ chart.inconsistencies) : failure.problem.IsMutual := by
  have violates : failure.mark ∈ chart.violations := by
    rw [← inconsistencies_marks]
    exact List.mem_map_of_mem member
  exact kind_of_mem_violations violates

/-- A text that is no document is turned down for that alone. -/
theorem ofText_value_of_unreadable {text : String} {fault : Json.PlacedFault}
    (unreadable : Json.read text = .error fault) :
    (ofText text).value = .error (.single ⟨.root, .unreadable fault⟩) := by
  rw [ofText, unreadable]
  rfl

/-- A text that is turned down when it is read has failures, of its values only. -/
theorem isLocal_of_ofText_error {text : String} {report : Report}
    (rejected : (ofText text).value = .error report) :
    report.failures ≠ [] ∧ ∀ failure ∈ report.failures, failure.problem.IsLocal := by
  cases document : Json.read text with
  | error fault =>
    rw [ofText_value_of_unreadable document] at rejected
    cases rejected
    refine ⟨List.cons_ne_nil _ _, fun failure member => ?_⟩
    rw [List.mem_singleton.1 member]
    exact .inl rfl
  | ok value =>
    have read : ofJson value = .error report := by
      rw [← rejected, ofText, document, ← value_construct]
    obtain ⟨failures, some⟩ := ofJson_eq_error_iff.1 read
    refine ⟨some, fun failure member => ?_⟩
    rw [failures] at member
    exact schema.kept_decode Outcome.isKept_isLocal leavesFind_schema .root value failure member

/-- A chart that is turned down as a whole has failures, of its parts with each other only. -/
theorem isMutual_of_confirm_error {report : Report}
    (rejected : chart.confirm.value = .error report) :
    report.failures ≠ [] ∧ ∀ failure ∈ report.failures, failure.problem.IsMutual := by
  rw [value_confirm, check_eq_error_iff] at rejected
  obtain ⟨inconsistent, rfl⟩ := rejected
  exact ⟨inconsistent, fun failure => isMutual_of_mem_inconsistencies⟩

end Chart

/-- Going on with a result fails when the step before does, with its report, or the next step. -/
theorem Told.onward_value_eq_error_iff {α β : Type} {step : Told (Except Report α)}
    {next : α → Told (Except Report β)} {report : Report} :
    (step.onward next).value = .error report ↔
      step.value = .error report ∨
        ∃ value, step.value = .ok value ∧ (next value).value = .error report := by
  rw [onward, andThen]
  cases step.value with
  | ok value => simp
  | error first => simp [silent]

namespace ConsistentChart

/-- A text is turned down by one stage: by its reading, whose report is handed on, or by the check
of the chart that is read. -/
theorem ofText_value_eq_error_iff {text : String} {report : Report} :
    (ofText text).value = .error report ↔
      (Chart.ofText text).value = .error report ∨
        ∃ chart, (Chart.ofText text).value = .ok chart ∧ chart.confirm.value = .error report :=
  Told.onward_value_eq_error_iff

/-- A text that is turned down has failures. -/
theorem failures_ne_nil_of_ofText_error {text : String} {report : Report}
    (rejected : (ofText text).value = .error report) : report.failures ≠ [] := by
  obtain misread | ⟨chart, -, refused⟩ := ofText_value_eq_error_iff.1 rejected
  · exact (Chart.isLocal_of_ofText_error misread).1
  · exact (Chart.isMutual_of_confirm_error refused).1

end ConsistentChart

/-- A text is rendered or turned down, and nothing else. It is rendered exactly when it describes a
consistent chart, and otherwise turned down with the report of that description. This is the report
of the reading, with misshapen values and unsafe names only, or, if the text is read, the report of
the check of the whole chart, with no cause of those classes. A text that is no document has a
single cause. -/
theorem Script.render_all_or_nothing (options : ScriptOptions) (text : String) :
    ((∃ script, (render options text).value = .ok script) ∨
        ∃ report, (render options text).value = .error (.invalid report) ∧ report.causes ≠ []) ∧
      ((∃ script, (render options text).value = .ok script) ↔
        ∃ checked, (ConsistentChart.ofText text).value = .ok checked) ∧
      (∀ report, (render options text).value = .error (.invalid report) ↔
        (ConsistentChart.ofText text).value = .error report) ∧
      (∀ report, (ConsistentChart.ofText text).value = .error report →
        ((Chart.ofText text).value = .error report ∧
            ∀ cause ∈ report.causes, cause.kind = .shape ∨ cause.kind = .identifier) ∨
          ∃ chart, (Chart.ofText text).value = .ok chart ∧
            ∀ cause ∈ report.causes, cause.kind = .uniqueness ∨ cause.kind = .dimension ∨
              cause.kind = .reference ∨ cause.kind = .placement) ∧
      (∀ report, (Chart.ofText text).value = .error report →
        (ConsistentChart.ofText text).value = .error report) ∧
      ∀ fault, Json.read text = .error fault →
        ∃ report, (render options text).value = .error (.invalid report) ∧
          (Chart.ofText text).value = .error report ∧
          report.causes = [⟨.shape, "request", fault.message⟩] := by
  have handedOn (report : Report) : (render options text).value = .error (.invalid report) ↔
      (ConsistentChart.ofText text).value = .error report := by
    rw [render_value]
    cases (ConsistentChart.ofText text).value <;> simp
  have misread (report : Report) (rejected : (Chart.ofText text).value = .error report) :
      (ConsistentChart.ofText text).value = .error report :=
    ConsistentChart.ofText_value_eq_error_iff.2 (.inl rejected)
  refine ⟨?_, ?_, handedOn, ?_, misread, ?_⟩
  · cases described : (ConsistentChart.ofText text).value with
    | ok checked =>
      rw [render_value, described]
      exact .inl ⟨_, rfl⟩
    | error report =>
      have failures := ConsistentChart.failures_ne_nil_of_ofText_error described
      exact .inr ⟨report, (handedOn report).2 described, mt List.map_eq_nil_iff.1 failures⟩
  · rw [render_value]
    cases (ConsistentChart.ofText text).value <;> simp
  · intro report rejected
    obtain misread | ⟨chart, read, refused⟩ :=
      ConsistentChart.ofText_value_eq_error_iff.1 rejected
    · exact .inl ⟨misread, List.forall_mem_map.2 (Chart.isLocal_of_ofText_error misread).2⟩
    · exact .inr ⟨chart, read,
        List.forall_mem_map.2 (Chart.isMutual_of_confirm_error refused).2⟩
  · intro fault unreadable
    have rejected := Chart.ofText_value_of_unreadable unreadable
    exact ⟨_, (handedOn _).2 (misread _ rejected), rejected, Report.causes_unreadable fault⟩

end ChartScript
