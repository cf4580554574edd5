import ChartScript.Proofs.Addressed
import ChartScript.Proofs.Literal

/-!
# The text of a place

A place is written step by step: a key behind a point, an index in brackets. The point and the
opening bracket are the marks of a step, so where no key holds one of them, each step ends where the
next mark stands, and the text can be taken apart into its steps again. Nothing else is asked of a
key: it may be empty, or look like an index or its end.

The keys on the way to a failure of a whole chart are a few fixed words, so the places in such a
report can be told by their texts.
-/

namespace ChartScript

namespace Location

/-- One step further from a place. -/
def step (place : Location) : Step → Location
  | .key name => place.key name
  | .index i => place.index i

/-- The place that steps lead to from the whole. -/
def along (steps : List Step) : Location := steps.foldl step root

/-- Further steps stand behind those of the place. -/
theorem foldl_step (steps : List Step) (place : Location) :
    steps.foldl step place = ⟨place.steps ++ steps⟩ := by
  induction steps generalizing place with
  | nil => rw [List.foldl_nil, List.append_nil]
  | cons first rest ih =>
    have further : (place.step first).steps = place.steps ++ [first] := by cases first <;> rfl
    rw [List.foldl_cons, ih, further, List.append_assoc, List.singleton_append]

/-- The steps of a place lead to it. -/
theorem steps_along (steps : List Step) : (along steps).steps = steps := by
  rw [along, foldl_step, root, List.nil_append]

/-- A key does not hold the mark of a step. -/
def IsUnmarked (name : String) : Prop := '.' ∉ name.toList ∧ '[' ∉ name.toList

instance (name : String) : Decidable (IsUnmarked name) := inferInstanceAs (Decidable (_ ∧ _))

/-- Every key among some steps has a property. -/
def EachKey (Has : String → Prop) (steps : List Step) : Prop := ∀ name, .key name ∈ steps → Has name

namespace Step

/-- A key is written behind a point. -/
theorem toList_render_key (name : String) : (key name).render.toList = '.' :: name.toList := by
  rw [render, String.toList_append]
  rfl

/-- An index is written in brackets. -/
theorem toList_render_index (i : Nat) :
    (index i).render.toList = '[' :: (Nat.toDigits 10 i ++ [']']) := by
  rw [render, String.toList_append, String.toList_append, Nat.toString_eq_repr, Nat.toList_repr]
  rfl

end Step

/-- The text of steps, one behind the other. -/
def stepsText (steps : List Step) : List Char := steps.flatMap fun step => step.render.toList

/-- Behind the name of the whole stands the text of the steps. -/
theorem toList_render (place : Location) :
    place.render.toList = rootName.toList ++ stepsText place.steps := by
  rw [render, String.toList_append, String.toList_join, List.flatMap_map, stepsText]

/-- The text of steps starts with a mark, if there are any. -/
theorem head?_stepsText {steps : List Step} {c : Char} (starts : (stepsText steps).head? = some c) :
    c = '.' ∨ c = '[' := by
  cases steps with
  | nil => cases starts
  | cons first rest =>
    rw [stepsText, List.flatMap_cons] at starts
    cases first with
    | key name =>
      rw [Step.toList_render_key] at starts
      exact .inl (Option.some.inj starts).symm
    | index i =>
      rw [Step.toList_render_index] at starts
      exact .inr (Option.some.inj starts).symm

/-- A character that goes on a key. -/
def goesOn (c : Char) : Bool := c != '.' && c != '['

/-- An unmarked key goes on to its end. -/
theorem IsUnmarked.goesOn {name : String} (unmarked : IsUnmarked name) :
    ∀ c ∈ name.toList, goesOn c = true := by
  intro c member
  have point : c ≠ '.' := fun same => unmarked.1 (same ▸ member)
  have bracket : c ≠ '[' := fun same => unmarked.2 (same ▸ member)
  simp [Location.goesOn, point, bracket]

/-- Behind a key stands the mark of the next step, or nothing. -/
theorem goesOn_head?_stepsText {steps : List Step} (c : Char)
    (starts : (stepsText steps).head? = some c) : goesOn c = false := by
  rcases head?_stepsText starts with rfl | rfl <;> rfl

/-- The first step is told by the text of it and of what is behind it. Its first character tells its
kind; a key ends at the next mark, and an index at its closing bracket. -/
theorem Step.append_stepsText_inj {first other : Step} {rest more : List Step}
    (unmarked : ∀ name, first = .key name → IsUnmarked name)
    (unmarked' : ∀ name, other = .key name → IsUnmarked name)
    (same : first.render.toList ++ stepsText rest = other.render.toList ++ stepsText more) :
    first = other ∧ stepsText rest = stepsText more := by
  cases first with
  | key name =>
    cases other with
    | key name' =>
      rw [toList_render_key, toList_render_key, List.cons_append, List.cons_append] at same
      obtain ⟨names, rests⟩ := append_inj_of_run goesOn (unmarked name rfl).goesOn
        (unmarked' name' rfl).goesOn goesOn_head?_stepsText goesOn_head?_stepsText
        (List.cons.inj same).2
      exact ⟨congrArg _ (String.toList_inj.1 names), rests⟩
    | index i =>
      rw [toList_render_key, toList_render_index] at same
      cases List.head_eq_of_cons_eq same
  | index i =>
    cases other with
    | key name =>
      rw [toList_render_key, toList_render_index] at same
      cases List.head_eq_of_cons_eq same
    | index j =>
      have closed (n : Nat) : ']' ∉ Nat.toDigits 10 n := not_mem_toDigits n (by decide)
      rw [toList_render_index, toList_render_index, List.cons_append, List.cons_append,
        List.append_assoc, List.append_assoc] at same
      obtain ⟨figures, rests⟩ := append_cons_inj_of_stop ']' (closed i) (closed j)
        (List.cons.inj same).2
      exact ⟨congrArg _ (toDigits_injective figures), rests⟩

/-- There is no text exactly where there are no steps. -/
theorem stepsText_eq_nil_iff {steps : List Step} : stepsText steps = [] ↔ steps = [] := by
  cases steps with
  | nil => simp [stepsText]
  | cons first rest =>
    cases first <;> simp [stepsText, Step.toList_render_key, Step.toList_render_index]

/-- The text of steps with unmarked keys tells the steps, one after the other. -/
theorem stepsText_injective {steps others : List Step} (unmarked : EachKey IsUnmarked steps)
    (unmarked' : EachKey IsUnmarked others) (same : stepsText steps = stepsText others) :
    steps = others := by
  induction steps generalizing others with
  | nil => exact (stepsText_eq_nil_iff.1 same.symm).symm
  | cons first rest ih =>
    cases others with
    | nil => exact stepsText_eq_nil_iff.1 same
    | cons other more =>
      have here : first = other ∧ stepsText rest = stepsText more := by
        apply Step.append_stepsText_inj
        · rintro name rfl
          exact unmarked name List.mem_cons_self
        · rintro name rfl
          exact unmarked' name List.mem_cons_self
        · rw [stepsText, stepsText, List.flatMap_cons, List.flatMap_cons] at same
          exact same
      have behind : rest = more := by
        apply ih _ _ here.2
        · exact fun name member => unmarked name (List.mem_cons_of_mem _ member)
        · exact fun name member => unmarked' name (List.mem_cons_of_mem _ member)
      rw [here.1, behind]

/-- The text of a place with unmarked keys tells the place. -/
theorem render_injective {place other : Location} (unmarked : EachKey IsUnmarked place.steps)
    (unmarked' : EachKey IsUnmarked other.steps) (same : place.render = other.render) :
    place = other := by
  have texts : rootName.toList ++ stepsText place.steps =
      rootName.toList ++ stepsText other.steps := by
    rw [← toList_render, ← toList_render, same]
  have steps := stepsText_injective unmarked unmarked' (List.append_cancel_left texts)
  cases place
  cases other
  exact congrArg _ steps

end Location

namespace Chart

variable {chart : Chart}

/-- The keys on the way to what can be wrong with a whole chart. -/
def partKeys : List String := ["figure", "axes", "plot", "data", "x", "y"]

/-- Only these keys are on the way to what violates a rule. -/
theorem mem_partKeys_of_mem_violations {mark : FailureKind × Location}
    (member : mark ∈ chart.violations) : Location.EachKey (· ∈ partKeys) mark.2.steps := by
  have repeated {field : String} {codes : List String} (listed : field ∈ partKeys)
      (member : mark ∈ repetition field codes) :
      Location.EachKey (· ∈ partKeys) mark.2.steps := by
    rw [repetition] at member
    split at member
    · cases member
    · rw [List.mem_singleton.1 member]
      intro name there
      cases List.mem_singleton.1 there
      exact listed
  have cell (cell : Cell) : Location.EachKey (· ∈ partKeys) (cellAt cell).steps := by
    simp [Location.EachKey, cellAt, partKeys]
  simp only [violations, List.mem_append, List.mem_map, List.mem_flatMap] at member
  rcases member with
    ((((((axes | plots) | series) | unfit) | stray) | invocation) | drawing) | placed
  · exact repeated (by decide) axes
  · exact repeated (by decide) plots
  · exact repeated (by decide) series
  · split at unfit
    · cases unfit
    · rw [List.mem_singleton.1 unfit]
      simp [Location.EachKey, partKeys]
  · obtain ⟨place, -, rfl⟩ := stray
    exact cell place
  · obtain ⟨i, -, j, -, rfl⟩ := invocation
    simp [Location.EachKey, partKeys]
  · obtain ⟨i, -, field, drawn, rfl⟩ := drawing
    have known : field = "x" ∨ field = "y" := by simpa using List.mem_of_mem_filter drawn
    rcases known with rfl | rfl <;> simp [Location.EachKey, partKeys]
  · obtain ⟨place, -, rfl⟩ := placed
    exact cell place

/-- Only these keys are on the way to a failure of a whole chart. -/
theorem mem_partKeys_of_mem_inconsistencies {failure : Failure}
    (member : failure ∈ chart.inconsistencies) :
    Location.EachKey (· ∈ partKeys) failure.location.steps := by
  have violates : failure.mark ∈ chart.violations := by
    rw [← inconsistencies_marks]
    exact List.mem_map_of_mem member
  exact mem_partKeys_of_mem_violations violates

end Chart

/-- A chart that names axes it does not have, in two cells. -/
def Chart.ghostChart : Chart where
  id := strayChart.id
  figure := ⟨⟨1, 2⟩, [[some ⟨"g", by decide⟩, some ⟨"g", by decide⟩]], ⟨none, .space, .function⟩⟩
  axes := []
  plots := []
  series := []

/-- The texts of places tell the places. Places that are reached by any steps from the whole, over
keys without marks, have the same steps if they have the same text, and these are the ones that were
taken. So two failures of one whole chart that are shown at the same place are at the same place. -/
theorem Location.along_of_render :
    (∀ steps others : List Step, EachKey IsUnmarked steps → EachKey IsUnmarked others →
      (along steps).render = (along others).render →
        (along steps).steps = (along others).steps ∧ steps = others) ∧
      ∀ (chart : Chart) (report : Report), chart.confirm.value = .error report →
        ∀ failure ∈ report.failures, ∀ other ∈ report.failures,
          failure.location.render = other.location.render → failure.location = other.location := by
  constructor
  · intro steps others unmarked unmarked' same
    have places : along steps = along others := by
      apply render_injective
      · rw [steps_along]
        exact unmarked
      · rw [steps_along]
        exact unmarked'
      · exact same
    have taken : steps = others := by rw [← steps_along steps, places, steps_along]
    exact ⟨congrArg Location.steps places, taken⟩
  · intro chart report rejected failure member other member' same
    have unmarked : ∀ name ∈ Chart.partKeys, IsUnmarked name := by decide
    rw [Chart.value_confirm, Chart.check_eq_error_iff] at rejected
    obtain ⟨-, rfl⟩ := rejected
    apply render_injective _ _ same
    · exact fun name there =>
        unmarked name (Chart.mem_partKeys_of_mem_inconsistencies member name there)
    · exact fun name there =>
        unmarked name (Chart.mem_partKeys_of_mem_inconsistencies member' name there)

/-- Steps over an empty key and one that looks like an index are told by the text. In a chart, two
failures of different classes are shown at the second cell, and this is the place of both. -/
theorem Location.along_of_render_ghostChart :
    (along [.key "", .key "3]", .index 12]).render = "request..3][12]" ∧
      (along [.key "", .key "3]", .index 12]).steps = [.key "", .key "3]", .index 12] ∧
      Chart.ghostChart.confirm.value = .error ⟨Chart.ghostChart.inconsistencies⟩ ∧
      ∃ failure ∈ Chart.ghostChart.inconsistencies,
        ∃ other ∈ Chart.ghostChart.inconsistencies,
          failure.problem.kind = .reference ∧ other.problem.kind = .placement ∧
          failure.location.render = "request.figure.axes[0][1]" ∧
          failure.location = other.location := by
  have unmarked : EachKey IsUnmarked [.key "", .key "3]", .index 12] := by
    have keys : ∀ name ∈ ["", "3]"], IsUnmarked name := by decide
    intro name member
    apply keys
    simpa using member
  have told := along_of_render.1 _ _ unmarked unmarked rfl
  have rejected :
      Chart.ghostChart.confirm.value = .error ⟨Chart.ghostChart.inconsistencies⟩ := by
    rw [Chart.value_confirm, Chart.check_eq_error_iff]
    exact ⟨by decide +kernel, rfl⟩
  refine ⟨by decide, told.1, rejected, ?_⟩
  have failures : Chart.ghostChart.inconsistencies =
      [⟨Figure.cellPlace ⟨0, 0⟩, .unknownAxes ⟨0, 0⟩ "g"⟩,
        ⟨Figure.cellPlace ⟨0, 1⟩, .unknownAxes ⟨0, 1⟩ "g"⟩,
        ⟨Figure.cellPlace ⟨0, 1⟩, .placedBefore "g" ⟨0, 0⟩⟩] := by
    decide +kernel
  have unknown : ⟨Figure.cellPlace ⟨0, 1⟩, .unknownAxes ⟨0, 1⟩ "g"⟩ ∈
      Chart.ghostChart.inconsistencies := by
    simp [failures]
  have placed : ⟨Figure.cellPlace ⟨0, 1⟩, .placedBefore "g" ⟨0, 0⟩⟩ ∈
      Chart.ghostChart.inconsistencies := by
    simp [failures]
  exact ⟨_, unknown, _, placed, rfl, rfl, by decide,
    along_of_render.2 _ _ rejected _ unknown _ placed rfl⟩

end ChartScript
