import ChartScript.Proofs.Accepted
import ChartScript.Proofs.Blame
import ChartScript.Proofs.Mirror
import ChartScript.Proofs.Places

/-!
# Fields that hold a member of a closed set

The line style of a plot and the indentation of a figure are members of closed sets. Such a field
chooses the standard member when it is `null`, and a member when it is the label of the member or an
object whose only key is the label, with `null` under it. In a description that is valid otherwise,
a value that chooses a member is accepted, and the chart has this member in this place and is the
same apart from it. Any other value is a single failure at the field.
-/

namespace ChartScript

/-- A value chooses a member of a closed set. -/
inductive Json.Chooses {α : Type} [ClosedSet α] : Json → α → Prop where
  /-- `null` chooses the standard member. -/
  | absent : Chooses .null ClosedSet.standard
  /-- A text chooses the member with this label. -/
  | label (choice : α) : Chooses (.string (ClosedSet.label choice)) choice
  /-- So does an object with the label as its only key and nothing under it. -/
  | onlyKey (choice : α) : Chooses (.object [(ClosedSet.label choice, .null)]) choice

/-- Labels tell line styles apart. -/
theorem LineStyle.ofLabel?_label (choice : LineStyle) :
    ClosedSet.ofLabel? (ClosedSet.label choice) = some choice := by
  cases choice <;> rfl

/-- Labels tell indentations apart. -/
theorem IndentStyle.ofLabel?_label (choice : IndentStyle) :
    ClosedSet.ofLabel? (ClosedSet.label choice) = some choice := by
  cases choice <;> rfl

/-- The fields of a description that hold a member of a closed set. -/
inductive Chart.ClosedField where
  /-- How the plot at an index is drawn. -/
  | lineStyle (i : ℕ)
  /-- How the script is indented. -/
  | indent

namespace Chart.ClosedField

/-- The members that a field may hold. -/
def Choice : ClosedField → Type
  | .lineStyle _ => LineStyle
  | .indent => IndentStyle

instance (field : ClosedField) : ClosedSet field.Choice :=
  match field with
  | .lineStyle _ => inferInstanceAs (ClosedSet LineStyle)
  | .indent => inferInstanceAs (ClosedSet IndentStyle)

/-- The place of a field. -/
def path : ClosedField → List Location.Step
  | .lineStyle i => [.key "plot", .index i, .key "style", .key "linestyle"]
  | .indent => [.key "figure", .key "style", .key "code_indent_style"]

/-- The member that a chart has in the place of a field. -/
def choiceIn (field : ClosedField) (chart : Chart) : Option field.Choice :=
  match field with
  | .lineStyle i => chart.plots[i]?.map Plot.lineStyle
  | .indent => some chart.figure.style.indent

/-- A chart with another member in the place of a field. -/
def put (field : ClosedField) (chart : Chart) (choice : field.Choice) : Chart :=
  match field, choice with
  | .lineStyle i, choice =>
    { chart with plots := chart.plots.modify i fun plot => { plot with lineStyle := choice } }
  | .indent, choice => { chart with figure.style.indent := choice }

/-- Labels tell the members of a field apart. -/
theorem ofLabel?_label : ∀ (field : ClosedField) (choice : field.Choice),
    ClosedSet.ofLabel? (ClosedSet.label choice) = some choice
  | .lineStyle _ => LineStyle.ofLabel?_label
  | .indent => IndentStyle.ofLabel?_label

end Chart.ClosedField

/-- Only `null` is taken for `null`. -/
theorem Json.eq_null_of_isNull {value : Json} (empty : value.isNull = true) : value = .null := by
  cases value with
  | null => rfl
  | _ => cases empty

section Reading

variable {α : Type} [ClosedSet α] {text : String} {value : Json} {choice : α}

/-- A text is the label of the member that is found by it. -/
theorem ClosedSet.ofLabel?_eq_some_iff
    (tells : ∀ choice : α, ofLabel? (label choice) = some choice) :
    ofLabel? text = some choice ↔ text = label choice := by
  constructor
  · intro found
    have hit := List.find?_some found
    exact (beq_iff_eq.1 hit).symm
  · intro same
    rw [same, tells]

/-- A label is read as its member, and no other text is read. -/
theorem Schema.readLabel_eq_ok_iff
    (tells : ∀ choice : α, ClosedSet.ofLabel? (ClosedSet.label choice) = some choice) :
    readLabel α text = .ok choice ↔ text = ClosedSet.label choice := by
  rw [← ClosedSet.ofLabel?_eq_some_iff tells, readLabel]
  split <;> simp_all

/-- A value other than `null` is read as the member that it chooses, or not at all. -/
theorem Schema.readChoice_eq_ok_iff
    (tells : ∀ choice : α, ClosedSet.ofLabel? (ClosedSet.label choice) = some choice) :
    readChoice α value = .ok choice ↔ value ≠ .null ∧ value.Chooses choice := by
  constructor
  · intro read
    cases value with
    | string text =>
      have same := (readLabel_eq_ok_iff tells).1 read
      rw [same]
      exact ⟨Json.noConfusion, .label choice⟩
    | object members =>
      match members, read with
      | [], read => cases read
      | _ :: _ :: _, read => cases read
      | [(key, held)], read =>
        rw [readChoice] at read
        split at read
        · cases read
        · next found chosen =>
          split at read
          · next empty =>
            cases read
            have same := (readLabel_eq_ok_iff tells).1 chosen
            have bare := Json.eq_null_of_isNull empty
            rw [same, bare]
            exact ⟨Json.noConfusion, .onlyKey choice⟩
          · cases read
    | _ => cases read
  · rintro ⟨present, chooses⟩
    have read := (readLabel_eq_ok_iff tells).2 (Eq.refl (ClosedSet.label choice))
    cases chooses with
    | absent => exact absurd rfl present
    | label => exact read
    | onlyKey =>
      rw [readChoice, read]
      rfl

end Reading

namespace Json

variable {value other old new : Json} {path : List Location.Step}

/-- An exchange inside a member of an object leaves the other members as they are. -/
theorem IsObject.exchange {declared : List String} {members : Members}
    (object : value.IsObject declared members) {key : String}
    (exchange : Exchange old new (.key key :: path) value other) :
    ∃ members' inner inner', other.IsObject declared members' ∧
      members.find? key = some inner ∧ members'.find? key = some inner' ∧
      Exchange old new path inner inner' ∧
      ∀ name ≠ key, members'.find? name = members.find? name := by
  obtain ⟨rfl, known⟩ := object
  cases exchange with
  | @member _ inner inner' before _ after fresh exchanged =>
    have known' : ∀ name ∈ Members.keys (before ++ (key, inner') :: after), name ∈ declared := by
      rwa [Members.keys_exchange inner]
    exact ⟨_, inner, inner', ⟨rfl, known'⟩, Members.find?_here fresh, Members.find?_here fresh,
      exchanged, fun name different => Members.find?_elsewhere inner different⟩

/-- An exchange inside an item of a list changes the thing that the item stands for. -/
theorem IsList.exchange {α : Type} {StandsFor : Json → α → Prop} {things : List α}
    (listed : value.IsList StandsFor things) {i : ℕ}
    (exchange : Exchange old new (.index i :: path) value other) (change : α → α)
    (step : ∀ item item' thing, StandsFor item thing → Exchange old new path item item' →
      StandsFor item' (change thing)) :
    i < things.length ∧ other.IsList StandsFor (things.modify i change) := by
  obtain ⟨items, rfl, stands⟩ := listed
  cases exchange with
  | @item _ item item' before after exchanged =>
    have all : before.length < things.length ∧
        List.Forall₂ StandsFor (before ++ item' :: after)
          (things.modify before.length change) := by
      induction before generalizing things with
      | nil =>
        cases stands with
        | cons stand stands =>
          exact ⟨Nat.succ_pos _, .cons (step item item' _ stand exchanged) stands⟩
      | cons first before ih =>
        cases stands with
        | cons stand stands =>
          obtain ⟨inside, stands'⟩ := ih stands
          exact ⟨Nat.succ_lt_succ inside, .cons stand stands'⟩
    exact ⟨all.1, _, rfl, all.2⟩

namespace Members

variable {members members' : Members} {key : String} {Fits : Json → Prop} {Otherwise : Prop}

/-- What is demanded of a member does not depend on the others. -/
theorem Has.congr (same : members'.find? key = members.find? key) (has : members.Has key Fits) :
    members'.Has key Fits := by
  rwa [Has, same]

/-- What is demanded of a member that may be missing does not depend on the others. -/
theorem MayHave.congr (same : members'.find? key = members.find? key)
    (may : members.MayHave key Fits Otherwise) : members'.MayHave key Fits Otherwise := by
  rwa [MayHave, same]

/-- An exchange inside a member that may be missing is inside a value as it is demanded. -/
theorem MayHave.exchange {step : Location.Step} {inner inner' : Json}
    (may : members.MayHave key Fits Otherwise) (found : members.find? key = some inner)
    (exchange : Exchange old new (step :: path) inner inner') : Fits inner ∧ inner' ≠ .null := by
  have filled : inner ≠ .null ∧ inner' ≠ .null := by
    cases exchange <;> exact ⟨Json.noConfusion, Json.noConfusion⟩
  rcases may with ⟨missing | empty, -⟩ | ⟨_, found', -, fits⟩
  · rw [found] at missing
    cases missing
  · rw [found] at empty
    cases empty
    exact absurd rfl filled.1
  · rw [found] at found'
    cases found'
    exact ⟨fits, filled.2⟩

/-- A member that chooses from a closed set is as it is demanded. -/
theorem mayHave_of_chooses {α : Type} [ClosedSet α] {choice : α}
    (tells : ∀ choice : α, ClosedSet.ofLabel? (ClosedSet.label choice) = some choice)
    (found : members.find? key = some value) (chooses : value.Chooses choice) :
    members.MayHave key (fun value => Schema.readChoice α value = .ok choice)
      (choice = ClosedSet.standard) := by
  by_cases empty : value = .null
  · subst empty
    cases chooses
    exact .inl ⟨.inr found, rfl⟩
  · exact .inr ⟨value, found, empty, (Schema.readChoice_eq_ok_iff tells).2 ⟨empty, chooses⟩⟩

end Members

end Json

section Putting

variable {value other old new : Json}

/-- An exchange at the line style of a plot changes the line style. -/
theorem Plot.Mirrors.put_lineStyle {plot : Plot} (mirrored : plot.Mirrors value)
    {choice : LineStyle}
    (exchange : Json.Exchange old new [.key "style", .key "linestyle"] value other)
    (chooses : new.Chooses choice) :
    Plot.Mirrors { plot with lineStyle := choice } other := by
  obtain ⟨members, object, hasName, hasData, mayStyle⟩ := mirrored
  obtain ⟨members', style, style', object', found, found', exchange, agree⟩ :=
    object.exchange exchange
  obtain ⟨⟨parts, styled, mayRemark, -⟩, filled⟩ := mayStyle.exchange found exchange
  obtain ⟨parts', _, _, styled', -, chosen, exchange, agreeStyle⟩ := styled.exchange exchange
  cases exchange
  have mayChoose := Json.Members.mayHave_of_chooses LineStyle.ofLabel?_label chosen chooses
  exact ⟨members', object', hasName.congr (agree _ (by decide)),
    hasData.congr (agree _ (by decide)), .inr ⟨style', found', filled, parts', styled',
      mayRemark.congr (agreeStyle _ (by decide)), mayChoose⟩⟩

/-- An exchange at the indentation in the style of a figure changes the indentation. -/
theorem FigureStyle.Mirrors.put_indent {style : FigureStyle} (mirrored : style.Mirrors value)
    {choice : IndentStyle}
    (exchange : Json.Exchange old new [.key "code_indent_style"] value other)
    (chooses : new.Chooses choice) :
    FigureStyle.Mirrors { style with indent := choice } other := by
  obtain ⟨members, object, mayRemark, -, mayFlag⟩ := mirrored
  obtain ⟨members', _, _, object', -, chosen, exchange, agree⟩ := object.exchange exchange
  cases exchange
  have mayChoose := Json.Members.mayHave_of_chooses IndentStyle.ofLabel?_label chosen chooses
  exact ⟨members', object', mayRemark.congr (agree _ (by decide)), mayChoose,
    mayFlag.congr (agree _ (by decide))⟩

/-- An exchange at the indentation of a figure changes the indentation in its style. -/
theorem Figure.Mirrors.put_indent {figure : Figure} (mirrored : figure.Mirrors value)
    {choice : IndentStyle}
    (exchange : Json.Exchange old new [.key "style", .key "code_indent_style"] value other)
    (chooses : new.Chooses choice) :
    Figure.Mirrors { figure with style.indent := choice } other := by
  obtain ⟨members, object, hasSize, hasGrid, mayStyle⟩ := mirrored
  obtain ⟨members', style, style', object', found, found', exchange, agree⟩ :=
    object.exchange exchange
  obtain ⟨styled, filled⟩ := mayStyle.exchange found exchange
  exact ⟨members', object', hasSize.congr (agree _ (by decide)),
    hasGrid.congr (agree _ (by decide)),
    .inr ⟨style', found', filled, styled.put_indent exchange chooses⟩⟩

end Putting

namespace Chart

variable {chart : Chart} {value other old new : Json}

/-- An exchange at the line style of a plot of a chart changes the line style of this plot. -/
theorem Mirrors.put_lineStyle (mirrored : chart.Mirrors value) {i : ℕ} {choice : LineStyle}
    (exchange : Json.Exchange old new (ClosedField.lineStyle i).path value other)
    (chooses : new.Chooses choice) :
    i < chart.plots.length ∧ ((ClosedField.lineStyle i).put chart choice).Mirrors other := by
  obtain ⟨members, object, hasId, hasFigure, hasAxes, ⟨list, found, listed⟩, hasSeries⟩ := mirrored
  obtain ⟨members', inner, inner', object', found', inside, exchanged, agree⟩ :=
    object.exchange exchange
  rw [found] at found'
  cases found'
  obtain ⟨there, listed'⟩ := listed.exchange exchanged _ fun _ _ _ mirrored exchange =>
    Plot.Mirrors.put_lineStyle mirrored exchange chooses
  exact ⟨there, members', object', hasId.congr (agree _ (by decide)),
    hasFigure.congr (agree _ (by decide)), hasAxes.congr (agree _ (by decide)),
    ⟨inner', inside, listed'⟩, hasSeries.congr (agree _ (by decide))⟩

/-- An exchange at the indentation of the figure of a chart changes the indentation. -/
theorem Mirrors.put_indent (mirrored : chart.Mirrors value) {choice : IndentStyle}
    (exchange : Json.Exchange old new ClosedField.indent.path value other)
    (chooses : new.Chooses choice) : (ClosedField.indent.put chart choice).Mirrors other := by
  obtain ⟨members, object, hasId, ⟨figure, found, mirrored⟩, hasAxes, hasPlots, hasSeries⟩ :=
    mirrored
  obtain ⟨members', _, figure', object', found', inside, exchange, agree⟩ :=
    object.exchange exchange
  rw [found] at found'
  cases found'
  exact ⟨members', object', hasId.congr (agree _ (by decide)),
    ⟨figure', inside, mirrored.put_indent exchange chooses⟩, hasAxes.congr (agree _ (by decide)),
    hasPlots.congr (agree _ (by decide)), hasSeries.congr (agree _ (by decide))⟩

namespace ClosedField

/-- Each field is declared with the members that it may hold, and may be `null`. -/
theorem reaches : ∀ field : ClosedField,
    schema.Reaches field.path (.nullable (.choice field.Choice))
  | .lineStyle i =>
    (reaches_plotStyle i).append (.nullable (.field (.defaulted _ _ _ _) (.here _)))
  | .indent => reaches_figureStyle.append
      (.nullable (.field (.beforeDefaulted _ _ _ (.defaulted _ _ _ _)) (.here _)))

/-- A chart in which a field is exchanged for one that chooses a member has this member there. -/
theorem mirrors_put (mirrored : chart.Mirrors value) : ∀ (field : ClosedField)
    {choice : field.Choice}, Json.Exchange old new field.path value other → new.Chooses choice →
      (field.put chart choice).Mirrors other ∧
        field.choiceIn (field.put chart choice) = some choice
  | .lineStyle i, choice, exchange, chooses => by
    obtain ⟨inside, mirrored'⟩ := mirrored.put_lineStyle exchange chooses
    have there : chart.plots[i]? = some chart.plots[i] := List.getElem?_eq_getElem inside
    refine ⟨mirrored', ?_⟩
    rw [choiceIn, put, List.getElem?_modify_eq, there]
    rfl
  | .indent, _, exchange, chooses => ⟨mirrored.put_indent exchange chooses, rfl⟩

/-- A value that chooses no member has one problem, its shape. -/
theorem failures_of_other {α : Type} [ClosedSet α]
    (tells : ∀ choice : α, ClosedSet.ofLabel? (ClosedSet.label choice) = some choice)
    (other : ∀ choice : α, ¬ value.Chooses choice) (place : Location) :
    ∃ problem : Problem, problem.kind = .shape ∧
      ((Schema.nullable (.choice α)).decode place value).failures = [⟨place, problem⟩] := by
  have present : value.isNull = false := by
    cases value with
    | null => exact absurd .absent (other ClosedSet.standard)
    | _ => rfl
  cases read : Schema.readChoice α value with
  | ok choice => exact absurd ((Schema.readChoice_eq_ok_iff tells).1 read).2 (other choice)
  | error problem =>
    refine ⟨problem, (Schema.misshapen_readChoice read).2, ?_⟩
    rw [Schema.decode, present, Schema.choice, Schema.decode, read]
    rfl

end ClosedField

/-- In a description that is valid otherwise, a value in a field of a closed set is accepted exactly
when it chooses a member: when it is `null`, the label of the member, or an object with the label as
its only key and `null` under it. The chart then has the member in this place, which is the standard
one for `null`, and is the same apart from it. Any other value is one failure, of its shape, at the
field. -/
theorem ofJson_chosen (field : ClosedField) {chart : Chart} {base value old new : Json}
    (valid : ofJson base = .ok chart) (exchange : Json.Exchange old new field.path base value) :
    ((∃ accepted, ofJson value = .ok accepted) ↔ ∃ choice : field.Choice, new.Chooses choice) ∧
      (∀ choice : field.Choice, new.Chooses choice →
        ofJson value = .ok (field.put chart choice) ∧
          field.choiceIn (field.put chart choice) = some choice) ∧
      ((∀ choice : field.Choice, ¬ new.Chooses choice) → ∃ problem : Problem,
        problem.kind = .shape ∧ ofJson value = .error ⟨[⟨⟨field.path⟩, problem⟩]⟩) := by
  have accepted : ∀ choice : field.Choice, new.Chooses choice →
      ofJson value = .ok (field.put chart choice) ∧
        field.choiceIn (field.put chart choice) = some choice := by
    intro choice chooses
    have mirrored := reads_schema.1 (ofJson_eq_ok_iff.1 valid)
    obtain ⟨mirrored', chosen⟩ := ClosedField.mirrors_put mirrored field exchange chooses
    exact ⟨ofJson_eq_ok_iff.2 (reads_schema.2 mirrored'), chosen⟩
  have refused : (∀ choice : field.Choice, ¬ new.Chooses choice) → ∃ problem : Problem,
      problem.kind = .shape ∧ ofJson value = .error ⟨[⟨⟨field.path⟩, problem⟩]⟩ := by
    intro other
    obtain ⟨problem, shape, single⟩ :=
      ClosedField.failures_of_other field.ofLabel?_label other ⟨field.path⟩
    have reported := failures_of_valid field.reaches valid exchange
    rw [single, failures_eq] at reported
    exact ⟨problem, shape, ofJson_eq_error_iff.2 ⟨reported.symm, List.cons_ne_nil _ _⟩⟩
  refine ⟨⟨?_, ?_⟩, accepted, refused⟩
  · rintro ⟨found, read⟩
    by_contra none
    obtain ⟨problem, -, failed⟩ := refused (not_exists.1 none)
    rw [read] at failed
    cases failed
  · rintro ⟨choice, chooses⟩
    exact ⟨_, (accepted choice chooses).1⟩

-- The labels of line styles and of indentations.
example : ClosedSet.labels LineStyle = ["solid", "dashed", "dashdot", "dotted", "none"] := rfl

example : ClosedSet.labels IndentStyle = ["space", "tab"] := rfl

/-- A description of a plot with a line style. -/
def drawnDescription (lineStyle : Json) : Json :=
  .object [
    ("request_id", .string "1b4e28ba-2fa1-11d2-883f-0016d3cca427"),
    ("figure", .object [
      ("size", .object [("row", .number (.integer 4 (by decide))),
        ("column", .number (.integer 5 (by decide)))]),
      ("axes", .array [.array [.null]])]),
    ("axes", .array []),
    ("plot", .array [.object [("name", .string "curve"),
      ("data", .object [("relation", .string "plot"), ("x", .string "days"),
        ("y", .string "rain")]),
      ("style", .object [("linestyle", lineStyle)])]]),
    ("data", .array [])]

/-- The chart of the description. -/
def drawnChart (lineStyle : LineStyle) : Chart where
  id := ⟨0x1b4e28ba2fa111d2883f0016d3cca427⟩
  figure := ⟨⟨4, 5⟩, [[none]], ⟨none, .space, .function⟩⟩
  axes := []
  plots := [⟨⟨"curve", by decide⟩, .plot ⟨"days", by decide⟩ ⟨"rain", by decide⟩, none, lineStyle⟩]
  series := []

/-- Without a line style, the plot is drawn with the standard one. -/
theorem ofJson_drawnDescription : ofJson (drawnDescription .null) = .ok (drawnChart .solid) := by
  apply eq_ok_of_toOption
  decide +kernel

/-- Any line style may stand in the description. -/
theorem exchange_drawnDescription (old new : Json) :
    Json.Exchange old new (ClosedField.lineStyle 0).path (drawnDescription old)
      (drawnDescription new) :=
  @Json.Exchange.member _ _ _ _ _ [_, _, _] _ _ (by decide)
    (.item [] [] (@Json.Exchange.member _ _ _ _ _ [_, _] _ _ (by decide)
      (@Json.Exchange.member _ _ _ _ _ [] _ _ (by decide) .here)))

/-- The description with a label has the member in its chart, and with a number it is refused. -/
theorem ofJson_chosen_drawnDescription :
    ofJson (drawnDescription (.string "dotted")) = .ok (drawnChart .dotted) ∧
      ∃ problem : Problem, problem.kind = .shape ∧
        ofJson (drawnDescription (.number (.integer 7 (by decide)))) =
          .error ⟨[⟨⟨(ClosedField.lineStyle 0).path⟩, problem⟩]⟩ := by
  have dotted := (ofJson_chosen (.lineStyle 0) ofJson_drawnDescription
    (exchange_drawnDescription .null (.string "dotted"))).2.1 .dotted (.label LineStyle.dotted)
  have seven := (ofJson_chosen (.lineStyle 0) ofJson_drawnDescription
    (exchange_drawnDescription .null (.number (.integer 7 (by decide))))).2.2 nofun
  exact ⟨dotted.1, seven⟩

/-- Not only `null` and labels are accepted: so is an object whose only key is a label. -/
theorem ofJson_onlyKey :
    ¬ ∀ (field : ClosedField) (chart : Chart) (base value old new : Json), ofJson base = .ok chart →
      Json.Exchange old new field.path base value →
        ((∃ accepted, ofJson value = .ok accepted) ↔
          new = .null ∨ ∃ choice : field.Choice, new = .string (ClosedSet.label choice)) := by
  intro same
  have read : ofJson (drawnDescription (.object [("dashed", .null)])) =
      .ok (drawnChart .dashed) := by
    apply eq_ok_of_toOption
    decide +kernel
  have only := (same (.lineStyle 0) _ _ _ _ _ ofJson_drawnDescription
    (exchange_drawnDescription .null (.object [("dashed", .null)]))).1 ⟨_, read⟩
  rcases only with empty | ⟨choice, label⟩
  · cases empty
  · cases label

end Chart

end ChartScript
