import ChartScript.Proofs.Recording
import ChartScript.Proofs.Rounding
import Mathlib.Data.List.Forall2

/-!
# What a description must look like, and the chart it becomes

A chart mirrors a value when each part of the chart is what the value holds under the key of the
part: objects with these keys and no others, lists item by item and in order, names by their
spelling. A part that may be absent or `null` is then the standard one. Reading gives a chart
exactly when the chart mirrors the value, so nothing else is accepted and nothing is lost or made
up.

How a single number, unique identifier or label is spelled is left to their readers.
-/

namespace ChartScript

namespace Json

/-- An object with these members, none of them under another key than the declared ones. -/
def IsObject (value : Json) (declared : List String) (members : Members) : Prop :=
  value = .object members ∧ ∀ key ∈ members.keys, key ∈ declared

/-- A list whose items stand for these things, one by one. -/
def IsList {α : Type} (StandsFor : Json → α → Prop) (value : Json) (things : List α) : Prop :=
  ∃ items, value = .array items ∧ List.Forall₂ StandsFor items things

/-- There is a value under a key, and it is as demanded. -/
def Members.Has (members : Members) (key : String) (Fits : Json → Prop) : Prop :=
  ∃ value, members.find? key = some value ∧ Fits value

/-- There is a value other than `null` under a key, and it is as demanded; otherwise the alternative
holds. -/
def Members.MayHave (members : Members) (key : String) (Fits : Json → Prop) (Otherwise : Prop) :
    Prop :=
  (members.find? key = none ∨ members.find? key = some .null) ∧ Otherwise ∨
    ∃ value, members.find? key = some value ∧ value ≠ .null ∧ Fits value

/-- A JSON number stands for a binary64 number. A float is this number. An integer stands for the
one that is nearest to it, the even one of two that are as near, and only a negative integer for one
with a sign. -/
def Number.StandsFor : Number → Binary64 → Prop
  | .integer value _, x =>
    Binary64.IsNearest x.code |(value : ℚ)| ∧ (x.negative = true ↔ value < 0)
  | .float value, x => x = value

end Json

/-- A value is the spelling of a name: a text that is safe in the namespace. The name keeps the
text, and its code has the lead of the namespace and underscores for hyphens. -/
def Identifier.SpelledBy {space : Namespace} (value : Json) (name : Identifier space) : Prop :=
  ∃ raw, value = .string raw ∧ space.isSafe raw = true ∧ name.raw = raw ∧
    name.code = space.lead ++ underscored raw

/-- Members may have a remark. -/
def Json.Members.MayRemark (members : Json.Members) (remark : Option String) : Prop :=
  members.MayHave "style_name" (fun value => ∃ words, value = .string words ∧ remark = some words)
    (remark = none)

/-- A value describes the size of a grid. -/
def GridSize.Mirrors (size : GridSize) (value : Json) : Prop :=
  ∃ members, value.IsObject ["row", "column"] members ∧
    members.Has "row" (fun value => Schema.readPositive value = .ok size.rows) ∧
    members.Has "column" (fun value => Schema.readPositive value = .ok size.columns)

/-- A value describes the style of a figure. -/
def FigureStyle.Mirrors (style : FigureStyle) (value : Json) : Prop :=
  ∃ members, value.IsObject ["style_name", "code_indent_style", "code_is_function"] members ∧
    members.MayRemark style.styleName ∧
    members.MayHave "code_indent_style"
      (fun value => Schema.readChoice IndentStyle value = .ok style.indent)
      (style.indent = .space) ∧
    members.MayHave "code_is_function"
      (fun value => ∃ flag, value = .boolean flag ∧ (style.shape = .function ↔ flag = true))
      (style.shape = .function)

/-- A value describes what a cell of a grid holds. -/
def Grid.CellMirrors (value : Json) (content : Option (Identifier .axes)) : Prop :=
  value = .null ∧ content = none ∨ ∃ name, content = some name ∧ name.SpelledBy value

/-- A value describes a figure. -/
def Figure.Mirrors (figure : Figure) (value : Json) : Prop :=
  ∃ members, value.IsObject ["size", "axes", "style"] members ∧
    members.Has "size" figure.size.Mirrors ∧
    members.Has "axes" (fun value => value.IsList (Json.IsList Grid.CellMirrors) figure.grid) ∧
    members.MayHave "style" figure.style.Mirrors (figure.style = ⟨none, .space, .function⟩)

/-- A value describes axes. -/
def Axes.Mirrors (axes : Axes) (value : Json) : Prop :=
  ∃ members, value.IsObject ["name", "plot", "style"] members ∧
    members.Has "name" axes.name.SpelledBy ∧
    members.Has "plot" (fun value => value.IsList Identifier.SpelledBy axes.plots) ∧
    members.MayHave "style"
      (fun value => ∃ members, value.IsObject ["style_name"] members ∧
        members.MayRemark axes.styleName)
      (axes.styleName = none)

/-- A value describes what a plot draws. -/
def Relation.Mirrors (relation : Relation) (value : Json) : Prop :=
  ∃ members x y, value.IsObject ["relation", "x", "y"] members ∧
    members.Has "relation" (fun value => value = .string "plot") ∧
    members.Has "x" x.SpelledBy ∧ members.Has "y" y.SpelledBy ∧ relation = .plot x y

/-- A value describes a plot. -/
def Plot.Mirrors (plot : Plot) (value : Json) : Prop :=
  ∃ members, value.IsObject ["name", "data", "style"] members ∧
    members.Has "name" plot.name.SpelledBy ∧
    members.Has "data" plot.relation.Mirrors ∧
    members.MayHave "style"
      (fun value => ∃ members, value.IsObject ["style_name", "linestyle"] members ∧
        members.MayRemark plot.styleName ∧
        members.MayHave "linestyle"
          (fun value => Schema.readChoice LineStyle value = .ok plot.lineStyle)
          (plot.lineStyle = .solid))
      (plot.styleName = none ∧ plot.lineStyle = .solid)

/-- A value describes a series. -/
def Series.Mirrors (series : Series) (value : Json) : Prop :=
  ∃ members, value.IsObject ["name", "value"] members ∧
    members.Has "name" series.name.SpelledBy ∧
    members.Has "value" (fun value =>
      value.IsList (fun value x => ∃ number, value = .number number ∧ number.StandsFor x)
        series.values)

/-- A value describes a chart. -/
def Chart.Mirrors (chart : Chart) (value : Json) : Prop :=
  ∃ members, value.IsObject ["request_id", "figure", "axes", "plot", "data"] members ∧
    members.Has "request_id" (fun value => ∃ text, value = .string text ∧
      Uuid.read text = .ok chart.id) ∧
    members.Has "figure" chart.figure.Mirrors ∧
    members.Has "axes" (fun value =>
      value.IsList (fun value axes => axes.Mirrors value) chart.axes) ∧
    members.Has "plot" (fun value =>
      value.IsList (fun value plot => plot.Mirrors value) chart.plots) ∧
    members.Has "data" (fun value =>
      value.IsList (fun value series => series.Mirrors value) chart.series)

/-- A value is read as a result under a schema. -/
def Schema.Reads {α : Type} (schema : Schema α) (value : Json) (result : α) : Prop :=
  (schema.decode .root value).value = some result

/-- Members are read as a result under declared fields. -/
def Fields.Reads {α : Type} (fields : Fields α) (members : Json.Members) (result : α) : Prop :=
  (fields.decode .root members).value = some result

/-- What a value comes to does not depend on its place. -/
theorem Schema.value_decode {α : Type} (schema : Schema α) (place : Location) (value : Json) :
    (schema.decode place value).value = (schema.decode .root value).value := by
  rw [← Location.within_root place, schema.decode_within]
  rfl

/-- Outcomes in a row have results exactly when each has one. -/
theorem Outcome.value_all_eq_some_iff {α : Type} {outcomes : List (Outcome α)} {results : List α} :
    (all outcomes).value = some results ↔
      List.Forall₂ (fun outcome result => outcome.value = some result) outcomes results := by
  induction outcomes generalizing results with
  | nil => simp [all, done, eq_comm]
  | cons first rest ih =>
    simp only [all, both, map, Option.bind_map, Option.bind_eq_some_iff, Function.comp_apply,
      Option.map_eq_some_iff, ih, List.forall₂_cons_left_iff]
    constructor
    · rintro ⟨head, found, tail, others, rfl⟩
      exact ⟨head, tail, found, others, rfl⟩
    · rintro ⟨head, tail, found, others, rfl⟩
      exact ⟨head, found, tail, others, rfl⟩

/-- Lists correspond item by item also after an indexed function that does not look at the index. -/
theorem forall₂_mapIdx_iff {α β γ : Type} {f : Nat → α → β} {P : β → γ → Prop} {Q : α → γ → Prop}
    (same : ∀ i x y, P (f i x) y ↔ Q x y) {xs : List α} {ys : List γ} :
    List.Forall₂ P (xs.mapIdx f) ys ↔ List.Forall₂ Q xs ys := by
  induction xs generalizing f ys with
  | nil => simp
  | cons x rest ih =>
    rw [List.mapIdx_cons]
    cases ys with
    | nil => simp
    | cons y others => rw [List.forall₂_cons, List.forall₂_cons, same, ih fun i => same (i + 1)]

namespace Schema

variable {α β : Type} {value : Json}

theorem reads_leaf {read : Json → Except Problem α} {result : α} :
    (leaf read).Reads value result ↔ read value = .ok result := by
  rw [Reads, decode]
  cases read value <;> simp [Outcome.done, Outcome.failed]

theorem reads_map {f : α → β} {item : Schema α} {result : β} :
    (map f item).Reads value result ↔ ∃ found, item.Reads value found ∧ result = f found := by
  rw [Reads, decode, Outcome.map, Option.map_eq_some_iff]
  exact exists_congr fun found => and_congr_right fun _ => eq_comm

theorem reads_nullable {item : Schema α} {result : Option α} :
    (nullable item).Reads value result ↔
      value = .null ∧ result = none ∨
        value ≠ .null ∧ ∃ found, item.Reads value found ∧ result = some found := by
  rw [Reads, decode]
  cases value with
  | null => simp [Json.isNull, Outcome.done, eq_comm]
  | _ => simp [Json.isNull, Outcome.map, Reads, eq_comm (a := result)]

theorem reads_list {item : Schema α} {results : List α} :
    (list item).Reads value results ↔
      value.IsList (fun value result => item.Reads value result) results := by
  cases value with
  | array items =>
    simp only [Reads, decode, Outcome.value_all_eq_some_iff, Json.IsList, Json.array.injEq,
      exists_eq_left']
    apply forall₂_mapIdx_iff
    intro i value result
    rw [item.value_decode]
  | _ => simp [Reads, decode, Outcome.failed, Json.IsList]

/-- The fields of an object have a result if there is no other key. -/
theorem value_spoiledBy_eq_some_iff {outcome : Outcome α} {declared : List String}
    {members : Json.Members} {result : α} :
    (outcome.spoiledBy (undeclaredKeys declared .root members)).value = some result ↔
      (∀ key ∈ members.keys, key ∈ declared) ∧ outcome.value = some result := by
  have closed : (undeclaredKeys declared .root members).isEmpty ↔
      ∀ key ∈ members.keys, key ∈ declared := by
    simp [undeclaredKeys, List.filter_eq_nil_iff]
  rw [← closed, Outcome.spoiledBy]
  split <;> simp_all

theorem reads_object {fields : Fields α} {result : α} :
    (object fields).Reads value result ↔
      ∃ members, value.IsObject fields.keys members ∧ fields.Reads members result := by
  cases value with
  | object members =>
    simp [Reads, decode, value_spoiledBy_eq_some_iff, Json.IsObject, Fields.Reads]
  | _ => simp [Reads, decode, Outcome.failed, Json.IsObject]

/-- The only known tag tells the fields of an object. -/
theorem reads_tagged {tag label : String} {fields : String → Fields α} {result : α} :
    (tagged tag [label] fields).Reads value result ↔
      ∃ members, value.IsObject (tag :: (fields label).keys) members ∧
        members.Has tag (fun value => value = .string label) ∧
        (fields label).Reads members result := by
  cases value with
  | object members =>
    simp only [Reads, decode, Json.IsObject, Json.object.injEq, Json.Members.Has, and_assoc,
      exists_eq_left']
    cases Json.Members.find? members tag with
    | none => simp [Outcome.failed]
    | some held =>
      cases held with
      | string found =>
        by_cases same : found = label
        · subst same
          simp [Json.text?, value_spoiledBy_eq_some_iff, Fields.Reads]
        · simp [Json.text?, same, Outcome.failed]
      | _ => simp [Json.text?, Outcome.failed]
  | _ => simp [Reads, decode, Outcome.failed, Json.IsObject]

end Schema

namespace Fields

variable {α β : Type} {members : Json.Members}

theorem reads_pure {value result : α} : (pure value).Reads members result ↔ value = result := by
  simp [Reads, decode, Outcome.done]

theorem reads_required {before : Fields (α → β)} {key : String} {item : Schema α} {result : β} :
    (required before key item).Reads members result ↔
      ∃ f x, before.Reads members f ∧ members.Has key (item.Reads · x) ∧ f x = result := by
  rw [Reads, decode, Outcome.both, Option.bind_eq_some_iff]
  simp only [Option.map_eq_some_iff, Json.Members.Has]
  cases members.find? key with
  | none => simp [Outcome.failed]
  | some value =>
    simp [Reads, Schema.Reads, item.value_decode (Location.root.key key)]

theorem reads_defaulted {before : Fields (α → β)} {key : String} {item : Schema α} {absent : α}
    {result : β} :
    (defaulted before key item absent).Reads members result ↔
      ∃ f x, before.Reads members f ∧ members.MayHave key (item.Reads · x) (x = absent) ∧
        f x = result := by
  rw [Reads, decode, Outcome.both, Option.bind_eq_some_iff]
  simp only [Option.map_eq_some_iff, Json.Members.MayHave]
  cases members.find? key with
  | none => simp [Outcome.done, Reads]
  | some value =>
    cases value <;>
    simp [Reads, Schema.Reads, item.value_decode (Location.root.key key), Json.isNull, Outcome.done]

end Fields

section Leaves

variable {value : Json}

theorem Schema.reads_text {words : String} :
    text.Reads value words ↔ value = .string words := by
  rw [text, reads_leaf]
  cases value <;> simp [readText]

theorem Schema.reads_float {x : Binary64} :
    float.Reads value x ↔ ∃ number, value = .number number ∧ number.StandsFor x := by
  rw [float, reads_leaf]
  cases value with
  | number number =>
    simp only [Json.number.injEq, exists_eq_left']
    cases number with
    | integer value fits =>
      have small : value.natAbs ≤ 2 ^ 64 := by omega
      rw [readFloat, Except.ok.injEq, eq_comm, Binary64.eq_ofInt_iff small,
        Json.Number.StandsFor]
    | float value => rw [readFloat, Except.ok.injEq, eq_comm, Json.Number.StandsFor]
  | _ => simp [readFloat]

theorem Schema.reads_boolean {flag : Bool} :
    boolean.Reads value flag ↔ value = .boolean flag := by
  rw [boolean, reads_leaf]
  cases value <;> simp [readBoolean]

theorem Schema.reads_uuid {id : Uuid} :
    uuid.Reads value id ↔ ∃ words, value = .string words ∧ Uuid.read words = .ok id := by
  rw [uuid, reads_leaf]
  cases value with
  | string words =>
    rw [readUuid]
    cases read : Uuid.read words <;> simp [read]
  | _ => simp [readUuid]

theorem Schema.reads_name {space : Namespace} {result : Identifier space} :
    (name space).Reads value result ↔ result.SpelledBy value := by
  rw [name, reads_leaf]
  cases value with
  | string raw =>
    have sanitized : readName space (.string raw) = .ok result ↔
        Identifier.sanitize space raw = .ok result := by
      rw [readName, readText]
      dsimp only
      split <;> simp_all
    rw [sanitized, Identifier.sanitize_eq_ok_iff]
    constructor
    · rintro rfl
      exact ⟨_, rfl, result.safe, rfl, rfl⟩
    · rintro ⟨_, ⟨⟩, -, kept, -⟩
      exact kept
  | _ => simp [readName, readText, Identifier.SpelledBy]

end Leaves

theorem IndentStyle.standard_eq : (ClosedSet.standard : IndentStyle) = .space := rfl

theorem ScriptShape.standard_eq : (ClosedSet.standard : ScriptShape) = .function := rfl

theorem LineStyle.standard_eq : (ClosedSet.standard : LineStyle) = .solid := rfl

namespace Fields

variable {α β : Type}

@[simp]
theorem keys_optional {before : Fields (Option α → β)} {key : String} {item : Schema α} :
    (before.optional key item).keys = before.keys ++ [key] := rfl

@[simp]
theorem keys_chosen [ClosedSet α] {before : Fields (α → β)} {key : String} :
    (before.chosen key).keys = before.keys ++ [key] := rfl

/-- A remark is read from members that may have one. -/
theorem reads_remark {before : Fields (Option String → β)} {members : Json.Members} {result : β} :
    (before.optional "style_name" .text).Reads members result ↔
      ∃ f remark, before.Reads members f ∧ members.MayRemark remark ∧ f remark = result := by
  simp only [optional, reads_defaulted, Schema.reads_map, Schema.reads_text, Json.Members.MayRemark]

/-- A member of a closed set is read from members that may have its label. -/
theorem reads_chosen [ClosedSet α] {before : Fields (α → β)} {key : String}
    {members : Json.Members} {result : β} :
    (before.chosen key).Reads members result ↔
      ∃ f choice, before.Reads members f ∧
        members.MayHave key (fun value => Schema.readChoice α value = .ok choice)
          (choice = ClosedSet.standard) ∧ f choice = result := by
  simp only [chosen, reads_defaulted, Schema.choice, Schema.reads_leaf]

end Fields

/-- The size of a grid is read from the values that describe it. -/
theorem GridSize.reads_schema {value : Json} {size : GridSize} :
    schema.Reads value size ↔ size.Mirrors value := by
  obtain ⟨rows, columns⟩ := size
  simp [schema, Schema.reads_object, Fields.reads_required, Fields.reads_pure, Schema.positive,
    Schema.reads_leaf, Mirrors]

/-- The shape of a flag is a function exactly when the flag is set. -/
theorem ScriptShape.eq_ofFlag_iff {shape : ScriptShape} {flag : Bool} :
    shape = .ofFlag flag ↔ (shape = .function ↔ flag = true) := by
  cases shape <;> cases flag <;> simp [ofFlag]

/-- The style of a figure is read from the values that describe it. -/
theorem FigureStyle.reads_schema {value : Json} {style : FigureStyle} :
    schema.Reads value style ↔ style.Mirrors value := by
  obtain ⟨styleName, indent, shape⟩ := style
  simp [schema, Schema.reads_object, Fields.reads_remark, Fields.reads_chosen,
    Fields.reads_defaulted, Fields.reads_pure, Schema.reads_map, Schema.reads_boolean, Mirrors,
    IndentStyle.standard_eq, ScriptShape.standard_eq, ScriptShape.eq_ofFlag_iff]

/-- What a cell holds is read from the values that describe it. -/
theorem Grid.reads_cell {value : Json} {content : Option (Identifier .axes)} :
    (Schema.nullable (.name .axes)).Reads value content ↔ CellMirrors value content := by
  rw [Schema.reads_nullable, CellMirrors]
  apply or_congr_right
  constructor
  · rintro ⟨-, name, spelled, rfl⟩
    exact ⟨name, rfl, Schema.reads_name.1 spelled⟩
  · rintro ⟨name, rfl, raw, rfl, spelled⟩
    exact ⟨Json.noConfusion, name, Schema.reads_name.2 ⟨raw, rfl, spelled⟩, rfl⟩

/-- A figure is read from the values that describe it. -/
theorem Figure.reads_schema {value : Json} {figure : Figure} :
    schema.Reads value figure ↔ figure.Mirrors value := by
  obtain ⟨size, grid, style⟩ := figure
  simp [schema, Schema.reads_object, Fields.reads_required, Fields.reads_defaulted,
    Fields.reads_pure, Schema.reads_list, Grid.reads_cell, GridSize.reads_schema,
    FigureStyle.reads_schema, Mirrors, FigureStyle.standard, IndentStyle.standard_eq,
    ScriptShape.standard_eq]

/-- Axes are read from the values that describe them. -/
theorem Axes.reads_schema {value : Json} {axes : Axes} :
    schema.Reads value axes ↔ axes.Mirrors value := by
  obtain ⟨name, plots, styleName⟩ := axes
  simp [schema, styleSchema, Schema.reads_object, Fields.reads_required, Fields.reads_defaulted,
    Fields.reads_remark, Fields.reads_pure, Schema.reads_list, Schema.reads_name, Mirrors]

/-- What a plot draws is read from the values that describe it. -/
theorem Relation.reads_schema {value : Json} {relation : Relation} :
    schema.Reads value relation ↔ relation.Mirrors value := by
  simp [schema, tags, fields, tagKey, Schema.reads_tagged, Fields.reads_required,
    Fields.reads_pure, Schema.reads_name, Mirrors, eq_comm (a := relation)]

/-- A plot is read from the values that describe it. -/
theorem Plot.reads_schema {value : Json} {plot : Plot} :
    schema.Reads value plot ↔ plot.Mirrors value := by
  obtain ⟨name, relation, styleName, lineStyle⟩ := plot
  simp [schema, styleSchema, ofParts, Schema.reads_object, Fields.reads_required,
    Fields.reads_defaulted, Fields.reads_remark, Fields.reads_chosen, Fields.reads_pure,
    Schema.reads_name, Relation.reads_schema, LineStyle.standard_eq, Mirrors]

/-- A series is read from the values that describe it. -/
theorem Series.reads_schema {value : Json} {series : Series} :
    schema.Reads value series ↔ series.Mirrors value := by
  obtain ⟨name, values⟩ := series
  simp [schema, Schema.reads_object, Fields.reads_required, Fields.reads_pure, Schema.reads_list,
    Schema.reads_name, Schema.reads_float, Mirrors]

/-- A chart is read from the values that describe it. -/
theorem Chart.reads_schema {value : Json} {chart : Chart} :
    schema.Reads value chart ↔ chart.Mirrors value := by
  obtain ⟨id, figure, axes, plots, series⟩ := chart
  simp [schema, fields, Schema.reads_object, Fields.reads_required, Fields.reads_pure,
    Schema.reads_list, Schema.reads_uuid, Figure.reads_schema, Axes.reads_schema,
    Plot.reads_schema, Series.reads_schema, Mirrors, and_assoc]

/-- A chart comes of a value exactly when the chart mirrors the value: nothing else is accepted, and
nothing that the value holds is lost or changed. -/
theorem Chart.ofJson_eq_ok_iff_mirrors (value : Json) (chart : Chart) :
    ofJson value = .ok chart ↔ chart.Mirrors value :=
  ofJson_eq_ok_iff.trans reads_schema

end ChartScript
