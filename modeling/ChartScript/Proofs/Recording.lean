import ChartScript.Chart.Schema
import Mathlib.Data.List.Basic

/-!
# Checks only add their own failures

A recorder of a schema adds the failures of the value it checks to those it is handed, and nothing
else. What it adds, and whether it has a result, depends on the schema and the value only: the
failures held before stay as they are and are never looked at, and the place of the value stands in
front of the places of its failures. There is a result exactly when nothing is added.

Every law goes by the constructors of schemas and fields, with one small lemma for each combinator
of outcomes. A property that all combinators keep holds of whatever a value comes to, so such a
property needs no induction of its own.
-/

namespace ChartScript

/-- The place that is reached from another as a relative one is reached from the whole. -/
def Location.within (outer inner : Location) : Location := ⟨outer.steps ++ inner.steps⟩

namespace Location

@[simp]
theorem within_key (outer inner : Location) (name : String) :
    (outer.within inner).key name = outer.within (inner.key name) := by
  simp only [within, key, List.append_assoc]

@[simp]
theorem within_index (outer inner : Location) (i : Nat) :
    (outer.within inner).index i = outer.within (inner.index i) := by
  simp only [within, index, List.append_assoc]

@[simp]
theorem within_root (outer : Location) : outer.within .root = outer := by
  rw [within, root, List.append_nil]

end Location

/-- The same problem at a place that is now relative to another. -/
def Failure.under (place : Location) (failure : Failure) : Failure :=
  ⟨place.within failure.location, failure.problem⟩

/-- Applying a function after an indexed one. -/
theorem map_mapIdx {α β γ : Type} (g : β → γ) (f : Nat → α → β) (xs : List α) :
    (xs.mapIdx f).map g = xs.mapIdx fun i x => g (f i x) := by
  rw [List.mapIdx_eq_zipIdx_map, List.mapIdx_eq_zipIdx_map, List.map_map]
  rfl

/-- Keys that are not declared fail at the place of their object. -/
theorem undeclaredKeys_within (declared : List String) (outer inner : Location)
    (members : Json.Members) :
    undeclaredKeys declared (outer.within inner) members =
      (undeclaredKeys declared inner members).map (Failure.under outer) := by
  simp only [undeclaredKeys, List.map_map, Location.within_key]
  rfl

namespace Outcome

variable {α β : Type}

/-- The failures of outcomes in a row are those of each, in turn. -/
theorem failures_all (outcomes : List (Outcome α)) :
    (all outcomes).failures = outcomes.flatMap Outcome.failures := by
  induction outcomes with
  | nil => rfl
  | cons first rest ih => rw [all, both, List.flatMap_cons, ih, map]

/-- The recorder that comes to an outcome, whatever failures it is handed. -/
def recorded (outcome : Outcome α) : Recorder α :=
  fun held => (outcome.value, held ++ outcome.failures)

theorem recorded_done (value : α) : (done value).recorded = .keep value := by
  funext held
  rw [recorded, done, List.append_nil, Recorder.keep]

theorem recorded_map (f : α → β) (outcome : Outcome α) :
    (outcome.map f).recorded = .map f outcome.recorded := rfl

theorem recorded_both (f : Outcome (α → β)) (x : Outcome α) :
    (both f x).recorded = .both f.recorded x.recorded := by
  funext held
  simp only [recorded, both, Recorder.both, List.append_assoc]

theorem recorded_all (outcomes : List (Outcome α)) :
    (all outcomes).recorded = .all (outcomes.map recorded) := by
  induction outcomes with
  | nil => exact recorded_done []
  | cons first rest ih =>
    rw [all, recorded_both, recorded_map, ih, List.map_cons, Recorder.all]

theorem recorded_spoiledBy (outcome : Outcome α) (others : List Failure) :
    (outcome.spoiledBy others).recorded = .spoiledBy outcome.recorded others := by
  funext held
  simp only [recorded, spoiledBy, Recorder.spoiledBy, List.append_assoc]

/-- The outcome with its failures at places relative to another. -/
def under (place : Location) (outcome : Outcome α) : Outcome α :=
  ⟨outcome.value, outcome.failures.map (Failure.under place)⟩

theorem under_map (place : Location) (f : α → β) (outcome : Outcome α) :
    (outcome.map f).under place = (outcome.under place).map f := rfl

theorem under_both (place : Location) (f : Outcome (α → β)) (x : Outcome α) :
    (both f x).under place = both (f.under place) (x.under place) := by
  simp only [under, both, List.map_append]

theorem under_all (place : Location) (outcomes : List (Outcome α)) :
    (all outcomes).under place = all (outcomes.map (under place)) := by
  induction outcomes with
  | nil => rfl
  | cons first rest ih => rw [all, under_both, under_map, ih, List.map_cons, all]

theorem under_spoiledBy (place : Location) (outcome : Outcome α) (others : List Failure) :
    (outcome.spoiledBy others).under place =
      (outcome.under place).spoiledBy (others.map (Failure.under place)) := by
  simp only [under, spoiledBy, List.map_append, List.isEmpty_map]

/-- There is a result exactly when nothing failed. -/
def Decided (outcome : Outcome α) : Prop := outcome.value.isSome ↔ outcome.failures = []

theorem Decided.isSome_iff {outcome : Outcome α} (decided : outcome.Decided) :
    outcome.value.isSome ↔ outcome.failures = [] := decided

theorem decided_done (value : α) : (done value).Decided := by simp [Decided, done]

theorem decided_failed (place : Location) (problem : Problem) :
    (failed place problem : Outcome α).Decided := by
  simp [Decided, failed]

theorem Decided.map {outcome : Outcome α} (decided : outcome.Decided) (f : α → β) :
    (outcome.map f).Decided := by
  rw [Decided, Outcome.map, Option.isSome_map]
  exact decided

theorem Decided.both {f : Outcome (α → β)} {x : Outcome α} (function : f.Decided)
    (argument : x.Decided) : (Outcome.both f x).Decided := by
  rw [Decided, Outcome.both, List.append_eq_nil_iff, ← function.isSome_iff, ← argument.isSome_iff]
  cases f.value <;> simp

theorem Decided.spoiledBy {outcome : Outcome α} (decided : outcome.Decided)
    (others : List Failure) : (outcome.spoiledBy others).Decided := by
  rw [Decided, Outcome.spoiledBy, List.append_eq_nil_iff, ← decided.isSome_iff]
  cases others <;> simp

end Outcome

mutual

/-- A recorder of a schema adds what the value comes to on its own. -/
theorem Schema.run_eq {α : Type} : ∀ (schema : Schema α) (place : Location) (value : Json),
    schema.run place value = (schema.decode place value).recorded
  | .leaf read, place, value => by
    rw [Schema.run, Schema.decode]
    cases read value with
    | ok found => exact (Outcome.recorded_done found).symm
    | error problem => rfl
  | .nullable item, place, value => by
    rw [Schema.run, Schema.decode]
    split
    · exact (Outcome.recorded_done none).symm
    · rw [Schema.run_eq item, Outcome.recorded_map]
  | .list item, place, value => by
    cases value with
    | array items =>
      rw [Schema.run, Schema.decode, Outcome.recorded_all, map_mapIdx]
      simp only [Schema.run_eq item]
    | _ => rfl
  | .object fields, place, value => by
    cases value with
    | object members =>
      rw [Schema.run, Schema.decode, Outcome.recorded_spoiledBy, Fields.run_eq fields]
    | _ => rfl
  | .tagged tag known fields, place, value => by
    cases value with
    | object members =>
      rw [Schema.run, Schema.decode]
      split
      · rfl
      · split
        · rw [Outcome.recorded_spoiledBy, Fields.run_eq (fields _)]
        · rfl
    | _ => rfl
  | .map f item, place, value => by
    rw [Schema.run, Schema.decode, Schema.run_eq item, Outcome.recorded_map]

/-- A recorder of fields adds what the members come to on their own. -/
theorem Fields.run_eq {α : Type} :
    ∀ (fields : Fields α) (place : Location) (members : Json.Members),
      fields.run place members = (fields.decode place members).recorded
  | .pure value, _, _ => (Outcome.recorded_done value).symm
  | .required before key item, place, members => by
    rw [Fields.run, Fields.decode, Outcome.recorded_both, Fields.run_eq before]
    cases members.find? key with
    | some value => exact congrArg _ (Schema.run_eq item _ _)
    | none => rfl
  | .defaulted before key item absent, place, members => by
    rw [Fields.run, Fields.decode, Outcome.recorded_both, Fields.run_eq before]
    cases members.find? key with
    | some value =>
      dsimp only
      split
      · rw [Outcome.recorded_done]
      · rw [Schema.run_eq item]
    | none => rw [Outcome.recorded_done]

end

mutual

/-- A value comes to the same at another place, with its failures under that place. -/
theorem Schema.decode_within {α : Type} :
    ∀ (schema : Schema α) (outer inner : Location) (value : Json),
      schema.decode (outer.within inner) value = (schema.decode inner value).under outer
  | .leaf read, outer, inner, value => by
    rw [Schema.decode, Schema.decode]
    cases read value <;> rfl
  | .nullable item, outer, inner, value => by
    rw [Schema.decode, Schema.decode]
    split
    · rfl
    · rw [Schema.decode_within item, Outcome.under_map]
  | .list item, outer, inner, value => by
    cases value with
    | array items =>
      rw [Schema.decode, Schema.decode, Outcome.under_all, map_mapIdx]
      simp only [Location.within_index, Schema.decode_within item]
    | _ => rfl
  | .object fields, outer, inner, value => by
    cases value with
    | object members =>
      rw [Schema.decode, Schema.decode, Outcome.under_spoiledBy, Fields.decode_within fields,
        undeclaredKeys_within]
    | _ => rfl
  | .tagged tag known fields, outer, inner, value => by
    cases value with
    | object members =>
      rw [Schema.decode, Schema.decode]
      split
      · rfl
      · split
        · rw [Outcome.under_spoiledBy, Fields.decode_within (fields _), undeclaredKeys_within]
        · rfl
    | _ => rfl
  | .map f item, outer, inner, value => by
    rw [Schema.decode, Schema.decode, Schema.decode_within item, Outcome.under_map]

/-- Members come to the same at another place, with their failures under that place. -/
theorem Fields.decode_within {α : Type} :
    ∀ (fields : Fields α) (outer inner : Location) (members : Json.Members),
      fields.decode (outer.within inner) members = (fields.decode inner members).under outer
  | .pure _, _, _, _ => rfl
  | .required before key item, outer, inner, members => by
    rw [Fields.decode, Fields.decode, Outcome.under_both, Fields.decode_within before,
      Location.within_key]
    cases members.find? key with
    | some value => exact congrArg _ (Schema.decode_within item _ _ _)
    | none => rfl
  | .defaulted before key item absent, outer, inner, members => by
    rw [Fields.decode, Fields.decode, Outcome.under_both, Fields.decode_within before,
      Location.within_key]
    cases members.find? key with
    | some value =>
      dsimp only
      split
      · rfl
      · rw [Schema.decode_within item]
    | none => rfl

end

/-- A property of outcomes that holds of results and of failures with certain problems, and that the
combinators of outcomes keep. A value of the wrong shape is one of these problems. -/
structure Outcome.IsKept (Keeps : (α : Type) → Outcome α → Prop) (Finds : Problem → Prop) :
    Prop where
  /-- A result has the property. -/
  done : ∀ {α : Type} (value : α), Keeps α (Outcome.done value)
  /-- A failure with such a problem has the property. -/
  failed : ∀ {α : Type} (place : Location) {problem : Problem}, Finds problem →
    Keeps α (Outcome.failed place problem)
  /-- Work on a result keeps the property. -/
  map : ∀ {α β : Type} (f : α → β) {outcome : Outcome α}, Keeps α outcome →
    Keeps β (outcome.map f)
  /-- Two outcomes side by side keep the property. -/
  both : ∀ {α β : Type} {f : Outcome (α → β)} {x : Outcome α}, Keeps (α → β) f → Keeps α x →
    Keeps β (Outcome.both f x)
  /-- Keys that are not declared keep the property. -/
  spoiledBy : ∀ {α : Type} {outcome : Outcome α} (declared : List String) (place : Location)
    (members : Json.Members), Keeps α outcome →
    Keeps α (outcome.spoiledBy (undeclaredKeys declared place members))
  /-- A wrong shape is one of the problems. -/
  shape : ∀ {problem : Problem}, problem.kind = .shape → Finds problem

/-- Outcomes in a row keep what each of them has. -/
theorem Outcome.IsKept.all {Keeps : (α : Type) → Outcome α → Prop} {Finds : Problem → Prop}
    (kept : IsKept Keeps Finds) {α : Type} {outcomes : List (Outcome α)}
    (each : ∀ outcome ∈ outcomes, Keeps α outcome) : Keeps (List α) (Outcome.all outcomes) := by
  induction outcomes with
  | nil => exact kept.done []
  | cons first rest ih =>
    obtain ⟨head, tail⟩ := List.forall_mem_cons.1 each
    exact kept.both (kept.map _ head) (ih tail)

mutual

/-- The leaves of a schema find certain problems only. -/
def Schema.LeavesFind {α : Type} (Finds : Problem → Prop) : Schema α → Prop
  | .leaf read => ∀ value problem, read value = .error problem → Finds problem
  | .nullable item => item.LeavesFind Finds
  | .list item => item.LeavesFind Finds
  | .object fields => fields.LeavesFind Finds
  | .tagged _ _ fields => ∀ label, (fields label).LeavesFind Finds
  | .map _ item => item.LeavesFind Finds

/-- The leaves below declared fields find certain problems only. -/
def Fields.LeavesFind {α : Type} (Finds : Problem → Prop) : Fields α → Prop
  | .pure _ => True
  | .required before _ item => before.LeavesFind Finds ∧ item.LeavesFind Finds
  | .defaulted before _ item _ => before.LeavesFind Finds ∧ item.LeavesFind Finds

end

mutual

/-- Every reader of a single value in a schema has a property. -/
def Schema.EachLeaf {α : Type} (Has : {β : Type} → (Json → Except Problem β) → Prop) :
    Schema α → Prop
  | .leaf read => Has read
  | .nullable item => item.EachLeaf Has
  | .list item => item.EachLeaf Has
  | .object fields => fields.EachLeaf Has
  | .tagged _ _ fields => ∀ label, (fields label).EachLeaf Has
  | .map _ item => item.EachLeaf Has

/-- Every reader of a single value below declared fields has a property. -/
def Fields.EachLeaf {α : Type} (Has : {β : Type} → (Json → Except Problem β) → Prop) :
    Fields α → Prop
  | .pure _ => True
  | .required before _ item => before.EachLeaf Has ∧ item.EachLeaf Has
  | .defaulted before _ item _ => before.EachLeaf Has ∧ item.EachLeaf Has

end

/-- The readers of a chart description read texts, numbers, truth values, unique identifiers, sizes,
names, and the styles of lines and of indentation. -/
theorem Chart.eachLeaf_schema_of {Has : {β : Type} → (Json → Except Problem β) → Prop}
    (texts : Has Schema.readText) (floats : Has Schema.readFloat)
    (booleans : Has Schema.readBoolean) (uuids : Has Schema.readUuid)
    (sizes : Has Schema.readPositive) (names : ∀ space, Has (Schema.readName space))
    (lineStyles : Has (Schema.readChoice LineStyle))
    (indentStyles : Has (Schema.readChoice IndentStyle)) : schema.EachLeaf Has := by
  simp [schema, fields, Figure.schema, GridSize.schema, FigureStyle.schema, Axes.schema,
    Axes.styleSchema, Plot.schema, Plot.styleSchema, Relation.schema, Relation.fields,
    Series.schema, Fields.optional, Fields.chosen, Schema.EachLeaf, Fields.EachLeaf, Schema.text,
    Schema.float, Schema.boolean, Schema.uuid, Schema.positive, Schema.name, Schema.choice, texts,
    floats, booleans, uuids, sizes, names, lineStyles, indentStyles]

/-- The readers of a chart description read texts, numbers, truth values, unique identifiers, sizes,
names and members of closed sets. -/
theorem Chart.eachLeaf_schema {Has : {β : Type} → (Json → Except Problem β) → Prop}
    (texts : Has Schema.readText) (floats : Has Schema.readFloat)
    (booleans : Has Schema.readBoolean) (uuids : Has Schema.readUuid)
    (sizes : Has Schema.readPositive) (names : ∀ space, Has (Schema.readName space))
    (choices : ∀ (β : Type) [ClosedSet β], Has (Schema.readChoice β)) : schema.EachLeaf Has :=
  eachLeaf_schema_of texts floats booleans uuids sizes names (choices LineStyle)
    (choices IndentStyle)

section Kept

variable {Keeps : (α : Type) → Outcome α → Prop} {Finds : Problem → Prop}

mutual

/-- What a value comes to has a property that is kept, if the leaves find its problems only. -/
theorem Schema.kept_decode {α : Type} (kept : Outcome.IsKept Keeps Finds) :
    ∀ (schema : Schema α), schema.LeavesFind Finds → ∀ (place : Location) (value : Json),
      Keeps α (schema.decode place value)
  | .leaf read, leaves, place, value => by
    rw [Schema.decode]
    cases found : read value with
    | ok result => exact kept.done result
    | error problem => exact kept.failed place (leaves value problem found)
  | .nullable item, leaves, place, value => by
    rw [Schema.decode]
    split
    · exact kept.done none
    · exact kept.map some (Schema.kept_decode kept item leaves place value)
  | .list item, leaves, place, value => by
    cases value with
    | array items =>
      rw [Schema.decode]
      apply kept.all
      intro outcome member
      obtain ⟨i, inside, rfl⟩ := List.mem_mapIdx.1 member
      exact Schema.kept_decode kept item leaves (place.index i) items[i]
    | _ => exact kept.failed place (kept.shape rfl)
  | .object fields, leaves, place, value => by
    cases value with
    | object members =>
      exact kept.spoiledBy _ _ _ (Fields.kept_decode kept fields leaves place members)
    | _ => exact kept.failed place (kept.shape rfl)
  | .tagged tag known fields, leaves, place, value => by
    cases value with
    | object members =>
      rw [Schema.decode]
      split
      · exact kept.failed place (kept.shape rfl)
      · split
        · exact kept.spoiledBy _ _ _
            (Fields.kept_decode kept (fields _) (leaves _) place members)
        · exact kept.failed place (kept.shape rfl)
    | _ => exact kept.failed place (kept.shape rfl)
  | .map f item, leaves, place, value => by
    rw [Schema.decode]
    exact kept.map f (Schema.kept_decode kept item leaves place value)

/-- What members come to has a property that is kept, if the leaves find its problems only. -/
theorem Fields.kept_decode {α : Type} (kept : Outcome.IsKept Keeps Finds) :
    ∀ (fields : Fields α), fields.LeavesFind Finds →
      ∀ (place : Location) (members : Json.Members), Keeps α (fields.decode place members)
  | .pure value, _, _, _ => kept.done value
  | .required before key item, leaves, place, members => by
    rw [Fields.decode]
    apply kept.both (Fields.kept_decode kept before leaves.1 place members)
    split
    · exact Schema.kept_decode kept item leaves.2 (place.key key) _
    · exact kept.failed (place.key key) (kept.shape rfl)
  | .defaulted before key item absent, leaves, place, members => by
    rw [Fields.decode]
    apply kept.both (Fields.kept_decode kept before leaves.1 place members)
    split
    · split
      · exact kept.done absent
      · exact Schema.kept_decode kept item leaves.2 (place.key key) _
    · exact kept.done absent

end

end Kept

mutual

/-- If every problem counts, leaves find such problems only. -/
theorem Schema.leavesFind_of_forall {α : Type} {Finds : Problem → Prop}
    (always : ∀ problem, Finds problem) : ∀ schema : Schema α, schema.LeavesFind Finds
  | .leaf _ => fun _ problem _ => always problem
  | .nullable item => Schema.leavesFind_of_forall always item
  | .list item => Schema.leavesFind_of_forall always item
  | .object fields => Fields.leavesFind_of_forall always fields
  | .tagged _ _ fields => fun label => Fields.leavesFind_of_forall always (fields label)
  | .map _ item => Schema.leavesFind_of_forall always item

/-- If every problem counts, leaves below fields find such problems only. -/
theorem Fields.leavesFind_of_forall {α : Type} {Finds : Problem → Prop}
    (always : ∀ problem, Finds problem) : ∀ fields : Fields α, fields.LeavesFind Finds
  | .pure _ => trivial
  | .required before _ item =>
    ⟨Fields.leavesFind_of_forall always before, Schema.leavesFind_of_forall always item⟩
  | .defaulted before _ item _ =>
    ⟨Fields.leavesFind_of_forall always before, Schema.leavesFind_of_forall always item⟩

end

section Found

variable {Has : {β : Type} → (Json → Except Problem β) → Prop} {Finds : Problem → Prop}

mutual

/-- If every reader of a schema finds certain problems only, its leaves do. -/
theorem Schema.leavesFind_of_eachLeaf {α : Type}
    (finds : ∀ {β : Type} (read : Json → Except Problem β), Has read →
      ∀ value problem, read value = .error problem → Finds problem) :
    ∀ schema : Schema α, schema.EachLeaf Has → schema.LeavesFind Finds
  | .leaf read, has => finds read has
  | .nullable item, has => Schema.leavesFind_of_eachLeaf finds item has
  | .list item, has => Schema.leavesFind_of_eachLeaf finds item has
  | .object fields, has => Fields.leavesFind_of_eachLeaf finds fields has
  | .tagged _ _ fields, has => fun label =>
    Fields.leavesFind_of_eachLeaf finds (fields label) (has label)
  | .map _ item, has => Schema.leavesFind_of_eachLeaf finds item has

/-- If every reader below fields finds certain problems only, the leaves below them do. -/
theorem Fields.leavesFind_of_eachLeaf {α : Type}
    (finds : ∀ {β : Type} (read : Json → Except Problem β), Has read →
      ∀ value problem, read value = .error problem → Finds problem) :
    ∀ fields : Fields α, fields.EachLeaf Has → fields.LeavesFind Finds
  | .pure _, _ => trivial
  | .required before _ item, has =>
    ⟨Fields.leavesFind_of_eachLeaf finds before has.1,
      Schema.leavesFind_of_eachLeaf finds item has.2⟩
  | .defaulted before _ item _, has =>
    ⟨Fields.leavesFind_of_eachLeaf finds before has.1,
      Schema.leavesFind_of_eachLeaf finds item has.2⟩

end

end Found

/-- Every combinator of outcomes leaves a result exactly when nothing failed. -/
theorem Outcome.isKept_decided : IsKept (fun _ => Decided) fun _ => True where
  done := decided_done
  failed place _ _ := decided_failed place _
  map f _ decided := decided.map f
  both function argument := function.both argument
  spoiledBy _ _ _ decided := decided.spoiledBy _
  shape _ := trivial

/-- A value has a result exactly when nothing below it failed. -/
theorem Schema.decided_decode {α : Type} (schema : Schema α) (place : Location) (value : Json) :
    (schema.decode place value).Decided :=
  schema.kept_decode Outcome.isKept_decided (schema.leavesFind_of_forall fun _ => trivial) place
    value

/-- A check of any schema has a result and adds failures that depend on the schema and the value
only: a result exactly when nothing is added, whatever was held before stays in front, and each
failure that is added lies under the place of the value, at the same relative place with the same
problem. -/
theorem Schema.run_adds {α : Type} (schema : Schema α) (value : Json) :
    ∃ (found : Option α) (relative : List Failure),
      (found.isSome ↔ relative = []) ∧ (found = none ↔ relative ≠ []) ∧
        ∀ (place : Location) (held : List Failure),
          schema.run place value held = (found, held ++ relative.map (Failure.under place)) := by
  have decided := schema.decided_decode .root value
  refine ⟨_, _, decided, ?_, ?_⟩
  · rw [← Option.not_isSome_iff_eq_none, decided.isSome_iff]
  · intro place held
    calc schema.run place value held
        = (schema.decode (place.within .root) value).recorded held := by
          rw [schema.run_eq, Location.within_root]
      _ = ((schema.decode .root value).under place).recorded held := by
          rw [schema.decode_within]

namespace Chart

variable {value : Json}

/-- A value is accepted exactly when it comes to a chart. -/
theorem ofJson_eq_ok_iff {chart : Chart} :
    ofJson value = .ok chart ↔ (schema.decode .root value).value = some chart := by
  have decided := (schema.decided_decode .root value).isSome_iff
  rw [ofJson, schema.run_eq, Outcome.recorded, List.nil_append]
  cases found : (schema.decode .root value).value with
  | some result =>
    rw [decided.1 (by rw [found]; rfl)]
    simp
  | none => simp

/-- A value is turned down exactly when something below it failed, and all of that is reported. -/
theorem ofJson_eq_error_iff {report : Report} :
    ofJson value = .error report ↔
      report.failures = (schema.decode .root value).failures ∧ report.failures ≠ [] := by
  have decided := (schema.decided_decode .root value).isSome_iff
  rw [ofJson, schema.run_eq, Outcome.recorded, List.nil_append]
  cases failures : (schema.decode .root value).failures with
  | nil =>
    obtain ⟨chart, found⟩ := Option.isSome_iff_exists.1 (decided.2 failures)
    simp [found]
  | cons first rest =>
    obtain ⟨reported⟩ := report
    cases (schema.decode .root value).value <;>
    · simp only [Except.error.injEq, Report.mk.injEq]
      constructor
      · rintro rfl
        exact ⟨rfl, List.cons_ne_nil first rest⟩
      · rintro ⟨rfl, -⟩
        rfl

end Chart

end ChartScript
