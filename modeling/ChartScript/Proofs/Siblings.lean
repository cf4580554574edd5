import ChartScript.Proofs.Recording
import Mathlib.Data.List.Nodup

/-!
# A failure never hides another

A check visits the fields that its schema declares and the items of lists, one schema for each of
these positions. What a description holds at such a position decides the failures at the position
and below it, and nothing else does; the failures elsewhere do not depend on it. So two descriptions
that differ at one position only have the same failures away from it, and a value that is wrong is
reported whatever else is wrong with the description.

The tag that tells the fields of an object is read before the fields and is no such position.
-/

namespace ChartScript

/-- One value holds `old` and the other holds `new` at a path; apart from that they are the same. -/
inductive Json.Exchange (old new : Json) : List Location.Step → Json → Json → Prop where
  /-- The values themselves. -/
  | here : Exchange old new [] old new
  /-- Inside one item of a list. -/
  | item {path : List Location.Step} {value other : Json} (before after : List Json)
      (deeper : Exchange old new path value other) :
      Exchange old new (.index before.length :: path) (.array (before ++ value :: after))
        (.array (before ++ other :: after))
  /-- Inside one member of an object. -/
  | member {path : List Location.Step} {value other : Json} {before : Json.Members} {key : String}
      (after : Json.Members) (fresh : key ∉ before.keys)
      (deeper : Exchange old new path value other) :
      Exchange old new (.key key :: path) (.object (before ++ (key, value) :: after))
        (.object (before ++ (key, other) :: after))

/-- A value is the same as itself but for what it holds at a path. -/
theorem Json.Exchange.self {old new value other : Json} {path : List Location.Step}
    (exchange : Exchange old new path value other) : Exchange old old path value value := by
  induction exchange with
  | here => exact .here
  | item before after _ ih => exact .item before after ih
  | member after fresh _ ih => exact .member after fresh ih

/-- Fields declare a key with the schema of its value. A field that may be absent may be `null`. -/
inductive Fields.Declares : {α : Type} → Fields α → String → {β : Type} → Schema β → Prop where
  /-- The last field, which must be there. -/
  | required {α β : Type} (before : Fields (α → β)) (key : String) (item : Schema α) :
      Declares (.required before key item) key item
  /-- The last field, which may be absent. -/
  | defaulted {α β : Type} (before : Fields (α → β)) (key : String) (item : Schema α)
      (absent : α) : Declares (.defaulted before key item absent) key (.nullable item)
  /-- A field before one that must be there. -/
  | beforeRequired {α β γ : Type} {before : Fields (α → β)} {key : String} {part : Schema γ}
      (last : String) (item : Schema α) (declares : Declares before key part) :
      Declares (.required before last item) key part
  /-- A field before one that may be absent. -/
  | beforeDefaulted {α β γ : Type} {before : Fields (α → β)} {key : String} {part : Schema γ}
      (last : String) (item : Schema α) (absent : α) (declares : Declares before key part) :
      Declares (.defaulted before last item absent) key part

/-- A check of a value comes to a path and checks what stands there against a schema of its own. -/
inductive Schema.Visits : {α : Type} → Schema α → Json → List Location.Step →
    {β : Type} → Schema β → Prop where
  /-- The value itself. -/
  | here {α : Type} (schema : Schema α) (value : Json) : Visits schema value [] schema
  /-- Inside a value that may be `null`. -/
  | nullable {α β : Type} {item : Schema α} {value : Json} {step : Location.Step}
      {path : List Location.Step} {part : Schema β}
      (deeper : Visits item value (step :: path) part) :
      Visits (.nullable item) value (step :: path) part
  /-- Inside an item of a list. -/
  | item {α β : Type} {item : Schema α} {items : List Json} {i : Nat} {value : Json}
      {path : List Location.Step} {part : Schema β} (listed : items[i]? = some value)
      (deeper : Visits item value path part) :
      Visits (.list item) (.array items) (.index i :: path) part
  /-- Inside a declared field of an object. -/
  | field {α β γ : Type} {fields : Fields α} {members : Json.Members} {key : String}
      {item : Schema β} {value : Json} {path : List Location.Step} {part : Schema γ}
      (declares : fields.Declares key item) (found : members.find? key = some value)
      (deeper : Visits item value path part) :
      Visits (.object fields) (.object members) (.key key :: path) part
  /-- Inside a field that a known tag declares. -/
  | tagged {α β γ : Type} {tag label : String} {known : List String} {fields : String → Fields α}
      {members : Json.Members} {key : String} {item : Schema β} {value : Json}
      {path : List Location.Step} {part : Schema γ}
      (tells : members.find? tag = some (.string label))
      (listed : known.contains label = true) (untagged : key ≠ tag)
      (declares : (fields label).Declares key item) (found : members.find? key = some value)
      (deeper : Visits item value path part) :
      Visits (.tagged tag known fields) (.object members) (.key key :: path) part
  /-- Inside a value that is worked on further. -/
  | map {α β γ : Type} {f : α → β} {item : Schema α} {value : Json} {path : List Location.Step}
      {part : Schema γ} (deeper : Visits item value path part) :
      Visits (.map f item) value path part

mutual

/-- No object of a schema declares a key twice. -/
def Schema.KeysDiffer {α : Type} : Schema α → Prop
  | .leaf _ => True
  | .nullable item => item.KeysDiffer
  | .list item => item.KeysDiffer
  | .object fields => fields.keys.Nodup ∧ fields.KeysDiffer
  | .tagged _ _ fields => ∀ label, (fields label).keys.Nodup ∧ (fields label).KeysDiffer
  | .map _ item => item.KeysDiffer

/-- No object below declared fields declares a key twice. -/
def Fields.KeysDiffer {α : Type} : Fields α → Prop
  | .pure _ => True
  | .required before _ item => before.KeysDiffer ∧ item.KeysDiffer
  | .defaulted before _ item _ => before.KeysDiffer ∧ item.KeysDiffer

end

/-- No object of a chart description declares a key twice. -/
theorem Chart.keysDiffer_schema : Chart.schema.KeysDiffer := by
  simp [Chart.schema, Chart.fields, Figure.schema, GridSize.schema, FigureStyle.schema, Axes.schema,
    Axes.styleSchema, Plot.schema, Plot.styleSchema, Relation.schema, Relation.fields,
    Series.schema, Fields.optional, Fields.chosen, Schema.KeysDiffer, Fields.KeysDiffer,
    Schema.text, Schema.float, Schema.boolean, Schema.uuid, Schema.positive, Schema.choice,
    Schema.name]

/-- No failure lies at a path or below it. -/
def AwayFrom (path : List Location.Step) (failures : List Failure) : Prop :=
  ∀ failure ∈ failures, ¬ path <+: failure.location.steps

namespace AwayFrom

variable {path : List Location.Step} {failures others : List Failure}

theorem nil : AwayFrom path [] := by simp [AwayFrom]

theorem append (first : AwayFrom path failures) (second : AwayFrom path others) :
    AwayFrom path (failures ++ others) :=
  List.forall_mem_append.2 ⟨first, second⟩

/-- What lies away from a step lies away from all below it. -/
theorem below {step : Location.Step} (away : AwayFrom [step] failures) :
    AwayFrom (step :: path) failures := by
  intro failure member below
  exact away failure member ((List.prefix_append [step] path).trans below)

/-- What lies away from a path lies away from it under any step. -/
theorem under {step : Location.Step} (away : AwayFrom path failures) :
    AwayFrom (step :: path) (failures.map (Failure.under ⟨[step]⟩)) := by
  intro failure member below
  obtain ⟨inner, listed, rfl⟩ := List.mem_map.1 member
  exact away inner listed (List.cons_prefix_cons.1 below).2

/-- Failures under other steps lie away from a step. -/
theorem of_steps {step : Location.Step}
    (elsewhere : ∀ failure ∈ failures, ∃ other ≠ step, ∃ rest,
      failure.location.steps = other :: rest) : AwayFrom [step] failures := by
  intro failure member below
  obtain ⟨other, different, rest, steps⟩ := elsewhere failure member
  rw [steps] at below
  exact different (List.cons_prefix_cons.1 below).1.symm

/-- Failures under another key lie away from a key. -/
theorem of_key {key last : String} (different : last ≠ key)
    (under : ∀ failure ∈ failures, ∃ rest, failure.location.steps = .key last :: rest) :
    AwayFrom [.key key] failures :=
  of_steps fun failure member =>
    ⟨.key last, fun same => different (Location.Step.key.inj same), under failure member⟩

/-- Failures that lie away from a path are none of those below it. -/
theorem filter_below (away : AwayFrom path failures) :
    failures.filter (fun failure => path <+: failure.location.steps) = [] :=
  List.filter_eq_nil_iff.2 fun failure member below =>
    away failure member (of_decide_eq_true below)

end AwayFrom

/-- A value at a place comes to what it comes to on its own, with its failures under the place. -/
theorem Schema.decode_at {α : Type} (schema : Schema α) (place : Location) (value : Json) :
    schema.decode place value = (schema.decode .root value).under place := by
  rw [← schema.decode_within, Location.within_root]

/-- The failures of a value lie under its place. -/
theorem Schema.steps_of_mem_failures {α : Type} {schema : Schema α} {place : Location}
    {value : Json} {failure : Failure} (member : failure ∈ (schema.decode place value).failures) :
    ∃ rest, failure.location.steps = place.steps ++ rest := by
  rw [schema.decode_at] at member
  obtain ⟨inner, -, rfl⟩ := List.mem_map.1 member
  exact ⟨inner.location.steps, rfl⟩

/-- The failures of a value all lie at its place or below it. -/
theorem Schema.prefix_of_mem_failures {α : Type} {schema : Schema α} {path : List Location.Step}
    {value : Json} {failure : Failure} (member : failure ∈ (schema.decode ⟨path⟩ value).failures) :
    path <+: failure.location.steps := by
  obtain ⟨rest, steps⟩ := steps_of_mem_failures member
  exact ⟨rest, steps.symm⟩

namespace Json.Members

variable {before after : Members} {key : String} {value : Json}

/-- The first member under a key is the one that is found. -/
theorem find?_here (fresh : key ∉ keys before) :
    find? (before ++ (key, value) :: after) key = some value := by
  induction before with
  | nil => simp [find?]
  | cons member rest ih =>
    obtain ⟨name, held⟩ := member
    simp only [keys, List.map_cons, List.mem_cons, not_or] at fresh
    rw [List.cons_append, find?, if_neg (Ne.symm fresh.1)]
    exact ih fresh.2

/-- The value under a key has no part in finding another key. -/
theorem find?_elsewhere (other : Json) {name : String} (different : name ≠ key) :
    find? (before ++ (key, value) :: after) name =
      find? (before ++ (key, other) :: after) name := by
  induction before with
  | nil => simp [find?, different.symm]
  | cons member rest ih =>
    obtain ⟨first, held⟩ := member
    rw [List.cons_append, List.cons_append, find?, find?, ih]

/-- Members that differ in a value have the same keys. -/
theorem keys_exchange (other : Json) :
    keys (before ++ (key, value) :: after) = keys (before ++ (key, other) :: after) := by
  simp [keys]

end Json.Members

namespace Schema

variable {α β : Type}

/-- What a field that must be there comes to. -/
def required (item : Schema α) (key : String) (found : Option Json) : Outcome α :=
  match found with
  | some value => item.decode (Location.root.key key) value
  | none => .failed (Location.root.key key) .missing

/-- What a field that may be absent or `null` comes to. -/
def defaulted (item : Schema α) (absent : α) (key : String) (found : Option Json) : Outcome α :=
  match found with
  | some value => if value.isNull then .done absent else item.decode (Location.root.key key) value
  | none => .done absent

theorem decode_required (before : Fields (α → β)) (key : String) (item : Schema α)
    (members : Json.Members) :
    (Fields.required before key item).decode .root members =
      .both (before.decode .root members) (item.required key (members.find? key)) := by
  rw [Fields.decode]
  rfl

theorem decode_defaulted (before : Fields (α → β)) (key : String) (item : Schema α) (absent : α)
    (members : Json.Members) :
    (Fields.defaulted before key item absent).decode .root members =
      .both (before.decode .root members) (item.defaulted absent key (members.find? key)) := by
  rw [Fields.decode]
  rfl

/-- The failures of a field that must be there lie under its key. -/
theorem steps_of_mem_required {item : Schema α} {key : String} {found : Option Json}
    {failure : Failure} (member : failure ∈ (item.required key found).failures) :
    ∃ rest, failure.location.steps = .key key :: rest := by
  cases found with
  | some value => exact steps_of_mem_failures member
  | none =>
    rw [List.mem_singleton.1 member]
    exact ⟨[], rfl⟩

/-- The failures of a field that may be absent lie under its key. -/
theorem steps_of_mem_defaulted {item : Schema α} {absent : α} {key : String}
    {found : Option Json} {failure : Failure}
    (member : failure ∈ (item.defaulted absent key found).failures) :
    ∃ rest, failure.location.steps = .key key :: rest := by
  cases found with
  | some value =>
    rw [defaulted] at member
    split at member
    · cases member
    · exact steps_of_mem_failures member
  | none => cases member

end Schema

namespace Fields

variable {α β : Type}

/-- Members that agree on the declared keys come to the same. -/
theorem decode_congr {members others : Json.Members} : ∀ {α : Type} (fields : Fields α),
    (∀ key ∈ fields.keys, members.find? key = others.find? key) →
      fields.decode .root members = fields.decode .root others
  | _, .pure _, _ => rfl
  | _, .required before key item, agree => by
    obtain ⟨earlier, last⟩ := List.forall_mem_append.1 agree
    rw [Schema.decode_required, Schema.decode_required, decode_congr before earlier,
      last key (List.mem_singleton_self key)]
  | _, .defaulted before key item absent, agree => by
    obtain ⟨earlier, last⟩ := List.forall_mem_append.1 agree
    rw [Schema.decode_defaulted, Schema.decode_defaulted, decode_congr before earlier,
      last key (List.mem_singleton_self key)]

/-- The failures of fields lie under the declared keys. -/
theorem steps_of_mem_failures {members : Json.Members} {failure : Failure} :
    ∀ {α : Type} (fields : Fields α), failure ∈ (fields.decode .root members).failures →
      ∃ key ∈ fields.keys, ∃ rest, failure.location.steps = .key key :: rest
  | _, .pure _, member => by cases member
  | _, .required before key item, member => by
    rw [Schema.decode_required] at member
    rcases List.mem_append.1 member with earlier | last
    · obtain ⟨found, listed, steps⟩ := steps_of_mem_failures before earlier
      exact ⟨found, List.mem_append_left _ listed, steps⟩
    · exact ⟨key, List.mem_append_right _ (List.mem_singleton_self key),
        Schema.steps_of_mem_required last⟩
  | _, .defaulted before key item absent, member => by
    rw [Schema.decode_defaulted] at member
    rcases List.mem_append.1 member with earlier | last
    · obtain ⟨found, listed, steps⟩ := steps_of_mem_failures before earlier
      exact ⟨found, List.mem_append_left _ listed, steps⟩
    · exact ⟨key, List.mem_append_right _ (List.mem_singleton_self key),
        Schema.steps_of_mem_defaulted last⟩

/-- The failures of fields that do not declare a key lie away from it. -/
theorem awayFrom_failures {fields : Fields α} {key : String} (fresh : key ∉ fields.keys)
    (members : Json.Members) : AwayFrom [.key key] (fields.decode .root members).failures := by
  apply AwayFrom.of_steps
  intro failure member
  obtain ⟨name, listed, rest, steps⟩ := fields.steps_of_mem_failures member
  exact ⟨.key name, fun same => fresh (Location.Step.key.inj same ▸ listed), rest, steps⟩

/-- Keys differ when the last one is new and the others differ. -/
theorem nodup_keys_concat {keys : List String} {key : String} :
    (keys ++ [key]).Nodup ↔ key ∉ keys ∧ keys.Nodup := by
  rw [← List.concat_eq_append, List.nodup_concat]

/-- A declared key is one of the declared keys. -/
theorem Declares.mem_keys {fields : Fields α} {key : String} {item : Schema β}
    (declares : fields.Declares key item) : key ∈ fields.keys := by
  induction declares with
  | required | defaulted => exact List.mem_append_right _ (List.mem_singleton_self _)
  | beforeRequired _ _ _ ih | beforeDefaulted _ _ _ _ ih => exact List.mem_append_left _ ih

/-- Fields that do not declare a key come to the same whatever stands under it. -/
theorem decode_apart {fields : Fields α} {key : String} (fresh : key ∉ fields.keys)
    {members others : Json.Members}
    (agree : ∀ name ≠ key, others.find? name = members.find? name) :
    fields.decode .root others = fields.decode .root members :=
  fields.decode_congr fun name listed => agree name fun same => fresh (same ▸ listed)

/-- The failures of declared fields are those of one of them, between others at other keys that do
not depend on it. -/
theorem Declares.frame {fields : Fields α} {key : String} {item : Schema β}
    (declares : fields.Declares key item) (distinct : fields.keys.Nodup) (members : Json.Members) :
    ∃ front back, AwayFrom [.key key] front ∧ AwayFrom [.key key] back ∧
      ∀ others value, (∀ name ≠ key, others.find? name = members.find? name) →
        others.find? key = some value →
        (fields.decode .root others).failures =
          front ++ (item.decode (Location.root.key key) value).failures ++ back := by
  -- The fields before the declared one stand in front. Each step to the last field adds the
  -- failures of that field behind.
  induction declares with
  | required before key item =>
    obtain ⟨fresh, -⟩ := nodup_keys_concat.1 distinct
    refine ⟨_, [], awayFrom_failures fresh members, .nil, ?_⟩
    intro others value agree found
    rw [Schema.decode_required, decode_apart fresh agree, found, List.append_nil]
    rfl
  | defaulted before key item absent =>
    obtain ⟨fresh, -⟩ := nodup_keys_concat.1 distinct
    refine ⟨_, [], awayFrom_failures fresh members, .nil, ?_⟩
    intro others value agree found
    rw [Schema.decode_defaulted, decode_apart fresh agree, found, List.append_nil, Schema.decode,
      Schema.defaulted]
    split <;> rfl
  | beforeRequired last item declares ih =>
    obtain ⟨fresh, earlier⟩ := nodup_keys_concat.1 distinct
    have different : last ≠ _ := fun same => fresh (same ▸ declares.mem_keys)
    obtain ⟨front, back, awayFront, awayBack, split⟩ := ih earlier
    refine ⟨front, back ++ (item.required last (members.find? last)).failures, awayFront,
      awayBack.append (.of_key different fun _ => Schema.steps_of_mem_required), ?_⟩
    intro others value agree found
    rw [Schema.decode_required, agree last different, ← List.append_assoc,
      ← split others value agree found]
    rfl
  | beforeDefaulted last item absent declares ih =>
    obtain ⟨fresh, earlier⟩ := nodup_keys_concat.1 distinct
    have different : last ≠ _ := fun same => fresh (same ▸ declares.mem_keys)
    obtain ⟨front, back, awayFront, awayBack, split⟩ := ih earlier
    refine ⟨front, back ++ (item.defaulted absent last (members.find? last)).failures, awayFront,
      awayBack.append (.of_key different fun _ => Schema.steps_of_mem_defaulted), ?_⟩
    intro others value agree found
    rw [Schema.decode_defaulted, agree last different, ← List.append_assoc,
      ← split others value agree found]
    rfl

/-- Fields below which keys differ declare schemas of which the same holds. -/
theorem Declares.keysDiffer {fields : Fields α} {key : String} {item : Schema β}
    (declares : fields.Declares key item) (differ : fields.KeysDiffer) : item.KeysDiffer := by
  induction declares with
  | required | defaulted => exact differ.2
  | beforeRequired _ _ _ ih | beforeDefaulted _ _ _ _ ih => exact ih differ.1

end Fields

namespace Schema

variable {α β γ : Type}

/-- Whatever stands at a path of a value, the failures are those of what stands there against a
schema of its own, between others that lie away from the path and do not depend on it. -/
def FramedAt (schema : Schema α) (value : Json) (path : List Location.Step) (part : Schema β) :
    Prop :=
  ∃ front back, AwayFrom path front ∧ AwayFrom path back ∧
    ∀ old new other, Json.Exchange old new path value other →
      (schema.decode .root other).failures =
        front ++ (part.decode .root new).failures.map (Failure.under ⟨path⟩) ++ back

/-- A frame inside a value that stands one step below is a frame of the whole, if the other failures
of the whole lie away from the step and do not depend on the value. -/
theorem FramedAt.step {schema : Schema α} {item : Schema β} {part : Schema γ}
    {value inner : Json} {step : Location.Step} {path : List Location.Step}
    (framed : item.FramedAt inner path part) {front back : List Failure}
    (awayFront : AwayFrom [step] front) (awayBack : AwayFrom [step] back)
    (split : ∀ old new other, Json.Exchange old new (step :: path) value other →
      ∃ deeper, Json.Exchange old new path inner deeper ∧
        (schema.decode .root other).failures =
          front ++ (item.decode ⟨[step]⟩ deeper).failures ++ back) :
    schema.FramedAt value (step :: path) part := by
  obtain ⟨innerFront, innerBack, awayInnerFront, awayInnerBack, inside⟩ := framed
  refine ⟨front ++ innerFront.map (Failure.under ⟨[step]⟩),
    innerBack.map (Failure.under ⟨[step]⟩) ++ back, awayFront.below.append awayInnerFront.under,
    awayInnerBack.under.append awayBack.below, ?_⟩
  intro old new other exchange
  obtain ⟨deeper, exchanged, failures⟩ := split old new other exchange
  have below : (part.decode .root new).failures.map (Failure.under ⟨step :: path⟩) =
      ((part.decode .root new).failures.map (Failure.under ⟨path⟩)).map
        (Failure.under ⟨[step]⟩) := by
    rw [List.map_map]
    rfl
  rw [failures, item.decode_at, Outcome.under, inside old new deeper exchanged, below]
  simp only [List.map_append, List.append_assoc]

/-- The failures of a list are those of one item, between those of the others. -/
theorem failures_list (item : Schema α) {items : List Json} {i : Nat} (inside : i < items.length) :
    ∃ front back, AwayFrom [.index i] front ∧ AwayFrom [.index i] back ∧
      ∀ before value other after, items = before ++ value :: after → i = before.length →
        ((list item).decode .root (.array (before ++ other :: after))).failures =
          front ++ (item.decode ⟨[.index i]⟩ other).failures ++ back := by
  have away : ∀ (others : List Json) (place : Nat → Nat), (∀ j < others.length, place j ≠ i) →
      AwayFrom [.index i] ((others.mapIdx fun j value =>
        item.decode (Location.root.index (place j)) value).flatMap Outcome.failures) := by
    intro others place different
    apply AwayFrom.of_steps
    intro failure member
    obtain ⟨outcome, listed, fails⟩ := List.mem_flatMap.1 member
    obtain ⟨j, earlier, rfl⟩ := List.mem_mapIdx.1 listed
    exact ⟨.index (place j), fun same => different j earlier (Location.Step.index.inj same),
      steps_of_mem_failures fails⟩
  refine ⟨_, _, away (items.take i) id ?_, away (items.drop (i + 1)) (fun j => j + 1 + i) ?_, ?_⟩
  · intro j earlier
    exact Nat.ne_of_lt (List.length_take_of_le (Nat.le_of_lt inside) ▸ earlier)
  · intro j _
    omega
  · rintro before value other after rfl rfl
    have after' : (before ++ value :: after).drop (before.length + 1) = after := by simp
    rw [List.take_left, after', decode, Outcome.failures_all, List.mapIdx_append, List.mapIdx_cons,
      List.flatMap_append, List.flatMap_cons, ← List.append_assoc, Nat.zero_add]
    rfl

/-- Keys that are not declared lie away from those that are. -/
theorem awayFrom_undeclaredKeys {declared : List String} {key : String} (listed : key ∈ declared)
    (members : Json.Members) : AwayFrom [.key key] (undeclaredKeys declared .root members) := by
  apply AwayFrom.of_steps
  intro failure member
  obtain ⟨name, undeclared, rfl⟩ := List.mem_map.1 member
  refine ⟨.key name, fun same => ?_, [], rfl⟩
  have absent := (List.mem_filter.1 undeclared).2
  rw [Location.Step.key.inj same, List.contains_iff_mem.2 listed] at absent
  cases absent

/-- The failures of an object are those of one declared field, between those of the other fields and
the keys that are not declared. -/
theorem failures_object {fields : Fields α} {key : String} {item : Schema β}
    (declares : fields.Declares key item) (distinct : fields.keys.Nodup) {declared : List String}
    (listed : key ∈ declared) (members : Json.Members) :
    ∃ front back, AwayFrom [.key key] front ∧ AwayFrom [.key key] back ∧
      ∀ before value other after, members = before ++ (key, value) :: after →
        key ∉ Json.Members.keys before →
        ((fields.decode .root (before ++ (key, other) :: after)).spoiledBy
          (undeclaredKeys declared .root (before ++ (key, other) :: after))).failures =
            front ++ (item.decode ⟨[.key key]⟩ other).failures ++ back := by
  obtain ⟨front, back, awayFront, awayBack, split⟩ := declares.frame distinct members
  refine ⟨front, back ++ undeclaredKeys declared .root members, awayFront,
    awayBack.append (awayFrom_undeclaredKeys listed members), ?_⟩
  rintro before value other after rfl fresh
  have keys : undeclaredKeys declared .root (before ++ (key, other) :: after) =
      undeclaredKeys declared .root (before ++ (key, value) :: after) := by
    rw [undeclaredKeys, undeclaredKeys, Json.Members.keys_exchange value]
  rw [Outcome.spoiledBy, keys, ← List.append_assoc,
    split _ other (fun _ different => Json.Members.find?_elsewhere value different)
      (Json.Members.find?_here fresh)]
  rfl

/-- A check is framed at every position that it visits. -/
theorem Visits.framedAt {schema : Schema α} {value : Json} {path : List Location.Step}
    {part : Schema β} (visits : schema.Visits value path part) (differ : schema.KeysDiffer) :
    schema.FramedAt value path part := by
  induction visits with
  | here schema value =>
    refine ⟨[], [], .nil, .nil, ?_⟩
    rintro old new _ ⟨⟩
    have unmoved : Failure.under ⟨[]⟩ = id := rfl
    rw [unmoved, List.map_id, List.append_nil, List.nil_append]
  | nullable deeper ih =>
    obtain ⟨front, back, awayFront, awayBack, inside⟩ := ih differ
    refine ⟨front, back, awayFront, awayBack, ?_⟩
    intro old new other exchange
    have present : other.isNull = false := by cases exchange <;> rfl
    rw [decode, present, ← inside old new other exchange]
    rfl
  | map deeper ih => exact ih differ
  | @item _ _ item items i value path part listed deeper ih =>
    obtain ⟨inside, -⟩ := List.getElem?_eq_some_iff.1 listed
    obtain ⟨front, back, awayFront, awayBack, split⟩ := item.failures_list inside
    refine (ih differ).step awayFront awayBack ?_
    intro old new other exchange
    cases exchange with
    | item before after exchanged =>
      rw [List.getElem?_append_right (Nat.le_refl _), Nat.sub_self, List.getElem?_cons_zero]
        at listed
      cases listed
      exact ⟨_, exchanged, split _ _ _ _ rfl rfl⟩
  | @field _ _ _ fields members key item value path part declares found deeper ih =>
    obtain ⟨front, back, awayFront, awayBack, split⟩ :=
      failures_object declares differ.1 declares.mem_keys members
    refine (ih (declares.keysDiffer differ.2)).step awayFront awayBack ?_
    intro old new other exchange
    cases exchange with
    | member after fresh exchanged =>
      rw [Json.Members.find?_here fresh] at found
      cases found
      exact ⟨_, exchanged, split _ _ _ _ rfl fresh⟩
  | @tagged _ _ _ tag label known fields members key item value path part tells listed untagged
      declares found deeper ih =>
    obtain ⟨front, back, awayFront, awayBack, split⟩ := failures_object declares (differ label).1
      (List.mem_cons_of_mem tag declares.mem_keys) members
    refine (ih (declares.keysDiffer (differ label).2)).step awayFront awayBack ?_
    intro old new other exchange
    cases exchange with
    | @member _ _ deeper before _ after fresh exchanged =>
      rw [Json.Members.find?_here fresh] at found
      cases found
      -- The tag stands under another key, so both values tell the same fields.
      rw [Json.Members.find?_elsewhere deeper (Ne.symm untagged)] at tells
      refine ⟨_, exchanged, ?_⟩
      rw [← split _ _ _ _ rfl fresh, decode]
      simp only [tells, Option.bind_some, Json.text?, listed, if_true]

end Schema

namespace Chart

/-- The failures that are reported when a chart is read from a value. -/
def failures (value : Json) : List Failure :=
  match ofJson value with
  | .ok _ => []
  | .error report => report.failures

/-- The failures that are reported are all that a value comes to. -/
theorem failures_eq (value : Json) : failures value = (schema.decode .root value).failures := by
  rw [failures]
  cases read : ofJson value with
  | ok chart =>
    have found := ofJson_eq_ok_iff.1 read
    exact ((schema.decided_decode .root value).isSome_iff.1 (by rw [found]; rfl)).symm
  | error report => exact (ofJson_eq_error_iff.1 read).1

/-- Two descriptions that differ at one position that is visited have the same failures away from
it, in the same order. At the position and below it, each has the failures of what stands there
against the schema of the position, whatever else is wrong; so what is wrong there is reported. -/
theorem failures_apart {α : Type} {part : Schema α} {path : List Location.Step}
    {value other old new : Json} (visits : schema.Visits value path part)
    (exchange : Json.Exchange old new path value other) :
    (failures value).filter (fun failure => ¬ path <+: failure.location.steps) =
        (failures other).filter (fun failure => ¬ path <+: failure.location.steps) ∧
      (failures value).filter (fun failure => path <+: failure.location.steps) =
        (part.decode ⟨path⟩ old).failures ∧
      (failures other).filter (fun failure => path <+: failure.location.steps) =
        (part.decode ⟨path⟩ new).failures ∧
      ((part.decode ⟨path⟩ old).value = none →
        ∃ failure ∈ failures value, path <+: failure.location.steps) := by
  obtain ⟨front, back, awayFront, awayBack, framed⟩ := visits.framedAt keysDiffer_schema
  have reported : ∀ {held whole : Json}, Json.Exchange old held path value whole →
      failures whole = front ++ (part.decode ⟨path⟩ held).failures ++ back := by
    intro held whole exchanged
    rw [failures_eq, framed old held whole exchanged, part.decode_at ⟨path⟩]
    rfl
  have apart : ∀ held, (part.decode ⟨path⟩ held).failures.filter
      (fun failure => ¬ path <+: failure.location.steps) = [] := fun held =>
    List.filter_eq_nil_iff.2 fun failure member beyond =>
      of_decide_eq_true beyond (Schema.prefix_of_mem_failures member)
  have below : ∀ {held whole : Json}, Json.Exchange old held path value whole →
      (failures whole).filter (fun failure => path <+: failure.location.steps) =
        (part.decode ⟨path⟩ held).failures := by
    intro held whole exchanged
    have inside : (part.decode ⟨path⟩ held).failures.filter
        (fun failure => path <+: failure.location.steps) = (part.decode ⟨path⟩ held).failures :=
      List.filter_eq_self.2 fun failure member =>
        decide_eq_true (Schema.prefix_of_mem_failures member)
    rw [reported exchanged, List.filter_append, List.filter_append, awayFront.filter_below,
      awayBack.filter_below, inside, List.nil_append, List.append_nil]
  refine ⟨?_, below exchange.self, below exchange, ?_⟩
  · rw [reported exchange, reported exchange.self, List.filter_append, List.filter_append,
      List.filter_append, List.filter_append, apart, apart]
  · intro wrong
    have decided := (part.decided_decode ⟨path⟩ old).isSome_iff
    have failed : (part.decode ⟨path⟩ old).failures ≠ [] := fun none => by
      have found := decided.2 none
      rw [wrong] at found
      cases found
    obtain ⟨failure, member⟩ := List.exists_mem_of_ne_nil _ failed
    rw [← below exchange.self] at member
    obtain ⟨listed, inside⟩ := List.mem_filter.1 member
    exact ⟨failure, listed, of_decide_eq_true inside⟩

/-- A description with much that is wrong, around a name of a plot that axes invoke. -/
def wrongAround (invoked : Json) : Json :=
  .object [("request_id", .string "7"), ("figure", .object []),
    ("axes", .array [.object [("name", .string "a"), ("plot", .array [.string "p", invoked]),
      ("colour", .null)]]), ("data", .boolean true)]

/-- The path to the name. -/
def wrongPath : List Location.Step := [.key "axes", .index 0, .key "plot", .index 1]

/-- The name is visited, and it is reported beside all else that is wrong. -/
theorem failures_apart_wrongAround :
    schema.Visits (wrongAround (.string "class")) wrongPath (Schema.name .plot) ∧
      Json.Exchange (.string "class") .null wrongPath (wrongAround (.string "class"))
        (wrongAround .null) ∧
      (failures (wrongAround (.string "class"))).length = 7 ∧
      (failures (wrongAround (.string "class"))).filter
          (fun failure => ¬ wrongPath <+: failure.location.steps) =
        (failures (wrongAround .null)).filter
          (fun failure => ¬ wrongPath <+: failure.location.steps) ∧
      ∃ failure ∈ failures (wrongAround (.string "class")),
        wrongPath <+: failure.location.steps := by
  have visits : schema.Visits (wrongAround (.string "class")) wrongPath (Schema.name .plot) :=
    .field (.beforeRequired _ _ (.beforeRequired _ _ (.required _ _ _))) rfl
      (.item rfl (.field (.beforeDefaulted _ _ _ (.required _ _ _)) rfl
        (.item rfl (.here _ _))))
  have exchange : Json.Exchange (.string "class") .null wrongPath
      (wrongAround (.string "class")) (wrongAround .null) :=
    @Json.Exchange.member _ _ _ _ _ [_, _] _ _ (by decide)
      (.item [] [] (@Json.Exchange.member _ _ _ _ _ [_] _ _ (by decide) (.item [_] [] .here)))
  obtain ⟨away, -, -, reported⟩ := failures_apart visits exchange
  exact ⟨visits, exchange, by decide +kernel, away, reported (by decide +kernel)⟩

end Chart

end ChartScript
