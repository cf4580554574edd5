import ChartScript.Proofs.Accepted
import ChartScript.Proofs.Blame

/-!
# The objects that a check opens

A check opens an object where its schema has one, and the object that a tag tells of where the tag
is known. In a chart description these are the description, the figure, its size and style, and the
entries of the lists with their styles and relations. The keys that are turned down are exactly
those that an opened object has and does not declare.

With what is known about all failures this tells where each failure of a description lies.
-/

namespace ChartScript

/-- A failure is about a key of an object of a value that is opened and does not declare the key. -/
def Json.Strays (value : Json) (Opens : List Location.Step → List String → Prop)
    (failure : Failure) : Prop :=
  ∃ path declared members key, Opens path declared ∧ value.at? path = some (.object members) ∧
    key ∈ Members.keys members ∧ key ∉ declared ∧ failure = ⟨⟨path ++ [.key key]⟩, .undeclared⟩

namespace Json

variable {value : Json} {failure : Failure}

/-- Nothing strays in `null`. -/
theorem not_strays_null {Opens : List Location.Step → List String → Prop} :
    ¬ null.Strays Opens failure := by
  rintro ⟨path, declared, members, key, -, held, -⟩
  cases path with
  | nil => cases held
  | cons step rest => cases step <;> cases held

theorem strays_exists {ι : Type} {Opens : ι → List Location.Step → List String → Prop} :
    value.Strays (fun path declared => ∃ i, Opens i path declared) failure ↔
      ∃ i, value.Strays (Opens i) failure := by
  constructor
  · rintro ⟨path, declared, members, key, ⟨i, opens⟩, rest⟩
    exact ⟨i, path, declared, members, key, opens, rest⟩
  · rintro ⟨i, path, declared, members, key, opens, rest⟩
    exact ⟨path, declared, members, key, ⟨i, opens⟩, rest⟩

theorem strays_or {Opens Opens' : List Location.Step → List String → Prop} :
    value.Strays (fun path declared => Opens path declared ∨ Opens' path declared) failure ↔
      value.Strays Opens failure ∨ value.Strays Opens' failure := by
  constructor
  · rintro ⟨path, declared, members, key, first | second, rest⟩
    · exact .inl ⟨path, declared, members, key, first, rest⟩
    · exact .inr ⟨path, declared, members, key, second, rest⟩
  · rintro (⟨path, declared, members, key, first, rest⟩ |
      ⟨path, declared, members, key, second, rest⟩)
    · exact ⟨path, declared, members, key, .inl first, rest⟩
    · exact ⟨path, declared, members, key, .inr second, rest⟩

/-- The keys of an object that it does not declare. -/
theorem strays_here {members : Members} {declared : List String} :
    (object members).Strays (fun path declares => path = [] ∧ declares = declared) failure ↔
      failure ∈ undeclaredKeys declared .root members := by
  simp only [undeclaredKeys, List.mem_map, List.mem_filter, Bool.not_eq_true',
    ← Bool.not_eq_true, List.contains_iff_mem]
  constructor
  · rintro ⟨_, _, _, key, ⟨rfl, rfl⟩, same, member, fresh, rfl⟩
    cases same
    exact ⟨key, ⟨member, fresh⟩, rfl⟩
  · rintro ⟨key, ⟨member, fresh⟩, rfl⟩
    exact ⟨[], declared, members, key, ⟨rfl, rfl⟩, rfl, member, fresh, rfl⟩

/-- What is opened one step below strays there. -/
theorem strays_step {step : Location.Step}
    {Opens : Json → List Location.Step → List String → Prop} :
    value.Strays (fun path declared => ∃ rest inner, path = step :: rest ∧
        value.at? [step] = some inner ∧ Opens inner rest declared) failure ↔
      ∃ inner, value.at? [step] = some inner ∧
        ∃ found, inner.Strays (Opens inner) found ∧ failure = found.under ⟨[step]⟩ := by
  constructor
  · rintro ⟨_, declared, members, key, ⟨rest, inner, rfl, leads, opens⟩, held, member, fresh, rfl⟩
    rw [← List.singleton_append, at?_append_of_eq_some leads] at held
    exact ⟨inner, leads, _, ⟨rest, declared, members, key, opens, held, member, fresh, rfl⟩, rfl⟩
  · rintro ⟨inner, leads, _, ⟨rest, declared, members, key, opens, held, member, fresh, rfl⟩, rfl⟩
    refine ⟨step :: rest, declared, members, key, ⟨rest, inner, rfl, leads, opens⟩, ?_, member,
      fresh, rfl⟩
    rw [← List.singleton_append, at?_append_of_eq_some leads, held]

end Json

mutual

/-- A check of a value opens what stands at a path as an object with these declared keys. -/
def Schema.Opens {α : Type} : Schema α → Json → List Location.Step → List String → Prop
  | .leaf _, _, _, _ => False
  | .nullable item, value, path, declared => item.Opens value path declared
  | .list item, value, path, declared =>
    ∃ i rest inner, path = .index i :: rest ∧ value.at? [.index i] = some inner ∧
      item.Opens inner rest declared
  | .object fields, value, path, declared =>
    path = [] ∧ declared = fields.keys ∨ fields.OpensBelow value path declared
  | .tagged tag known fields, value, path, declared =>
    ∃ label, value.at? [.key tag] = some (.string label) ∧ label ∈ known ∧
      (path = [] ∧ declared = tag :: (fields label).keys ∨
        (fields label).OpensBelow value path declared)
  | .map _ item, value, path, declared => item.Opens value path declared

/-- A check of declared fields opens what stands at a path of their object as an object with these
declared keys. -/
def Fields.OpensBelow {α : Type} : Fields α → Json → List Location.Step → List String → Prop
  | .pure _, _, _, _ => False
  | .required before key item, value, path, declared =>
    before.OpensBelow value path declared ∨
      ∃ rest inner, path = .key key :: rest ∧ value.at? [.key key] = some inner ∧
        item.Opens inner rest declared
  | .defaulted before key item _, value, path, declared =>
    before.OpensBelow value path declared ∨
      ∃ rest inner, path = .key key :: rest ∧ value.at? [.key key] = some inner ∧
        item.Opens inner rest declared

end

/-- What is opened below declared fields is opened under a key. -/
theorem Fields.key_of_opensBelow {value : Json} {path : List Location.Step}
    {declared : List String} : ∀ {α : Type} (fields : Fields α),
      fields.OpensBelow value path declared → ∃ key rest, path = .key key :: rest
  | _, .pure _, below => below.elim
  | _, .required before key _, below => by
    rcases below with earlier | ⟨rest, -, same, -⟩
    · exact key_of_opensBelow before earlier
    · exact ⟨key, rest, same⟩
  | _, .defaulted before key _ _, below => by
    rcases below with earlier | ⟨rest, -, same, -⟩
    · exact key_of_opensBelow before earlier
    · exact ⟨key, rest, same⟩

/-- Where fields are opened there is an object. -/
theorem Json.Strays.exists_object {value : Json} {α : Type} {fields : Fields α}
    {keys : List String} {failure : Failure}
    (strays : value.Strays (fun path declared => path = [] ∧ declared = keys ∨
      fields.OpensBelow value path declared) failure) : ∃ members, value = .object members := by
  obtain ⟨path, declared, members, key, ⟨rfl, -⟩ | below, held, -⟩ := strays
  · exact ⟨members, Option.some.inj held⟩
  · obtain ⟨name, rest, rfl⟩ := fields.key_of_opensBelow below
    obtain ⟨members, -, object, -⟩ := at?_key.1 held
    exact ⟨members, object⟩

/-- The undeclared keys of a value one step below, as failures of the whole. -/
theorem Schema.mem_undeclared_at {α : Type} {schema : Schema α} {inner : Json}
    (here : ∀ failure, failure ∈ (schema.decode .root inner).failures ∧
      failure.problem = .undeclared ↔ inner.Strays (schema.Opens inner) failure)
    (step : Location.Step) (failure : Failure) :
    failure ∈ (schema.decode ⟨[step]⟩ inner).failures ∧ failure.problem = .undeclared ↔
      ∃ found, inner.Strays (schema.Opens inner) found ∧ failure = found.under ⟨[step]⟩ := by
  rw [schema.decode_at]
  constructor
  · rintro ⟨member, undeclared⟩
    obtain ⟨found, listed, rfl⟩ := List.mem_map.1 member
    exact ⟨found, (here found).1 ⟨listed, undeclared⟩, rfl⟩
  · rintro ⟨found, strays, rfl⟩
    obtain ⟨listed, undeclared⟩ := (here found).2 strays
    exact ⟨List.mem_map_of_mem listed, undeclared⟩

/-- What strays in a list strays in its items. -/
theorem Schema.strays_list {α : Type} {item : Schema α} {value : Json} {failure : Failure} :
    value.Strays ((list item).Opens value) failure ↔
      ∃ i inner, value.at? [.index i] = some inner ∧
        ∃ found, inner.Strays (item.Opens inner) found ∧ failure = found.under ⟨[.index i]⟩ := by
  rw [← exists_congr fun i => Json.strays_step, ← Json.strays_exists]
  rfl

/-- The undeclared keys of a list are those of its items. -/
theorem Schema.mem_undeclared_items {α : Type} {item : Schema α} {items : List Json}
    (here : ∀ {inner : Json} (failure : Failure), failure ∈ (item.decode .root inner).failures ∧
      failure.problem = .undeclared ↔ inner.Strays (item.Opens inner) failure)
    (failure : Failure) :
    failure ∈ ((list item).decode .root (.array items)).failures ∧
        failure.problem = .undeclared ↔
      ∃ i inner, (Json.array items).at? [.index i] = some inner ∧
        ∃ found, inner.Strays (item.Opens inner) found ∧ failure = found.under ⟨[.index i]⟩ := by
  rw [decode, Outcome.failures_all, List.mem_flatMap]
  constructor
  · rintro ⟨⟨outcome, listed, member⟩, undeclared⟩
    obtain ⟨i, inside, rfl⟩ := List.mem_mapIdx.1 listed
    refine ⟨i, items[i], ?_, (mem_undeclared_at here _ _).1 ⟨member, undeclared⟩⟩
    rw [Json.at?_singleton]
    exact List.getElem?_eq_getElem inside
  · rintro ⟨i, inner, leads, strays⟩
    rw [Json.at?_singleton] at leads
    obtain ⟨inside, rfl⟩ := List.getElem?_eq_some_iff.1 leads
    obtain ⟨member, undeclared⟩ := (mem_undeclared_at here _ _).2 strays
    exact ⟨⟨_, List.mem_mapIdx.2 ⟨i, inside, rfl⟩, member⟩, undeclared⟩

/-- What strays in a tagged object strays in it as an object with the fields of its tag. -/
theorem Schema.strays_tagged {α : Type} {tag : String} {known : List String}
    {fields : String → Fields α} {value : Json} {failure : Failure} :
    value.Strays ((tagged tag known fields).Opens value) failure ↔
      ∃ label, value.at? [.key tag] = some (.string label) ∧ label ∈ known ∧
        value.Strays (fun path declared => path = [] ∧ declared = tag :: (fields label).keys ∨
          (fields label).OpensBelow value path declared) failure := by
  constructor
  · rintro ⟨path, declared, members, key, ⟨label, tells, listed, opens⟩, rest⟩
    exact ⟨label, tells, listed, path, declared, members, key, opens, rest⟩
  · rintro ⟨label, tells, listed, path, declared, members, key, opens, rest⟩
    exact ⟨path, declared, members, key, ⟨label, tells, listed, opens⟩, rest⟩

/-- The undeclared keys of an object are its own and those of the fields. -/
theorem Fields.mem_undeclared_with {α : Type} {fields : Fields α} {members : Json.Members}
    (below : ∀ failure, failure ∈ (fields.decode .root members).failures ∧
      failure.problem = .undeclared ↔
        (Json.object members).Strays (fields.OpensBelow (.object members)) failure)
    (keys : List String) (failure : Failure) :
    failure ∈ ((fields.decode .root members).spoiledBy
        (undeclaredKeys keys .root members)).failures ∧ failure.problem = .undeclared ↔
      (Json.object members).Strays (fun path declared => path = [] ∧ declared = keys ∨
        fields.OpensBelow (.object members) path declared) failure := by
  rw [Json.strays_or, Json.strays_here, ← below, Outcome.spoiledBy, List.mem_append]
  constructor
  · rintro ⟨field | own, undeclared⟩
    · exact .inr ⟨field, undeclared⟩
    · exact .inl own
  · rintro (own | ⟨field, undeclared⟩)
    · refine ⟨.inr own, ?_⟩
      obtain ⟨key, -, rfl⟩ := List.mem_map.1 own
      rfl
    · exact ⟨.inl field, undeclared⟩

/-- What strays below the last field strays below an earlier one or in its value. -/
theorem Fields.strays_last {α : Type} {members : Json.Members} {failure : Failure}
    {Earlier : List Location.Step → List String → Prop} {key : String} {item : Schema α} :
    (Json.object members).Strays (fun path declared => Earlier path declared ∨
        ∃ rest inner, path = .key key :: rest ∧
          (Json.object members).at? [.key key] = some inner ∧ item.Opens inner rest declared)
      failure ↔
      (Json.object members).Strays Earlier failure ∨
        ∃ inner, members.find? key = some inner ∧
          ∃ found, inner.Strays (item.Opens inner) found ∧
            failure = found.under ⟨[.key key]⟩ := by
  rw [Json.strays_or, Json.strays_step, Json.at?_singleton]
  rfl

/-- An undeclared key is no single problem of a value. -/
theorem Outcome.not_mem_failed {α : Type} {place : Location} {problem : Problem}
    {failure : Failure} (ofValue : problem.IsOfValue) :
    ¬ (failure ∈ (failed place problem : Outcome α).failures ∧ failure.problem = .undeclared) := by
  rintro ⟨member, undeclared⟩
  rw [List.mem_singleton.1 member] at undeclared
  cases undeclared
  cases ofValue

mutual

/-- The undeclared keys that a check reports are those of the objects that it opens. -/
theorem Schema.mem_undeclared_iff {α : Type} : ∀ (schema : Schema α),
    schema.EachLeaf FindsOfValue → ∀ {value : Json} (failure : Failure),
      failure ∈ (schema.decode .root value).failures ∧ failure.problem = .undeclared ↔
        value.Strays (schema.Opens value) failure
  | .leaf read, finds, value, failure => by
    rw [Schema.decode]
    constructor
    · intro reported
      split at reported
      · cases reported.1
      · next refused => exact absurd reported (Outcome.not_mem_failed (finds value _ refused))
    · rintro ⟨_, _, _, _, ⟨⟩, -⟩
  | .nullable item, finds, value, failure => by
    cases value with
    | null =>
      constructor
      · rintro ⟨⟨⟩, -⟩
      · exact fun strays => absurd strays Json.not_strays_null
    | _ => exact Schema.mem_undeclared_iff item finds failure
  | .list item, finds, value, failure => by
    rw [Schema.strays_list]
    cases value with
    | array items =>
      exact Schema.mem_undeclared_items (Schema.mem_undeclared_iff item finds) failure
    | _ =>
      constructor
      · exact fun reported => absurd reported (Outcome.not_mem_failed .notList)
      · rintro ⟨i, inner, ⟨⟩, -⟩
  | .object fields, finds, value, failure => by
    cases value with
    | object members =>
      exact Fields.mem_undeclared_with (Fields.mem_undeclared_iff fields finds) fields.keys failure
    | _ =>
      constructor
      · exact fun reported => absurd reported (Outcome.not_mem_failed .notDictionary)
      · intro strays
        obtain ⟨members, ⟨⟩⟩ := Json.Strays.exists_object strays
  | .tagged tag known fields, finds, value, failure => by
    rw [Schema.strays_tagged]
    cases value with
    | object members =>
      rw [Schema.decode, Json.at?_singleton, Json.step?]
      split
      · next told =>
        constructor
        · exact fun reported => absurd reported (Outcome.not_mem_failed (.untagged tag))
        · rintro ⟨label, tells, -⟩
          rw [tells] at told
          cases told
      · next found told =>
        simp only [Json.eq_string_of_text? told, Option.some.injEq, Json.string.injEq,
          exists_eq_left']
        split
        · next listed =>
          rw [Fields.mem_undeclared_with (Fields.mem_undeclared_iff (fields found) (finds found))]
          exact (and_iff_right (List.contains_iff_mem.1 listed)).symm
        · next unlisted =>
          constructor
          · exact fun reported =>
              absurd reported (Outcome.not_mem_failed (.unknownTag tag found known))
          · exact fun strays => absurd (List.contains_iff_mem.2 strays.1) unlisted
    | _ =>
      constructor
      · exact fun reported => absurd reported (Outcome.not_mem_failed .notDictionary)
      · rintro ⟨label, ⟨⟩, -⟩
  | .map f item, finds, value, failure => Schema.mem_undeclared_iff item finds failure

/-- The undeclared keys that a check of fields reports are those of the objects that it opens. -/
theorem Fields.mem_undeclared_iff {α : Type} : ∀ (fields : Fields α),
    fields.EachLeaf FindsOfValue → ∀ {members : Json.Members} (failure : Failure),
      failure ∈ (fields.decode .root members).failures ∧ failure.problem = .undeclared ↔
        (Json.object members).Strays (fields.OpensBelow (.object members)) failure
  | .pure _, _, members, failure => by
    constructor
    · rintro ⟨⟨⟩, -⟩
    · rintro ⟨_, _, _, _, ⟨⟩, -⟩
  | .required before key item, finds, members, failure => by
    rw [Schema.decode_required, Outcome.both, List.mem_append, or_and_right,
      Fields.mem_undeclared_iff before finds.1]
    refine Iff.trans ?_ Fields.strays_last.symm
    apply or_congr_right
    cases members.find? key with
    | none =>
      constructor
      · rintro ⟨member, undeclared⟩
        rw [List.mem_singleton.1 member] at undeclared
        cases undeclared
      · rintro ⟨inner, ⟨⟩, -⟩
    | some inner =>
      simp only [Option.some.injEq, exists_eq_left']
      exact Schema.mem_undeclared_at (Schema.mem_undeclared_iff item finds.2) _ _
  | .defaulted before key item absent, finds, members, failure => by
    rw [Schema.decode_defaulted, Outcome.both, List.mem_append, or_and_right,
      Fields.mem_undeclared_iff before finds.1]
    refine Iff.trans ?_ Fields.strays_last.symm
    apply or_congr_right
    cases members.find? key with
    | none =>
      constructor
      · rintro ⟨⟨⟩, -⟩
      · rintro ⟨inner, ⟨⟩, -⟩
    | some inner =>
      simp only [Option.some.injEq, exists_eq_left']
      cases inner with
      | null =>
        constructor
        · rintro ⟨⟨⟩, -⟩
        · rintro ⟨found, strays, -⟩
          exact absurd strays Json.not_strays_null
      | _ => exact Schema.mem_undeclared_at (Schema.mem_undeclared_iff item finds.2) _ _

end

/-- The objects that a check of a figure opens. -/
theorem Figure.opens_schema {value : Json} {path : List Location.Step} {declared : List String} :
    schema.Opens value path declared ↔
      path = [] ∧ declared = ["size", "axes", "style"] ∨
        path = [.key "size"] ∧ (∃ size, value.at? [.key "size"] = some size) ∧
            declared = ["row", "column"] ∨
          path = [.key "style"] ∧ (∃ style, value.at? [.key "style"] = some style) ∧
            declared = ["style_name", "code_indent_style", "code_is_function"] := by
  simp [schema, GridSize.schema, FigureStyle.schema, Fields.optional, Fields.chosen, Schema.Opens,
    Fields.OpensBelow, Schema.text, Schema.boolean, Schema.positive, Schema.name, Schema.choice]

/-- The objects that a check of axes opens. -/
theorem Axes.opens_schema {value : Json} {path : List Location.Step} {declared : List String} :
    schema.Opens value path declared ↔
      path = [] ∧ declared = ["name", "plot", "style"] ∨
        path = [.key "style"] ∧ (∃ style, value.at? [.key "style"] = some style) ∧
          declared = ["style_name"] := by
  simp [schema, styleSchema, Fields.optional, Schema.Opens, Fields.OpensBelow, Schema.text,
    Schema.name]

/-- The objects that a check of a plot opens. What the plot draws is opened under the known tag. -/
theorem Plot.opens_schema {value : Json} {path : List Location.Step} {declared : List String} :
    schema.Opens value path declared ↔
      path = [] ∧ declared = ["name", "data", "style"] ∨
        (path = [.key "data"] ∧ ∃ data, value.at? [.key "data"] = some data ∧
            data.at? [.key "relation"] = some (.string "plot") ∧
              declared = ["relation", "x", "y"]) ∨
          path = [.key "style"] ∧ (∃ style, value.at? [.key "style"] = some style) ∧
            declared = ["style_name", "linestyle"] := by
  simp [schema, styleSchema, Relation.schema, Relation.fields, Relation.tagKey, Relation.tags,
    Fields.optional, Fields.chosen, Schema.Opens, Fields.OpensBelow, Schema.text, Schema.name,
    Schema.choice]

/-- The objects that a check of a series opens. -/
theorem Series.opens_schema {value : Json} {path : List Location.Step} {declared : List String} :
    schema.Opens value path declared ↔ path = [] ∧ declared = ["name", "value"] := by
  simp [schema, Schema.Opens, Fields.OpensBelow, Schema.name, Schema.float]

/-- The entries of a list under a key of a value are opened at a path. -/
def Json.OpensEntries (value : Json) (key : String)
    (Opens : Json → List Location.Step → List String → Prop) (path : List Location.Step)
    (declared : List String) : Prop :=
  ∃ i rest entry, path = .key key :: .index i :: rest ∧
    value.at? [.key key, .index i] = some entry ∧ Opens entry rest declared

/-- The last field is a list whose entries are opened. -/
theorem Fields.opensBelow_list {α β : Type} {before : Fields (List α → β)} {key : String}
    {item : Schema α} {value : Json} {path : List Location.Step} {declared : List String} :
    (before.required key (.list item)).OpensBelow value path declared ↔
      before.OpensBelow value path declared ∨ value.OpensEntries key item.Opens path declared := by
  rw [OpensBelow]
  apply or_congr_right
  constructor
  · rintro ⟨_, list, rfl, toList, i, rest, entry, rfl, toEntry, opens⟩
    refine ⟨i, rest, entry, rfl, ?_, opens⟩
    rw [← List.singleton_append, Json.at?_append_of_eq_some toList, toEntry]
  · rintro ⟨i, rest, entry, rfl, toEntry, opens⟩
    obtain ⟨list, toList, toEntry⟩ := Json.exists_at?_of_append [.key key] [.index i] toEntry
    exact ⟨_, list, rfl, toList, i, rest, entry, rfl, toEntry, opens⟩

namespace Chart

variable {value : Json} {path : List Location.Step} {declared : List String}

/-- The objects that a check of a chart description opens, by parts. -/
theorem opens_schema :
    schema.Opens value path declared ↔
      path = [] ∧ declared = ["request_id", "figure", "axes", "plot", "data"] ∨
        (((∃ rest figure, path = .key "figure" :: rest ∧
            value.at? [.key "figure"] = some figure ∧ Figure.schema.Opens figure rest declared) ∨
          value.OpensEntries "axes" Axes.schema.Opens path declared) ∨
          value.OpensEntries "plot" Plot.schema.Opens path declared) ∨
          value.OpensEntries "data" Series.schema.Opens path declared := by
  rw [schema, Schema.Opens, fields, Fields.opensBelow_list, Fields.opensBelow_list,
    Fields.opensBelow_list]
  simp [Schema.uuid, Schema.Opens, Fields.OpensBelow]

/-- The objects that a check of a chart description opens: where they stand, if there is an object,
and the keys that they declare. What a plot draws is opened under the known tag only. -/
inductive Opens (value : Json) : List Location.Step → List String → Prop where
  | whole : Opens value [] ["request_id", "figure", "axes", "plot", "data"]
  | figure : Opens value [.key "figure"] ["size", "axes", "style"]
  | size : Opens value [.key "figure", .key "size"] ["row", "column"]
  | figureStyle : Opens value [.key "figure", .key "style"]
      ["style_name", "code_indent_style", "code_is_function"]
  | axes (i : Nat) : Opens value [.key "axes", .index i] ["name", "plot", "style"]
  | axesStyle (i : Nat) : Opens value [.key "axes", .index i, .key "style"] ["style_name"]
  | plot (i : Nat) : Opens value [.key "plot", .index i] ["name", "data", "style"]
  | relation (i : Nat)
      (tagged : value.at? [.key "plot", .index i, .key "data", .key "relation"] =
        some (.string "plot")) :
      Opens value [.key "plot", .index i, .key "data"] ["relation", "x", "y"]
  | plotStyle (i : Nat) :
      Opens value [.key "plot", .index i, .key "style"] ["style_name", "linestyle"]
  | series (i : Nat) : Opens value [.key "data", .index i] ["name", "value"]

/-- What the schema opens is listed. -/
theorem opens_of_schema (opens : schema.Opens value path declared) : Opens value path declared := by
  rcases opens_schema.1 opens with ⟨rfl, rfl⟩ |
    (((⟨rest, figure, rfl, -, inside⟩ | ⟨i, rest, entry, rfl, -, inside⟩) |
      ⟨i, rest, entry, rfl, toPlot, inside⟩) | ⟨i, rest, entry, rfl, -, inside⟩)
  · exact .whole
  · rcases Figure.opens_schema.1 inside with ⟨rfl, rfl⟩ | ⟨rfl, -, rfl⟩ | ⟨rfl, -, rfl⟩
    · exact .figure
    · exact .size
    · exact .figureStyle
  · rcases Axes.opens_schema.1 inside with ⟨rfl, rfl⟩ | ⟨rfl, -, rfl⟩
    · exact .axes i
    · exact .axesStyle i
  · rcases Plot.opens_schema.1 inside with
      ⟨rfl, rfl⟩ | ⟨rfl, data, toData, tagged, rfl⟩ | ⟨rfl, -, rfl⟩
    · exact .plot i
    · refine .relation i ?_
      calc value.at? ([.key "plot", .index i] ++ ([.key "data"] ++ [.key "relation"]))
          = entry.at? ([.key "data"] ++ [.key "relation"]) := Json.at?_append_of_eq_some toPlot _
        _ = data.at? [.key "relation"] := Json.at?_append_of_eq_some toData _
        _ = some (.string "plot") := tagged
    · exact .plotStyle i
  · obtain ⟨rfl, rfl⟩ := Series.opens_schema.1 inside
    exact .series i

/-- What is listed and there is opened by the schema. -/
theorem schema_opens {found : Json} (opens : Opens value path declared)
    (held : value.at? path = some found) : schema.Opens value path declared := by
  rw [opens_schema]
  cases opens with
  | whole => exact .inl ⟨rfl, rfl⟩
  | figure =>
    exact .inr (.inl (.inl (.inl
      ⟨[], found, rfl, held, Figure.opens_schema.2 (.inl ⟨rfl, rfl⟩)⟩)))
  | size =>
    obtain ⟨figure, toFigure, toSize⟩ :=
      Json.exists_at?_of_append [.key "figure"] [.key "size"] held
    exact .inr (.inl (.inl (.inl ⟨_, figure, rfl, toFigure,
      Figure.opens_schema.2 (.inr (.inl ⟨rfl, ⟨found, toSize⟩, rfl⟩))⟩)))
  | figureStyle =>
    obtain ⟨figure, toFigure, toStyle⟩ :=
      Json.exists_at?_of_append [.key "figure"] [.key "style"] held
    exact .inr (.inl (.inl (.inl ⟨_, figure, rfl, toFigure,
      Figure.opens_schema.2 (.inr (.inr ⟨rfl, ⟨found, toStyle⟩, rfl⟩))⟩)))
  | axes i =>
    exact .inr (.inl (.inl (.inr
      ⟨i, [], found, rfl, held, Axes.opens_schema.2 (.inl ⟨rfl, rfl⟩)⟩)))
  | axesStyle i =>
    obtain ⟨axes, toAxes, toStyle⟩ :=
      Json.exists_at?_of_append [.key "axes", .index i] [.key "style"] held
    exact .inr (.inl (.inl (.inr
      ⟨i, _, axes, rfl, toAxes, Axes.opens_schema.2 (.inr ⟨rfl, ⟨found, toStyle⟩, rfl⟩)⟩)))
  | plot i =>
    exact .inr (.inl (.inr
      ⟨i, [], found, rfl, held, Plot.opens_schema.2 (.inl ⟨rfl, rfl⟩)⟩))
  | relation i tagged =>
    obtain ⟨plot, toPlot, inside⟩ :=
      Json.exists_at?_of_append [.key "plot", .index i] [.key "data", .key "relation"] tagged
    obtain ⟨data, toData, tells⟩ :=
      Json.exists_at?_of_append [.key "data"] [.key "relation"] inside
    exact .inr (.inl (.inr ⟨i, _, plot, rfl, toPlot,
      Plot.opens_schema.2 (.inr (.inl ⟨rfl, data, toData, tells, rfl⟩))⟩))
  | plotStyle i =>
    obtain ⟨plot, toPlot, toStyle⟩ :=
      Json.exists_at?_of_append [.key "plot", .index i] [.key "style"] held
    exact .inr (.inl (.inr ⟨i, _, plot, rfl, toPlot,
      Plot.opens_schema.2 (.inr (.inr ⟨rfl, ⟨found, toStyle⟩, rfl⟩))⟩))
  | series i =>
    exact .inr (.inr ⟨i, [], found, rfl, held, Series.opens_schema.2 ⟨rfl, rfl⟩⟩)

/-- The keys that stray in what the schema opens are those that stray in what is listed. -/
theorem strays_iff {failure : Failure} :
    value.Strays (schema.Opens value) failure ↔ value.Strays (Opens value) failure := by
  constructor
  · rintro ⟨path, declared, members, key, opens, rest⟩
    exact ⟨path, declared, members, key, opens_of_schema opens, rest⟩
  · rintro ⟨path, declared, members, key, opens, held, rest⟩
    exact ⟨path, declared, members, key, schema_opens opens held, held, rest⟩

/-- The failures of a description blame separate places that are there. -/
structure FailuresPlaced (value : Json) : Prop where
  /-- No failure lies at the place of another or below it. -/
  apart : (failures value).Pairwise Failure.Apart
  /-- A missing field is one that the object above its place does not have. -/
  missing : ∀ failure ∈ failures value, failure.problem.message = "Field required" →
    ∃ parent key members, failure.location.steps = parent ++ [.key key] ∧
      value.at? parent = some (.object members) ∧ key ∉ Json.Members.keys members
  /-- Any other failure is at a value of the description. -/
  present : ∀ failure ∈ failures value, failure.problem.message ≠ "Field required" →
    ∃ found, value.at? failure.location.steps = some found
  /-- The inputs that are not permitted are the keys that opened objects do not declare. -/
  undeclared : ∀ failure, failure ∈ failures value ∧
    failure.problem.message = "Extra inputs are not permitted" ↔ value.Strays (Opens value) failure

/-- The failures of a description whose objects have each key once blame separate places that are
there. -/
theorem failures_placed (distinct : value.KeysDistinct) : FailuresPlaced value := by
  have blamed : ∀ failure ∈ failures value, value.Blamed failure := by
    rw [failures_eq]
    exact schema.blamed_of_mem findsOfValue_schema
  constructor
  case apart =>
    rw [failures_eq]
    exact schema.pairwise_failures keysDiffer_schema distinct
  case missing =>
    intro failure member words
    cases blamed failure member with
    | missing parent lacks steps object absent => exact ⟨parent, _, _, steps, object, absent⟩
    | present found wrong =>
      rcases wrong with undeclared | ofValue
      · rw [undeclared] at words
        exact absurd words (by decide)
      · exact absurd words ofValue.message_ne.1
  case present =>
    intro failure member words
    cases blamed failure member with
    | missing parent lacks =>
      rw [lacks] at words
      exact absurd rfl words
    | present found wrong leads => exact ⟨found, leads⟩
  case undeclared =>
    intro failure
    rw [← strays_iff, ← schema.mem_undeclared_iff findsOfValue_schema, ← failures_eq]
    apply and_congr_right
    intro member
    constructor
    · intro words
      cases blamed failure member with
      | missing parent lacks =>
        rw [lacks] at words
        exact absurd words (by decide)
      | present found wrong =>
        exact wrong.resolve_right fun ofValue => ofValue.message_ne.2 words
    · intro undeclared
      rw [undeclared]
      rfl

/-- A text with missing fields, undeclared keys and values of the wrong shape. -/
def blamedText : String :=
  "\x7b\"figure\":\x7b\"size\":\x7b\"row\":0,\"rows\":1\x7d,\"axes\":[\"a\"]\x7d," ++
  "\"axes\":[\x7b\"name\":\"class-\",\"plot\":\x7b\x7d,\"colour\":\x7b\x7d\x7d]," ++
  "\"plot\":[\x7b\"name\":\"p\",\"data\":\x7b\"relation\":\"bar\",\"z\":1\x7d\x7d]\x7d"

/-- The failures of the text blame separate places that are there. -/
theorem failures_placed_blamedText :
    ∃ value, Json.read blamedText = .ok value ∧ value.KeysDistinct ∧
      (failures value).map (fun failure => failure.location.render) =
        ["request.request_id", "request.figure.size.row", "request.figure.size.column",
          "request.figure.size.rows", "request.figure.axes[0]", "request.axes[0].plot",
          "request.axes[0].colour", "request.plot[0].data", "request.data"] ∧
      FailuresPlaced value := by
  have blamed : (Json.read blamedText).toOption.map (fun value =>
      (failures value).map fun failure => failure.location.render) =
        some ["request.request_id", "request.figure.size.row", "request.figure.size.column",
          "request.figure.size.rows", "request.figure.axes[0]", "request.axes[0].plot",
          "request.axes[0].colour", "request.plot[0].data", "request.data"] := by
    decide +kernel
  obtain ⟨value, found, places⟩ := Option.map_eq_some_iff.1 blamed
  have read := eq_ok_of_toOption found
  have distinct := Json.keysDistinct_read read
  exact ⟨value, read, distinct, places, failures_placed distinct⟩

end Chart

end ChartScript
