import ChartScript.Proofs.Mirror
import ChartScript.Proofs.Places
import Mathlib.Logic.Relation

/-!
# Absent, `null` and the standard value

A field that may be absent says the same when it is absent, when it is `null` and when it spells
out the standard value. This holds of every such field of a description, whatever stands elsewhere:
however many of them are spelled in another way, the description is read as the same chart or has
the same failures in the same order. Only the order of the other keys is left as it is, as the
failures of undeclared keys follow it.
-/

namespace ChartScript

namespace Json.Members

variable {before held after : Members} {key name : String}

/-- A key is looked up in what stands in front, and then in the rest. -/
theorem find?_append (members others : Members) (key : String) :
    find? (members ++ others) key = (find? members key).or (find? others key) := by
  induction members with
  | nil => rfl
  | cons member rest ih =>
    obtain ⟨name, value⟩ := member
    rw [List.cons_append, find?, find?, ih]
    split <;> rfl

/-- Members under one key have no part in finding another. -/
theorem find?_inserted (only : ∀ name ∈ keys held, name = key) (different : name ≠ key) :
    find? (before ++ held ++ after) name = find? (before ++ after) name := by
  have absent : find? held name = none :=
    find?_eq_none_iff.2 fun listed => different (only name listed)
  rw [find?_append, find?_append, find?_append, absent, Option.or_none]

/-- A key that stands nowhere else is looked up in the members under it. -/
theorem find?_fresh (fresh : key ∉ keys before) (fresh' : key ∉ keys after) :
    find? (before ++ held ++ after) key = find? held key := by
  rw [find?_append, find?_append, find?_eq_none_iff.2 fresh, find?_eq_none_iff.2 fresh',
    Option.or_none, Option.none_or]

/-- Declared keys have no part in the failures of those that are not declared. -/
theorem undeclaredKeys_inserted {declared : List String}
    (known : ∀ name ∈ keys held, name ∈ declared) (place : Location) :
    undeclaredKeys declared place (before ++ held ++ after) =
      undeclaredKeys declared place (before ++ after) := by
  have none : (keys held).filter (fun name => !declared.contains name) = [] := by
    apply List.filter_eq_nil_iff.2
    intro name listed
    simpa using known name listed
  simp only [keys] at none
  simp only [undeclaredKeys, keys, List.map_append, List.filter_append, none, List.append_nil]

end Json.Members

/-- Fields declare a key that may be absent, with the schema of its value and the result that stands
for an absent one. -/
inductive Fields.Defaults : {α : Type} → Fields α → String → {β : Type} → Schema β → β → Prop where
  /-- The last field. -/
  | last {α β : Type} (before : Fields (α → β)) (key : String) (item : Schema α) (absent : α) :
      Defaults (.defaulted before key item absent) key item absent
  /-- A field before one that must be there. -/
  | beforeRequired {α β γ : Type} {before : Fields (α → β)} {key : String} {part : Schema γ}
      {absent : γ} (last : String) (item : Schema α) (defaults : Defaults before key part absent) :
      Defaults (.required before last item) key part absent
  /-- A field before one that may be absent. -/
  | beforeDefaulted {α β γ : Type} {before : Fields (α → β)} {key : String} {part : Schema γ}
      {absent : γ} (last : String) (item : Schema α) (other : α)
      (defaults : Defaults before key part absent) :
      Defaults (.defaulted before last item other) key part absent

namespace Fields.Defaults

variable {α β : Type} {fields : Fields α} {key : String} {item : Schema β} {absent : β}

theorem mem_keys (defaults : fields.Defaults key item absent) : key ∈ fields.keys := by
  induction defaults with
  | last => exact List.mem_append_right _ (List.mem_singleton_self _)
  | beforeRequired _ _ _ ih | beforeDefaulted _ _ _ _ ih => exact List.mem_append_left _ ih

/-- Fields come to the same when one of them comes to its standard result and the others agree. -/
theorem decode_eq (defaults : fields.Defaults key item absent) (distinct : fields.keys.Nodup)
    {members others : Json.Members}
    (agree : ∀ name ≠ key, members.find? name = others.find? name)
    (unset : item.defaulted absent key (members.find? key) = .done absent)
    (unset' : item.defaulted absent key (others.find? key) = .done absent) :
    fields.decode .root members = fields.decode .root others := by
  induction defaults with
  | last before key item absent =>
    have unlisted := (nodup_keys_concat.1 distinct).1
    rw [Schema.decode_defaulted, Schema.decode_defaulted, unset, unset',
      decode_apart unlisted agree]
  | beforeRequired last item defaults ih =>
    obtain ⟨unlisted, distinct'⟩ := nodup_keys_concat.1 distinct
    have different : last ≠ _ := fun same => unlisted (same ▸ defaults.mem_keys)
    rw [Schema.decode_required, Schema.decode_required, agree last different,
      ih distinct' agree unset unset']
  | beforeDefaulted last item other defaults ih =>
    obtain ⟨unlisted, distinct'⟩ := nodup_keys_concat.1 distinct
    have different : last ≠ _ := fun same => unlisted (same ▸ defaults.mem_keys)
    rw [Schema.decode_defaulted, Schema.decode_defaulted, agree last different,
      ih distinct' agree unset unset']

end Fields.Defaults

/-- Members hold nothing under a key, or nothing but `null` or the standard value. -/
inductive Json.Members.Unset (key : String) (standard? : Option Json) : Members → Prop where
  /-- There is no member. -/
  | absent : Unset key standard? []
  /-- The member is `null`. -/
  | null : Unset key standard? [(key, .null)]
  /-- The member spells out the standard value. -/
  | standard {value : Json} (spelled : standard? = some value) : Unset key standard? [(key, value)]

/-- An object of a schema has a field that may be absent, and one value, if any, spells this out. -/
inductive Schema.Omits (key : String) (standard? : Option Json) : {α : Type} → Schema α → Prop where
  /-- The object itself. -/
  | object {α β : Type} {fields : Fields α} {item : Schema β} {absent : β}
      (defaults : fields.Defaults key item absent)
      (spells : ∀ value, standard? = some value →
        item.defaulted absent key (some value) = .done absent) :
      Omits key standard? (.object fields)
  /-- An object in whose place there may be `null`. -/
  | nullable {α : Type} {item : Schema α} (omits : Omits key standard? item) :
      Omits key standard? (.nullable item)

namespace Schema

variable {α β : Type} {schema : Schema α} {part : Schema β} {key : String} {standard? : Option Json}
  {before held held' after : Json.Members}

/-- The one value that spells out a standard result comes to it. -/
theorem spells_some {item : Schema β} {absent : β} {standard : Json}
    (same : item.defaulted absent key (some standard) = .done absent) :
    ∀ value, some standard = some value →
      item.defaulted absent key (some value) = .done absent := by
  intro value spelled
  rw [← spelled]
  exact same

/-- However a field is left unset, its value comes to the standard result. -/
theorem defaulted_of_unset {item : Schema β} {absent : β}
    (spells : ∀ value, standard? = some value →
        item.defaulted absent key (some value) = .done absent)
    (unset : held.Unset key standard?) :
    item.defaulted absent key (held.find? key) = .done absent := by
  cases unset with
  | absent => rfl
  | null =>
    rw [Json.Members.find?, if_pos rfl]
    rfl
  | standard spelled =>
    rw [Json.Members.find?, if_pos rfl]
    exact spells _ spelled

/-- Members that leave a key unset have no other key. -/
theorem eq_of_mem_unset (unset : held.Unset key standard?) : ∀ name ∈ held.keys, name = key := by
  intro name listed
  cases unset with
  | absent => cases listed
  | null | standard => exact List.mem_singleton.1 listed

/-- An object comes to the same however one of its fields is left unset. -/
theorem Omits.decode_eq (omits : Omits key standard? schema) (differ : schema.KeysDiffer)
    (fresh : key ∉ before.keys) (fresh' : key ∉ after.keys)
    (unset : held.Unset key standard?) (unset' : held'.Unset key standard?) :
    schema.decode .root (.object (before ++ held ++ after)) =
      schema.decode .root (.object (before ++ held' ++ after)) := by
  induction omits with
  | nullable omits ih =>
    rw [decode, decode, ih differ]
    rfl
  | @object _ _ fields item absent defaults spells =>
    have agree : ∀ name ≠ key, Json.Members.find? (before ++ held ++ after) name =
        Json.Members.find? (before ++ held' ++ after) name := by
      intro name different
      rw [Json.Members.find?_inserted (eq_of_mem_unset unset) different,
        Json.Members.find?_inserted (eq_of_mem_unset unset') different]
    have known : ∀ {held : Json.Members}, held.Unset key standard? →
        ∀ name ∈ held.keys, name ∈ fields.keys := by
      intro held unset name listed
      rw [eq_of_mem_unset unset name listed]
      exact defaults.mem_keys
    have found := defaulted_of_unset spells unset
    have found' := defaulted_of_unset spells unset'
    rw [← Json.Members.find?_fresh fresh fresh'] at found found'
    rw [decode, decode, Json.Members.undeclaredKeys_inserted (known unset),
      Json.Members.undeclaredKeys_inserted (known unset'),
      defaults.decode_eq differ.1 agree found found']

/-- Keys differ below whatever place a schema leads to. -/
theorem Reaches.keysDiffer {path : List Location.Step} (reaches : schema.Reaches path part)
    (differ : schema.KeysDiffer) : part.KeysDiffer := by
  induction reaches with
  | here => exact differ
  | nullable deeper ih | item _ deeper ih => exact ih differ
  | field declares deeper ih => exact ih (declares.keysDiffer differ.2)

end Schema

namespace Chart

/-- The fields of a description that may be absent. -/
inductive OptionalField where
  /-- The style of the figure. -/
  | figureStyle
  /-- The style of the axes at an index. -/
  | axesStyle (i : ℕ)
  /-- The style of the plot at an index. -/
  | plotStyle (i : ℕ)
  /-- The remark in the style of the figure. -/
  | figureRemark
  /-- The remark in the style of the axes at an index. -/
  | axesRemark (i : ℕ)
  /-- The remark in the style of the plot at an index. -/
  | plotRemark (i : ℕ)
  /-- How the script is indented. -/
  | indent
  /-- Whether the script is a function. -/
  | isFunction
  /-- How the plot at an index is drawn. -/
  | lineStyle (i : ℕ)

namespace OptionalField

/-- The place of the object that has a field. -/
def holder : OptionalField → List Location.Step
  | .figureStyle => [.key "figure"]
  | .axesStyle i => [.key "axes", .index i]
  | .plotStyle i => [.key "plot", .index i]
  | .figureRemark | .indent | .isFunction => [.key "figure", .key "style"]
  | .axesRemark i => [.key "axes", .index i, .key "style"]
  | .plotRemark i | .lineStyle i => [.key "plot", .index i, .key "style"]

/-- The key of a field. -/
def key : OptionalField → String
  | .figureStyle | .axesStyle _ | .plotStyle _ => "style"
  | .figureRemark | .axesRemark _ | .plotRemark _ => "style_name"
  | .indent => "code_indent_style"
  | .isFunction => "code_is_function"
  | .lineStyle _ => "linestyle"

/-- The value that spells out what an absent field stands for. Nothing spells out a remark that is
not made. -/
def standard? : OptionalField → Option Json
  | .figureStyle | .axesStyle _ | .plotStyle _ => some (.object [])
  | .figureRemark | .axesRemark _ | .plotRemark _ => none
  | .indent => some (.string "space")
  | .isFunction => some (.boolean true)
  | .lineStyle _ => some (.string "solid")

/-- Each field is declared as one that may be absent, with a standard result that its standard value
comes to. -/
theorem omits (field : OptionalField) : ∃ (α : Type) (part : Schema α),
    schema.Reaches field.holder part ∧ part.Omits field.key field.standard? := by
  cases field with
  | figureStyle =>
    exact ⟨_, _, reaches_figure, .object (.last _ _ _ _) (Schema.spells_some rfl)⟩
  | axesStyle i =>
    exact ⟨_, _, reaches_axes i, .object (.last _ _ _ _) (Schema.spells_some rfl)⟩
  | plotStyle i =>
    exact ⟨_, _, reaches_plot i, .object (.last _ _ _ _) (Schema.spells_some rfl)⟩
  | figureRemark =>
    exact ⟨_, _, reaches_figureStyle, .nullable
      (.object (.beforeDefaulted _ _ _ (.beforeDefaulted _ _ _ (.last _ _ _ _))) nofun)⟩
  | axesRemark i =>
    exact ⟨_, _, reaches_axesStyle i, .nullable (.object (.last _ _ _ _) nofun)⟩
  | plotRemark i =>
    exact ⟨_, _, reaches_plotStyle i, .nullable
      (.object (.beforeDefaulted _ _ _ (.last _ _ _ _)) nofun)⟩
  | indent =>
    exact ⟨_, _, reaches_figureStyle, .nullable
      (.object (.beforeDefaulted _ _ _ (.last _ _ _ _)) (Schema.spells_some rfl))⟩
  | isFunction =>
    exact ⟨_, _, reaches_figureStyle, .nullable
      (.object (.last _ _ _ _) (Schema.spells_some rfl))⟩
  | lineStyle i =>
    exact ⟨_, _, reaches_plotStyle i, .nullable
      (.object (.last _ _ _ _) (Schema.spells_some rfl))⟩

end OptionalField

/-- Two values are the same but for one optional field of a description, which is unset in both. -/
inductive Restates : Json → Json → Prop where
  /-- The members in front of the field and behind it stay, and none of them has its key. -/
  | field {value other : Json} (field : OptionalField) {before held held' after : Json.Members}
      (fresh : field.key ∉ before.keys) (fresh' : field.key ∉ after.keys)
      (unset : held.Unset field.key field.standard?)
      (unset' : held'.Unset field.key field.standard?)
      (exchange : Json.Exchange (.object (before ++ held ++ after))
        (.object (before ++ held' ++ after)) field.holder value other) : Restates value other

/-- One field that is left unset in another way does not show. -/
theorem Restates.decode_eq {value other : Json} (restates : Restates value other) :
    schema.decode .root value = schema.decode .root other := by
  cases restates with
  | field field fresh fresh' unset unset' exchange =>
    obtain ⟨_, part, reaches, omits⟩ := field.omits
    have differ := reaches.keysDiffer keysDiffer_schema
    exact reaches.decode_eq keysDiffer_schema exchange
      (omits.decode_eq differ fresh fresh' unset unset')

/-- However many optional fields are taken out where they are `null` or standard, put in as `null`
or standard, or exchanged between these, and whatever else a description holds, valid or not: it is
read as the same chart or turned down with the same failures in the same order. -/
theorem ofJson_restated {value other : Json} (restated : Relation.EqvGen Restates value other) :
    ofJson value = ofJson other := by
  have same : schema.decode .root value = schema.decode .root other := by
    induction restated with
    | rel value other restates => exact restates.decode_eq
    | refl value => rfl
    | symm value other _ ih => exact ih.symm
    | trans value middle other _ _ first second => exact first.trans second
  unfold ofJson
  rw [schema.run_eq, schema.run_eq, same]

/-- A description with much that is wrong, around three optional fields. -/
def sparseDescription (ofFigure ofAxes ofPlot : Json.Members) : Json :=
  .object [("request_id", .string "7"), ("figure", .object ofFigure),
    ("axes", .array [.object ([("name", .string "a")] ++ ofAxes ++ [("colour", .null)])]),
    ("plot", .array [.object [("style", .object ofPlot)]]), ("data", .boolean true)]

/-- With other fields absent, `null` and standard, the description has the same failures. -/
theorem ofJson_restated_sparseDescription :
    Relation.EqvGen Restates
        (sparseDescription [] [("style", .object [])] [("linestyle", .null)])
        (sparseDescription [("style", .null)] [] [("linestyle", .string "solid")]) ∧
      (failures (sparseDescription [] [("style", .object [])] [("linestyle", .null)])).length = 8 ∧
      ofJson (sparseDescription [] [("style", .object [])] [("linestyle", .null)]) =
        ofJson (sparseDescription [("style", .null)] [] [("linestyle", .string "solid")]) := by
  have ofFigure : ∀ ofAxes ofPlot, Restates (sparseDescription [] ofAxes ofPlot)
      (sparseDescription [("style", .null)] ofAxes ofPlot) := fun ofAxes ofPlot =>
    @Restates.field _ _ .figureStyle [] _ _ [] (by decide) (by decide) .absent .null
      (@Json.Exchange.member _ _ _ _ _ [_] _ _ (by decide) .here)
  have ofAxes : ∀ ofFigure ofPlot, Restates
      (sparseDescription ofFigure [("style", .object [])] ofPlot)
      (sparseDescription ofFigure [] ofPlot) := fun ofFigure ofPlot =>
    @Restates.field _ _ (.axesStyle 0) [_] _ _ [_] (by decide) (by decide) (.standard rfl) .absent
      (@Json.Exchange.member _ _ _ _ _ [_, _] _ _ (by simp [Json.Members.keys])
        (.item [] [] .here))
  have ofPlot : ∀ ofFigure ofAxes, Restates
      (sparseDescription ofFigure ofAxes [("linestyle", .null)])
      (sparseDescription ofFigure ofAxes [("linestyle", .string "solid")]) := fun ofFigure ofAxes =>
    @Restates.field _ _ (.lineStyle 0) [] _ _ [] (by decide) (by decide) .null (.standard rfl)
      (@Json.Exchange.member _ _ _ _ _ [_, _, _] _ _ (by simp [Json.Members.keys])
        (.item [] [] (@Json.Exchange.member _ _ _ _ _ [] _ _ (by decide) .here)))
  have restated := Relation.EqvGen.trans _ _ _ (.rel _ _ (ofFigure _ _))
    (.trans _ _ _ (.rel _ _ (ofAxes _ _)) (.rel _ _ (ofPlot _ _)))
  exact ⟨restated, by decide +kernel, ofJson_restated restated⟩

end Chart

end ChartScript
