import ChartScript.Proofs.Siblings

/-!
# Places that a schema declares

Which places of a value are checked, and against which schemas, is told by the declared structure
alone: a check comes to a declared place of every value that has the place, valid or not. There it
sees nothing but what the value comes to on its own. So an exchange at such a place does not show if
both values come to the same, and in a value that is valid otherwise the failures are those of what
stands there.
-/

namespace ChartScript

/-- The declared structure of a schema leads along a path to a schema of its own. -/
inductive Schema.Reaches : {α : Type} → Schema α → List Location.Step →
    {β : Type} → Schema β → Prop where
  /-- The schema itself. -/
  | here {α : Type} (schema : Schema α) : Reaches schema [] schema
  /-- Inside a value that may be `null`. -/
  | nullable {α β : Type} {item : Schema α} {step : Location.Step} {path : List Location.Step}
      {part : Schema β} (deeper : Reaches item (step :: path) part) :
      Reaches (.nullable item) (step :: path) part
  /-- Inside an item of a list. -/
  | item {α β : Type} {item : Schema α} {path : List Location.Step} {part : Schema β} (i : ℕ)
      (deeper : Reaches item path part) : Reaches (.list item) (.index i :: path) part
  /-- Inside a declared field of an object. -/
  | field {α β γ : Type} {fields : Fields α} {key : String} {item : Schema β}
      {path : List Location.Step} {part : Schema γ} (declares : fields.Declares key item)
      (deeper : Reaches item path part) : Reaches (.object fields) (.key key :: path) part

namespace Schema

variable {α β : Type} {schema : Schema α} {item : Schema β} {part : Schema β}
  {path : List Location.Step} {value other old new : Json}

/-- A value that has a declared place is checked there. -/
theorem Reaches.visits (reaches : schema.Reaches path part)
    (exchange : Json.Exchange old new path value other) : schema.Visits value path part := by
  induction reaches generalizing value other with
  | here schema => exact .here schema value
  | nullable deeper ih => exact .nullable (ih exchange)
  | item i deeper ih =>
    cases exchange with
    | @item _ value _ before after exchanged =>
      have listed : (before ++ value :: after)[before.length]? = some value := by simp
      exact .item listed (ih exchanged)
  | field declares deeper ih =>
    cases exchange with
    | member after fresh exchanged =>
      exact .field declares (Json.Members.find?_here fresh) (ih exchanged)

/-- Values that come to the same come to the same at every place. -/
theorem decode_eq_at (same : item.decode .root value = item.decode .root other)
    (place : Location) : item.decode place value = item.decode place other := by
  rw [item.decode_at, same, ← item.decode_at]

/-- What a field that may be absent comes to is what its value comes to that may be `null`. -/
theorem defaulted_some (item : Schema α) (absent : α) (key : String) (value : Json) :
    item.defaulted absent key (some value) =
      ((nullable item).decode (Location.root.key key) value).map (Option.getD · absent) := by
  rw [defaulted, decode]
  split
  · rfl
  · rw [Outcome.map, Outcome.map, Option.map_map]
    exact congrArg (Outcome.mk · _) Option.map_id'.symm

end Schema

namespace Fields

variable {α β : Type} {fields : Fields α} {key : String} {item : Schema β}
  {before after : Json.Members} {value other : Json}

/-- Fields come to the same when one of them holds a value that comes to the same. -/
theorem Declares.decode_eq (declares : fields.Declares key item) (distinct : fields.keys.Nodup)
    (fresh : key ∉ before.keys) (same : item.decode .root value = item.decode .root other) :
    fields.decode .root (before ++ (key, value) :: after) =
      fields.decode .root (before ++ (key, other) :: after) := by
  -- The declared field is the last one, or it stands before a field with another key.
  have agree : ∀ name ≠ key, Json.Members.find? (before ++ (key, value) :: after) name =
      Json.Members.find? (before ++ (key, other) :: after) name := fun name different =>
    Json.Members.find?_elsewhere other different
  induction declares with
  | required earlier key item =>
    have unlisted := (nodup_keys_concat.1 distinct).1
    rw [Schema.decode_required, Schema.decode_required, decode_apart unlisted agree,
      Json.Members.find?_here fresh, Json.Members.find?_here fresh]
    exact congrArg _ (Schema.decode_eq_at same _)
  | defaulted earlier key item absent =>
    have unlisted := (nodup_keys_concat.1 distinct).1
    rw [Schema.decode_defaulted, Schema.decode_defaulted, decode_apart unlisted agree,
      Json.Members.find?_here fresh, Json.Members.find?_here fresh, Schema.defaulted_some,
      Schema.defaulted_some, Schema.decode_eq_at same]
  | beforeRequired last item declares ih =>
    obtain ⟨unlisted, distinct'⟩ := nodup_keys_concat.1 distinct
    have different : last ≠ _ := fun same => unlisted (same ▸ declares.mem_keys)
    rw [Schema.decode_required, Schema.decode_required, agree last different,
      ih distinct' fresh same agree]
  | beforeDefaulted last item absent declares ih =>
    obtain ⟨unlisted, distinct'⟩ := nodup_keys_concat.1 distinct
    have different : last ≠ _ := fun same => unlisted (same ▸ declares.mem_keys)
    rw [Schema.decode_defaulted, Schema.decode_defaulted, agree last different,
      ih distinct' fresh same agree]

end Fields

namespace Schema

variable {α β : Type} {schema : Schema α} {part : Schema β} {path : List Location.Step}
  {value other old new : Json}

/-- Where one place leads on from another, a path leads to it. -/
theorem Reaches.append {γ : Type} {middle : Schema γ} {more : List Location.Step}
    (reaches : schema.Reaches path middle) (further : middle.Reaches more part) :
    schema.Reaches (path ++ more) part := by
  induction reaches with
  | here => exact further
  | nullable deeper ih => exact .nullable (ih further)
  | item i deeper ih => exact .item i (ih further)
  | field declares deeper ih => exact .field declares (ih further)

/-- An exchange at a declared place does not show if both values come to the same there. -/
theorem Reaches.decode_eq (reaches : schema.Reaches path part) (differ : schema.KeysDiffer)
    (exchange : Json.Exchange old new path value other)
    (same : part.decode .root old = part.decode .root new) :
    schema.decode .root value = schema.decode .root other := by
  induction reaches generalizing value other with
  | here schema =>
    cases exchange
    exact same
  | nullable deeper ih =>
    have deeper' := ih differ exchange same
    have present : value.isNull = other.isNull := by cases exchange <;> rfl
    rw [decode, decode, present, deeper']
  | item i deeper ih =>
    cases exchange with
    | item before after exchanged =>
      have deeper' := decode_eq_at (ih differ exchanged same)
      rw [decode, decode]
      simp only [List.mapIdx_append, List.mapIdx_cons, deeper']
  | @field _ _ _ fields key item _ _ declares deeper ih =>
    cases exchange with
    | @member _ value other before _ after fresh exchanged =>
      have deeper' := ih (declares.keysDiffer differ.2) exchanged same
      have keys : undeclaredKeys fields.keys .root (before ++ (key, value) :: after) =
          undeclaredKeys fields.keys .root (before ++ (key, other) :: after) := by
        rw [undeclaredKeys, undeclaredKeys, Json.Members.keys_exchange other]
      rw [decode, decode]
      rw [keys, declares.decode_eq differ.1 fresh deeper']

end Schema

namespace Chart

variable {α : Type} {part : Schema α} {path : List Location.Step} {value other old new : Json}

/-- In a description that is valid otherwise, the failures are those of what stands at one declared
place. -/
theorem failures_of_valid {chart : Chart} (reaches : schema.Reaches path part)
    (valid : ofJson value = .ok chart) (exchange : Json.Exchange old new path value other) :
    failures other = (part.decode ⟨path⟩ new).failures := by
  obtain ⟨front, back, -, -, framed⟩ := (reaches.visits exchange).framedAt keysDiffer_schema
  have none : failures value = [] := by rw [failures, valid]
  have bare : front = [] ∧ back = [] := by
    rw [failures_eq, framed old old value exchange.self, List.append_eq_nil_iff,
      List.append_eq_nil_iff] at none
    exact ⟨none.1.1, none.2⟩
  rw [failures_eq, framed old new other exchange, bare.1, bare.2, part.decode_at ⟨path⟩,
    List.append_nil, List.nil_append]
  rfl

/-- The figure of a description. -/
theorem reaches_figure : schema.Reaches [.key "figure"] Figure.schema :=
  .field (.beforeRequired _ _ (.beforeRequired _ _ (.beforeRequired _ _ (.required _ _ _))))
    (.here _)

/-- Axes of a description. -/
theorem reaches_axes (i : ℕ) : schema.Reaches [.key "axes", .index i] Axes.schema :=
  .field (.beforeRequired _ _ (.beforeRequired _ _ (.required _ _ _))) (.item i (.here _))

/-- A plot of a description. -/
theorem reaches_plot (i : ℕ) : schema.Reaches [.key "plot", .index i] Plot.schema :=
  .field (.beforeRequired _ _ (.required _ _ _)) (.item i (.here _))

/-- The style of the figure. -/
theorem reaches_figureStyle :
    schema.Reaches [.key "figure", .key "style"] (.nullable FigureStyle.schema) :=
  reaches_figure.append (.field (.defaulted _ _ _ _) (.here _))

/-- The style of axes. -/
theorem reaches_axesStyle (i : ℕ) :
    schema.Reaches [.key "axes", .index i, .key "style"] (.nullable Axes.styleSchema) :=
  (reaches_axes i).append (.field (.defaulted _ _ _ _) (.here _))

/-- The style of a plot. -/
theorem reaches_plotStyle (i : ℕ) :
    schema.Reaches [.key "plot", .index i, .key "style"] (.nullable Plot.styleSchema) :=
  (reaches_plot i).append (.field (.defaulted _ _ _ _) (.here _))

end Chart

end ChartScript
