import ChartScript.Proofs.Arising

/-!
# Failures blame separate places that are there

No failure of a check lies at the place of another or below it: a value that is turned down as a
whole is not also blamed for what it holds, and no place is blamed twice. A field that is missing is
one that the object at the place above does not have; every other failure is at a value of the
description.

That places are separate is about values whose objects have each key once. A key that stands twice
and is not declared would be blamed twice.
-/

namespace ChartScript

/-- Neither failure lies at the place of the other or below it. -/
def Failure.Apart (failure other : Failure) : Prop :=
  ¬ failure.location.steps <+: other.location.steps ∧
    ¬ other.location.steps <+: failure.location.steps

namespace Failure.Apart

variable {failure other : Failure}

theorem under (apart : failure.Apart other) (place : Location) :
    (failure.under place).Apart (other.under place) :=
  ⟨fun below => apart.1 ((List.prefix_append_right_inj _).1 below),
    fun below => apart.2 ((List.prefix_append_right_inj _).1 below)⟩

/-- Failures behind different first steps lie apart. -/
theorem of_steps {first second : Location.Step} {rest rest' : List Location.Step}
    (different : first ≠ second) (steps : failure.location.steps = first :: rest)
    (steps' : other.location.steps = second :: rest') : failure.Apart other := by
  constructor
  · intro below
    rw [steps, steps'] at below
    exact different (List.cons_prefix_cons.1 below).1
  · intro below
    rw [steps, steps'] at below
    exact different (List.cons_prefix_cons.1 below).1.symm

/-- Failures under different keys lie apart. -/
theorem of_keys {key name : String} (different : key ≠ name)
    (below : ∃ rest, failure.location.steps = .key key :: rest)
    (below' : ∃ rest, other.location.steps = .key name :: rest) : failure.Apart other := by
  obtain ⟨rest, steps⟩ := below
  obtain ⟨rest', steps'⟩ := below'
  exact of_steps (fun same => different (Location.Step.key.inj same)) steps steps'

end Failure.Apart

/-- Failures that lie apart from each other do so at any place. -/
theorem Schema.pairwise_at {α : Type} {schema : Schema α} {value : Json}
    (apart : (schema.decode .root value).failures.Pairwise Failure.Apart) (place : Location) :
    (schema.decode place value).failures.Pairwise Failure.Apart := by
  rw [schema.decode_at place value]
  exact apart.map _ fun _ _ apart => apart.under place

/-- The keys of an object that are not declared lie apart. -/
theorem pairwise_undeclaredKeys {members : Json.Members} (distinct : members.keys.Nodup)
    (declared : List String) :
    (undeclaredKeys declared .root members).Pairwise Failure.Apart := by
  rw [undeclaredKeys, List.pairwise_map]
  apply (distinct.filter _).imp
  intro key name different
  exact .of_keys different ⟨[], rfl⟩ ⟨[], rfl⟩

/-- The failures of declared fields lie apart from the keys that are not declared. -/
theorem Fields.apart_undeclaredKeys {α : Type} {fields : Fields α} {members : Json.Members}
    {declared : List String} (listed : ∀ key ∈ fields.keys, key ∈ declared)
    {failure other : Failure} (member : failure ∈ (fields.decode .root members).failures)
    (undeclared : other ∈ undeclaredKeys declared .root members) : failure.Apart other := by
  obtain ⟨key, declares, below⟩ := fields.steps_of_mem_failures member
  obtain ⟨name, absent, rfl⟩ := List.mem_map.1 undeclared
  refine .of_keys ?_ below ⟨[], rfl⟩
  rintro rfl
  have missed := (List.mem_filter.1 absent).2
  rw [List.contains_iff_mem.2 (listed key declares)] at missed
  cases missed

mutual

/-- The failures of a value lie apart from each other. -/
theorem Schema.pairwise_failures {α : Type} : ∀ (schema : Schema α), schema.KeysDiffer →
    ∀ {value : Json}, value.KeysDistinct →
      (schema.decode .root value).failures.Pairwise Failure.Apart
  | .leaf read, _, value, _ => by
    rw [Schema.decode]
    cases read value with
    | ok found => exact .nil
    | error problem => exact List.pairwise_singleton _ _
  | .nullable item, differ, value, distinct => by
    rw [Schema.decode]
    split
    · exact .nil
    · exact Schema.pairwise_failures item differ distinct
  | .list item, differ, value, distinct => by
    cases value with
    | array items =>
      rw [Schema.decode, Outcome.failures_all, List.pairwise_flatMap]
      constructor
      · intro outcome member
        obtain ⟨i, inside, rfl⟩ := List.mem_mapIdx.1 member
        exact Schema.pairwise_at (Schema.pairwise_failures item differ
          (distinct.item (List.getElem?_eq_getElem inside))) _
      · rw [List.pairwise_iff_getElem]
        intro i j first second order failure member other member'
        rw [List.getElem_mapIdx] at member member'
        obtain ⟨rest, steps⟩ := Schema.steps_of_mem_failures member
        obtain ⟨rest', steps'⟩ := Schema.steps_of_mem_failures member'
        exact .of_steps (fun same => Nat.ne_of_lt order (Location.Step.index.inj same)) steps steps'
    | _ => exact List.pairwise_singleton _ _
  | .object fields, differ, value, distinct => by
    cases value with
    | object members =>
      exact List.pairwise_append.2
        ⟨Fields.pairwise_failures fields differ.1 differ.2 fun key inner => distinct.member,
          pairwise_undeclaredKeys distinct.keys _, fun failure member other member' =>
            Fields.apart_undeclaredKeys (fun _ declares => declares) member member'⟩
    | _ => exact List.pairwise_singleton _ _
  | .tagged tag known fields, differ, value, distinct => by
    cases value with
    | object members =>
      rw [Schema.decode]
      split
      · exact List.pairwise_singleton _ _
      · split
        · exact List.pairwise_append.2
            ⟨Fields.pairwise_failures (fields _) (differ _).1 (differ _).2
              fun key inner => distinct.member,
              pairwise_undeclaredKeys distinct.keys _, fun failure member other member' =>
                Fields.apart_undeclaredKeys (fun _ => List.mem_cons_of_mem tag) member member'⟩
        · exact List.pairwise_singleton _ _
    | _ => exact List.pairwise_singleton _ _
  | .map f item, differ, value, distinct => by
    rw [Schema.decode]
    exact Schema.pairwise_failures item differ distinct

/-- The failures of declared fields lie apart from each other. -/
theorem Fields.pairwise_failures {α : Type} : ∀ (fields : Fields α), fields.keys.Nodup →
    fields.KeysDiffer → ∀ {members : Json.Members},
      (∀ key inner, members.find? key = some inner → inner.KeysDistinct) →
        (fields.decode .root members).failures.Pairwise Failure.Apart
  | .pure _, _, _, _, _ => .nil
  | .required before key item, distinct, differ, members, each => by
    obtain ⟨fresh, earlier⟩ := Fields.nodup_keys_concat.1 distinct
    rw [Schema.decode_required]
    refine List.pairwise_append.2
      ⟨Fields.pairwise_failures before earlier differ.1 each, ?_, ?_⟩
    · cases found : members.find? key with
      | none => exact List.pairwise_singleton _ _
      | some inner =>
        exact Schema.pairwise_at (Schema.pairwise_failures item differ.2 (each key inner found)) _
    · intro failure member other member'
      obtain ⟨name, declares, below⟩ := before.steps_of_mem_failures member
      refine .of_keys ?_ below (Schema.steps_of_mem_required member')
      rintro rfl
      exact fresh declares
  | .defaulted before key item absent, distinct, differ, members, each => by
    obtain ⟨fresh, earlier⟩ := Fields.nodup_keys_concat.1 distinct
    rw [Schema.decode_defaulted]
    refine List.pairwise_append.2
      ⟨Fields.pairwise_failures before earlier differ.1 each, ?_, ?_⟩
    · cases found : members.find? key with
      | none => exact .nil
      | some inner =>
        rw [Schema.defaulted]
        split
        · exact .nil
        · exact Schema.pairwise_at
            (Schema.pairwise_failures item differ.2 (each key inner found)) _
    · intro failure member other member'
      obtain ⟨name, declares, below⟩ := before.steps_of_mem_failures member
      refine .of_keys ?_ below (Schema.steps_of_mem_defaulted member')
      rintro rfl
      exact fresh declares

end

/-- A problem of a value that stands at the place of the failure. -/
inductive Problem.IsOfValue : Problem → Prop where
  | notDictionary : IsOfValue .notDictionary
  | notList : IsOfValue .notList
  | notPositive : IsOfValue .notPositive
  | mismatch (found : Finding) (expected : Expected) : IsOfValue (.mismatch found expected)
  | manyKeys : IsOfValue .manyKeys
  | unknownChoice (found : String) (choices : List String) :
      IsOfValue (.unknownChoice found choices)
  | uuid (fault : Uuid.Fault) : IsOfValue (.uuid fault)
  | refusedName (space : Namespace) (raw : String) : IsOfValue (.refusedName space raw)
  | untagged (tag : String) : IsOfValue (.untagged tag)
  | unknownTag (tag found : String) (known : List String) : IsOfValue (.unknownTag tag found known)

/-- A message about a value is none about a missing field or an undeclared key: its first letter is
another. -/
theorem Problem.IsOfValue.message_ne {problem : Problem} (ofValue : problem.IsOfValue) :
    problem.message ≠ "Field required" ∧ problem.message ≠ "Extra inputs are not permitted" := by
  have starts : problem.message.toList.head? ≠ some 'F' ∧
      problem.message.toList.head? ≠ some 'E' := by
    cases ofValue <;> unfold Problem.message <;> simp
  constructor
  · intro same
    rw [same] at starts
    exact starts.1 (by decide)
  · intro same
    rw [same] at starts
    exact starts.2 (by decide)

/-- What readers find of a value is a problem of the value. -/
theorem Json.Misread.isOfValue {Word : String → Prop} {value : Json} {problem : Problem}
    (misread : value.Misread Word problem) : problem.IsOfValue := by
  cases misread with
  | mismatch value found expected => exact .mismatch found expected
  | notPositive value => exact .notPositive
  | manyKeys value => exact .manyKeys
  | label found words => exact .unknownChoice found _
  | onlyKey found inner words => exact .unknownChoice found _
  | uuid misspelled => exact .uuid _
  | name space raw => exact .refusedName space raw

/-- A value that is no member of a closed set has the wrong shape. -/
theorem Schema.misshapen_readChoice {α : Type} [ClosedSet α] {value : Json} {problem : Problem}
    (refused : readChoice α value = .error problem) :
    problem.IsOfValue ∧ problem.kind = .shape := by
  have words : ∀ label ∈ ClosedSet.labels α, True := fun _ _ => trivial
  obtain ⟨misread, shape⟩ := misread_readChoice words refused
  exact ⟨misread.isOfValue, shape⟩

/-- A reader finds problems of the value that it is given. -/
def FindsOfValue {α : Type} (read : Json → Except Problem α) : Prop :=
  ∀ value problem, read value = .error problem → problem.IsOfValue

/-- A reader that misreads values finds problems of these values. -/
theorem FindsOnly.findsOfValue {α : Type} {read : Json → Except Problem α}
    (finds : FindsOnly (Json.Misread fun _ => True) read) : FindsOfValue read :=
  fun value problem refused => (finds value problem refused).isOfValue

/-- The readers of a chart description find problems of the values that they are given. -/
theorem Chart.findsOfValue_schema : schema.EachLeaf FindsOfValue :=
  eachLeaf_schema Schema.misread_readText.findsOfValue Schema.misread_readFloat.findsOfValue
    Schema.misread_readBoolean.findsOfValue Schema.misread_readUuid.findsOfValue
    Schema.misread_readPositive.findsOfValue
    (fun space => (Schema.misread_readName space).findsOfValue)
    (fun _ _ _ _ refused => (Schema.misshapen_readChoice refused).1)

/-- A failure lies in a value. -/
inductive Json.Blamed (value : Json) (failure : Failure) : Prop where
  /-- A field is missing that the object above its place does not have. -/
  | missing (parent : List Location.Step) {key : String} {members : Members}
      (lacks : failure.problem = .missing) (steps : failure.location.steps = parent ++ [.key key])
      (object : value.at? parent = some (.object members)) (absent : key ∉ members.keys)
  /-- A value that is there is not declared or has a problem of its own. -/
  | present (found : Json) (wrong : failure.problem = .undeclared ∨ failure.problem.IsOfValue)
      (leads : value.at? failure.location.steps = some found)

namespace Json.Blamed

variable {value inner : Json} {failure : Failure}

theorem here (ofValue : failure.problem.IsOfValue) (whole : failure.location.steps = []) :
    value.Blamed failure := by
  refine .present value (.inr ofValue) ?_
  rw [whole, at?_nil]

/-- A failure in a value one step below lies in the whole. -/
theorem under {step : Location.Step} (blamed : inner.Blamed failure)
    (leads : value.at? [step] = some inner) : value.Blamed (failure.under ⟨[step]⟩) := by
  cases blamed with
  | missing parent lacks steps object absent =>
    refine .missing (step :: parent) lacks ?_ ?_ absent
    · rw [Failure.under, Location.within, steps]
      rfl
    · rw [← List.singleton_append, at?_append_of_eq_some leads, object]
  | present found wrong leads' =>
    refine .present found wrong ?_
    rw [Failure.under, Location.within, at?_append_of_eq_some leads, leads']

/-- A key that is not declared is there. -/
theorem of_undeclared {members : Members} {key : String} (there : key ∈ members.keys) :
    (object members).Blamed ⟨Location.root.key key, .undeclared⟩ := by
  have held : members.find? key ≠ none := fun none => Members.find?_eq_none_iff.1 none there
  obtain ⟨found, held⟩ := Option.ne_none_iff_exists'.1 held
  exact .present found (.inl rfl) (at?_key.2 ⟨members, found, rfl, held, rfl⟩)

end Json.Blamed

/-- A failure lies in the value that it arises in. -/
theorem Json.Arises.blamed {Word : String → Prop} {value : Json} {failure : Failure}
    (arises : value.Arises Word (fun _ problem => problem.IsOfValue) failure) :
    value.Blamed failure := by
  induction arises with
  | read ofValue => exact .here ofValue rfl
  | notList value => exact .here .notList rfl
  | notDictionary value => exact .here .notDictionary rfl
  | untagged value word => exact .here (.untagged _) rfl
  | unknownTag word words tells => exact .here (.unknownTag _ _ _) rfl
  | missing word absent => exact .missing [] rfl rfl rfl absent
  | undeclared there => exact .of_undeclared there
  | inside word leads deeper ih => exact ih.under leads

/-- The failures of a value lie in it. -/
theorem Schema.blamed_of_mem {α : Type} (schema : Schema α) (finds : schema.EachLeaf FindsOfValue)
    {value : Json} :
    ∀ failure ∈ (schema.decode .root value).failures, value.Blamed failure := by
  intro failure member
  have words : schema.EachWord fun _ => True := schema.eachWord_of_forall fun _ => trivial
  exact (schema.arises_of_mem words finds failure member).blamed

end ChartScript
