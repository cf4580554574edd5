import ChartScript.Proofs.Accepted
import ChartScript.Proofs.Document
import ChartScript.Proofs.Recording
import Mathlib.Data.List.Forall2
import Mathlib.Data.List.Perm.Basic

/-!
# The order of keys does not matter

Two descriptions that differ in the order of keys only, at any depth, are read alike: both as the
same chart, or both with the same failures in some order. Fields are checked in the order of the
schema, wherever their keys stand, so only the keys that are not declared can change places in a
report.

This is about values whose objects have each key once. Of a key that stands twice the first value is
read, so there the order would matter.
-/

namespace ChartScript

namespace Json

/-- Two values differ in the order of keys only, at any depth. -/
inductive Reordered : Json → Json → Prop where
  /-- A value and itself. -/
  | same (value : Json) : Reordered value value
  /-- Two lists, item by item. -/
  | array {items others : List Json} (each : List.Forall₂ Reordered items others) :
      Reordered (.array items) (.array others)
  /-- Two objects, key by key: the second has the keys of the first in some order, each with a value
  that differs in the order of keys only. -/
  | object {members moved others : Members} (keys : moved.map Prod.fst = members.map Prod.fst)
      (each : List.Forall₂ Reordered (members.map Prod.snd) (moved.map Prod.snd))
      (perm : moved.Perm others) : Reordered (.object members) (.object others)

namespace Members

variable {members moved others : Members}

/-- A key that occurs once has the value that stands with it. -/
theorem find?_eq_some_iff (distinct : members.keys.Nodup) {key : String} {value : Json} :
    members.find? key = some value ↔ (key, value) ∈ members := by
  induction members with
  | nil => simp [find?]
  | cons member rest ih =>
    obtain ⟨name, held⟩ := member
    obtain ⟨fresh, later⟩ := List.nodup_cons.1 distinct
    rw [find?, List.mem_cons, Prod.mk.injEq]
    split
    · next same =>
      subst same
      have absent : (name, value) ∉ rest := fun later =>
        fresh (List.mem_map.2 ⟨(name, value), later, rfl⟩)
      simp [absent, eq_comm]
    · next different =>
      rw [ih later]
      simp [Ne.symm different]

/-- Keys that occur once are found wherever they stand. -/
theorem find?_perm (distinct : members.keys.Nodup) (perm : members.Perm others) (key : String) :
    members.find? key = others.find? key := by
  have distinct' : others.keys.Nodup := (perm.map Prod.fst).nodup_iff.1 distinct
  apply Option.ext
  intro value
  rw [find?_eq_some_iff distinct, find?_eq_some_iff distinct', perm.mem_iff]

/-- Under each key, members have values that correspond if the values do in turn. -/
theorem rel_find?_of_forall₂ {Corresponds : Json → Json → Prop}
    (keys : moved.map Prod.fst = members.map Prod.fst)
    (each : List.Forall₂ Corresponds (members.map Prod.snd) (moved.map Prod.snd)) (key : String) :
    Option.Rel Corresponds (members.find? key) (moved.find? key) := by
  induction members generalizing moved with
  | nil =>
    rw [List.map_eq_nil_iff.1 keys]
    exact .none
  | cons member rest ih =>
    cases moved with
    | nil => cases keys
    | cons member' rest' =>
      obtain ⟨name, value⟩ := member
      obtain ⟨name', value'⟩ := member'
      obtain ⟨rfl, later⟩ := List.cons.inj keys
      obtain ⟨first, each⟩ := List.forall₂_cons.1 each
      rw [find?, find?]
      split
      · exact .some first
      · exact ih later each

end Members

namespace Reordered

variable {value other : Json} {members others : Members}

/-- Under each key, objects have values that differ in the order of keys only. -/
theorem rel_find? (reordered : (Json.object members).Reordered (.object others))
    (distinct : members.keys.Nodup) (key : String) :
    Option.Rel Reordered (members.find? key) (others.find? key) := by
  cases reordered with
  | same =>
    cases members.find? key with
    | none => exact .none
    | some value => exact .some (.same value)
  | @object _ moved _ keys each perm =>
    have distinct' : moved.keys.Nodup := by
      rw [Members.keys, keys]
      exact distinct
    rw [← Members.find?_perm distinct' perm]
    exact Members.rel_find?_of_forall₂ keys each key

/-- Under each key the values have no key twice either, if the first object has none. -/
theorem rel_member (reordered : (Json.object members).Reordered (.object others))
    (distinct : (Json.object members).KeysDistinct) (key : String) :
    Option.Rel (fun value other => value.KeysDistinct ∧ value.Reordered other)
      (members.find? key) (others.find? key) := by
  have each (value : Json) : members.find? key = some value → value.KeysDistinct := distinct.member
  have related := reordered.rel_find? distinct.keys key
  generalize members.find? key = found, others.find? key = found' at each related
  cases related with
  | none => exact .none
  | some inner => exact .some ⟨each _ rfl, inner⟩

/-- Objects have the same keys in some order. -/
theorem keys_perm (reordered : (Json.object members).Reordered (.object others)) :
    members.keys.Perm others.keys := by
  cases reordered with
  | same => exact .refl _
  | object keys each perm =>
    rw [Members.keys, ← keys]
    exact perm.map Prod.fst

theorem isNull_eq (reordered : value.Reordered other) : value.isNull = other.isNull := by
  cases reordered <;> rfl

theorem wrongType_eq (reordered : value.Reordered other) (expected : Expected) :
    Schema.wrongType value expected = Schema.wrongType other expected := by
  cases reordered <;> rfl

/-- The text under a key is the same. -/
theorem bind_text?_eq {held found : Option Json} (related : Option.Rel Reordered held found) :
    held.bind text? = found.bind text? := by
  cases related with
  | none => rfl
  | some reordered => cases reordered <;> rfl

end Reordered

end Json

/-- A reader does not look at the order of keys. -/
def IgnoresOrder {α : Type} (read : Json → Except Problem α) : Prop :=
  ∀ value other, value.Reordered other → read value = read other

/-- A member of a closed set is told by the only key of an object, whatever the order of keys. -/
theorem Schema.ignoresOrder_readChoice (α : Type) [ClosedSet α] :
    IgnoresOrder (Schema.readChoice α) := by
  intro value other reordered
  cases reordered with
  | same => rfl
  | array => rfl
  | @object members moved others keys each perm =>
    have count : others.length = members.length := by
      rw [← perm.length_eq, ← List.length_map Prod.fst, keys, List.length_map]
    match members, others, count with
    | [], [], _ => rfl
    | [(key, value)], [last], _ =>
      obtain rfl := List.perm_singleton.1 perm
      obtain ⟨name, value'⟩ := last
      obtain ⟨rfl, -⟩ := List.cons.inj keys
      obtain ⟨inner, -⟩ := List.forall₂_cons.1 each
      rw [readChoice, readChoice, inner.isNull_eq, inner.wrongType_eq]
    | _ :: _ :: _, _ :: _ :: _, _ => rfl

/-- The readers of a chart description do not look at the order of keys. -/
theorem Chart.ignoresOrder_schema : schema.EachLeaf IgnoresOrder := by
  apply eachLeaf_schema
  case texts => rintro _ _ (_ | _ | _) <;> rfl
  case floats => rintro _ _ (_ | _ | _) <;> rfl
  case booleans => rintro _ _ (_ | _ | _) <;> rfl
  case uuids => rintro _ _ (_ | _ | _) <;> rfl
  case sizes => rintro _ _ (_ | _ | _) <;> rfl
  case names => rintro _ _ _ (_ | _ | _) <;> rfl
  case choices => exact fun α _ => Schema.ignoresOrder_readChoice α

/-- A failure does not tell of extra inputs. -/
def Failure.IsNotExtra (failure : Failure) : Prop :=
  failure.problem.message ≠ "Extra inputs are not permitted"

instance : DecidablePred Failure.IsNotExtra := fun failure =>
  inferInstanceAs (Decidable (failure.problem.message ≠ _))

/-- Failures are the same in some order, and in the same order but for the keys that are not
declared. -/
structure SameFailures (failures others : List Failure) : Prop where
  /-- The failures are the same, each as often. -/
  perm : failures.Perm others
  /-- Those that do not tell of extra inputs come in the same order. -/
  ordered : failures.filter Failure.IsNotExtra = others.filter Failure.IsNotExtra

namespace SameFailures

variable {failures others front back : List Failure}

theorem refl (failures : List Failure) : SameFailures failures failures := ⟨.refl _, rfl⟩

theorem append (first : SameFailures failures others) (second : SameFailures front back) :
    SameFailures (failures ++ front) (others ++ back) where
  perm := first.perm.append second.perm
  ordered := by rw [List.filter_append, List.filter_append, first.ordered, second.ordered]

/-- Keys that are not declared may come in any order. -/
theorem of_undeclaredKeys (declared : List String) (place : Location)
    {members others : Json.Members} (perm : members.keys.Perm others.keys) :
    SameFailures (undeclaredKeys declared place members)
      (undeclaredKeys declared place others) where
  perm := (perm.filter _).map _
  ordered := by
    have extra (members : Json.Members) :
        (undeclaredKeys declared place members).filter Failure.IsNotExtra = [] := by
      rw [List.filter_eq_nil_iff]
      intro failure member
      obtain ⟨key, -, rfl⟩ := List.mem_map.1 member
      rw [decide_eq_true_iff]
      exact fun ordered => ordered rfl
    rw [extra, extra]

end SameFailures

/-- Two outcomes have the same result, and the same failures up to the order of the keys that are
not declared. -/
structure Outcome.Alike {α : Type} (outcome other : Outcome α) : Prop where
  /-- The results are the same. -/
  value : outcome.value = other.value
  /-- The failures are the same. -/
  failures : SameFailures outcome.failures other.failures

namespace Outcome.Alike

variable {α β : Type} {outcome other : Outcome α}

theorem refl (outcome : Outcome α) : outcome.Alike outcome := ⟨rfl, .refl _⟩

theorem map (alike : outcome.Alike other) (f : α → β) : (outcome.map f).Alike (other.map f) where
  value := congrArg (Option.map f) alike.value
  failures := alike.failures

theorem both {f g : Outcome (α → β)} (functions : f.Alike g) (arguments : outcome.Alike other) :
    (Outcome.both f outcome).Alike (Outcome.both g other) where
  value := by rw [Outcome.both, Outcome.both, functions.value, arguments.value]
  failures := functions.failures.append arguments.failures

theorem all {outcomes others : List (Outcome α)} (each : List.Forall₂ Alike outcomes others) :
    (Outcome.all outcomes).Alike (Outcome.all others) := by
  induction each with
  | nil => exact .refl _
  | cons first _ ih => exact (first.map _).both ih

theorem spoiledBy (alike : outcome.Alike other) {failures others : List Failure}
    (same : SameFailures failures others) :
    (outcome.spoiledBy failures).Alike (other.spoiledBy others) where
  value := by
    have empty : failures.isEmpty = others.isEmpty := by
      rw [Bool.eq_iff_iff, List.isEmpty_iff, List.isEmpty_iff]
      constructor
      · rintro rfl
        exact same.perm.nil_eq.symm
      · rintro rfl
        exact same.perm.eq_nil
    rw [Outcome.spoiledBy, Outcome.spoiledBy, empty, alike.value]
  failures := alike.failures.append same

end Outcome.Alike

/-- Indexed functions that agree on corresponding items give corresponding lists. -/
theorem forall₂_mapIdx {α β γ : Type} {R : α → β → Prop} {S : γ → γ → Prop} {f : Nat → α → γ}
    {g : Nat → β → γ} (agree : ∀ i x y, R x y → S (f i x) (g i y)) {xs : List α} {ys : List β}
    (each : List.Forall₂ R xs ys) : List.Forall₂ S (xs.mapIdx f) (ys.mapIdx g) := by
  induction each generalizing f g with
  | nil => exact .nil
  | cons first _ ih =>
    rw [List.mapIdx_cons, List.mapIdx_cons]
    exact .cons (agree 0 _ _ first) (ih fun i => agree (i + 1))

mutual

/-- Values that differ in the order of keys only come to the same. -/
theorem Schema.alike_decode {α : Type} : ∀ (schema : Schema α), schema.EachLeaf IgnoresOrder →
    ∀ (place : Location) {value other : Json}, value.KeysDistinct → value.Reordered other →
      (schema.decode place value).Alike (schema.decode place other)
  | .leaf read, ignores, place, value, other, _, reordered => by
    rw [Schema.decode, Schema.decode, ignores value other reordered]
    exact .refl _
  | .nullable item, ignores, place, value, other, distinct, reordered => by
    rw [Schema.decode, Schema.decode, reordered.isNull_eq]
    split
    · exact .refl _
    · exact (Schema.alike_decode item ignores place distinct reordered).map some
  | .list item, ignores, place, value, other, distinct, reordered => by
    cases reordered with
    | @array items others each =>
      have each' : List.Forall₂ (fun value other => value.KeysDistinct ∧ value.Reordered other)
          items others := by
        refine (List.forall₂_and_left _ _).2 ⟨fun value member => ?_, each⟩
        obtain ⟨i, listed⟩ := List.mem_iff_getElem?.1 member
        exact distinct.item listed
      rw [Schema.decode, Schema.decode]
      apply Outcome.Alike.all
      apply forall₂_mapIdx _ each'
      intro i value other ⟨distinct, reordered⟩
      exact Schema.alike_decode item ignores _ distinct reordered
    | _ => exact .refl _
  | .object fields, ignores, place, value, other, distinct, reordered => by
    cases reordered with
    | @object members moved others keys each perm =>
      have reordered : (Json.object members).Reordered (.object others) := .object keys each perm
      exact (Fields.alike_decode fields ignores place distinct reordered).spoiledBy
        (.of_undeclaredKeys _ _ reordered.keys_perm)
    | _ => exact .refl _
  | .tagged tag known fields, ignores, place, value, other, distinct, reordered => by
    cases reordered with
    | @object members moved others keys each perm =>
      have reordered : (Json.object members).Reordered (.object others) := .object keys each perm
      rw [Schema.decode, Schema.decode,
        Json.Reordered.bind_text?_eq (reordered.rel_find? distinct.keys tag)]
      split
      · exact .refl _
      · split
        · exact (Fields.alike_decode (fields _) (ignores _) place distinct reordered).spoiledBy
            (.of_undeclaredKeys _ _ reordered.keys_perm)
        · exact .refl _
    | _ => exact .refl _
  | .map f item, ignores, place, value, other, distinct, reordered => by
    rw [Schema.decode, Schema.decode]
    exact (Schema.alike_decode item ignores place distinct reordered).map f

/-- Members whose values differ in the order of keys only come to the same. -/
theorem Fields.alike_decode {α : Type} : ∀ (fields : Fields α), fields.EachLeaf IgnoresOrder →
    ∀ (place : Location) {members others : Json.Members}, (Json.object members).KeysDistinct →
      (Json.object members).Reordered (.object others) →
        (fields.decode place members).Alike (fields.decode place others)
  | .pure value, _, _, _, _, _, _ => .refl _
  | .required before key item, ignores, place, members, others, distinct, reordered => by
    rw [Fields.decode, Fields.decode]
    apply (Fields.alike_decode before ignores.1 place distinct reordered).both
    have related := reordered.rel_member distinct key
    generalize members.find? key = found, others.find? key = found' at related
    cases related with
    | none => exact .refl _
    | some inner => exact Schema.alike_decode item ignores.2 _ inner.1 inner.2
  | .defaulted before key item absent, ignores, place, members, others, distinct, reordered => by
    rw [Fields.decode, Fields.decode]
    apply (Fields.alike_decode before ignores.1 place distinct reordered).both
    have related := reordered.rel_member distinct key
    generalize members.find? key = found, others.find? key = found' at related
    cases related with
    | none => exact .refl _
    | some inner =>
      dsimp only
      rw [inner.2.isNull_eq]
      split
      · exact .refl _
      · exact Schema.alike_decode item ignores.2 _ inner.1 inner.2

end

namespace Chart

/-- Two descriptions that differ in the order of keys only are both read as the same chart, or both
turned down with the same failures, of which those that do not tell of extra inputs come in the same
order. -/
theorem ofJson_reordered {value other : Json} (distinct : value.KeysDistinct)
    (reordered : value.Reordered other) :
    (∃ chart, ofJson value = .ok chart ∧ ofJson other = .ok chart) ∨
      ∃ report report', ofJson value = .error report ∧ ofJson other = .error report' ∧
        SameFailures report.failures report'.failures := by
  have alike := schema.alike_decode ignoresOrder_schema .root distinct reordered
  cases read : ofJson value with
  | ok chart =>
    refine .inl ⟨chart, rfl, ?_⟩
    rw [ofJson_eq_ok_iff, ← alike.value, ← ofJson_eq_ok_iff, read]
  | error report =>
    obtain ⟨reported, some⟩ := ofJson_eq_error_iff.1 read
    have same : SameFailures report.failures (schema.decode .root other).failures :=
      reported ▸ alike.failures
    have some' : (schema.decode .root other).failures ≠ [] := fun none =>
      some (none ▸ same.perm).eq_nil
    exact .inr ⟨report, ⟨_⟩, rfl, ofJson_eq_error_iff.2 ⟨rfl, some'⟩, same⟩

/-- A description with keys that are not declared, beside the series and in one of them. -/
def untidyValue : Json :=
  .object [("z", .null),
    ("data", .array [.object [("y", .null), ("name", .string "d"), ("x", .null)]]), ("a", .null)]

/-- The same with its keys in reverse. -/
def reversedValue : Json :=
  .object [("a", .null),
    ("data", .array [.object [("x", .null), ("name", .string "d"), ("y", .null)]]), ("z", .null)]

/-- The description and the one in reverse are turned down with the same failures. -/
theorem ofJson_reordered_untidy :
    untidyValue.KeysDistinct ∧ untidyValue.Reordered reversedValue ∧
      (ofJson untidyValue).toOption = none ∧
      ((∃ chart, ofJson untidyValue = .ok chart ∧ ofJson reversedValue = .ok chart) ∨
        ∃ report report', ofJson untidyValue = .error report ∧
          ofJson reversedValue = .error report' ∧
            SameFailures report.failures report'.failures) := by
  have inside : (Json.object [("y", .null), ("name", .string "d"), ("x", .null)]).KeysDistinct :=
    @Json.KeysDistinct.put _ "x" _ (@Json.KeysDistinct.put _ "name" _
      (@Json.KeysDistinct.put [] "y" _ .empty .null) (.string "d")) .null
  have distinct : untidyValue.KeysDistinct :=
    @Json.KeysDistinct.put _ "a" _ (@Json.KeysDistinct.put _ "data" _
      (@Json.KeysDistinct.put [] "z" _ .empty .null)
      (.of_items (List.forall_mem_singleton.2 inside))) .null
  have series : (Json.object [("y", .null), ("name", .string "d"), ("x", .null)]).Reordered
      (.object [("x", .null), ("name", .string "d"), ("y", .null)]) :=
    .object rfl (List.forall₂_same.2 fun value _ => .same value) (List.reverse_perm _).symm
  have reordered : untidyValue.Reordered reversedValue :=
    @Json.Reordered.object _
      [("z", .null), ("data", .array [.object [("x", .null), ("name", .string "d"), ("y", .null)]]),
        ("a", .null)] _ rfl
      (.cons (.same _) (.cons (.array (.cons series .nil)) (.cons (.same _) .nil)))
      (List.reverse_perm _).symm
  exact ⟨distinct, reordered, by decide +kernel, ofJson_reordered distinct reordered⟩

end Chart

end ChartScript
