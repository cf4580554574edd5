import ChartScript.Failure

/-!
# Schemas and what they make of a value

A schema says what a JSON value must look like and which value it stands for. Checking a value
against a schema visits everything below it, also after a failure: an outcome holds the value, if
there is one, and every failure in the order of discovery. Objects are closed: after the declared
fields, in their declared order, each key that is not declared is a failure of its own.

A check is carried out by recorders: one list of failures is handed from value to value, and each
recorder adds its own failures at the end. What a value comes to on its own, whatever the list held
before, is its outcome.
-/

namespace ChartScript

/-- What a value came to: a result, if nothing failed, and the failures. -/
structure Outcome (α : Type) where
  /-- The result. -/
  value : Option α
  /-- The failures in the order of discovery. -/
  failures : List Failure

namespace Outcome

variable {α β : Type}

/-- A result without failures. -/
def done (value : α) : Outcome α := ⟨some value, []⟩

/-- A single failure. -/
def failed (place : Location) (problem : Problem) : Outcome α := ⟨none, [⟨place, problem⟩]⟩

/-- A result that is worked on further. -/
def map (f : α → β) (outcome : Outcome α) : Outcome β := ⟨outcome.value.map f, outcome.failures⟩

/-- Two outcomes side by side: the failures of both, and a result if both have one. -/
def both (f : Outcome (α → β)) (x : Outcome α) : Outcome β :=
  ⟨f.value.bind fun g => x.value.map g, f.failures ++ x.failures⟩

/-- Outcomes in a row: the failures of all, and the results if all have one. -/
def all : List (Outcome α) → Outcome (List α)
  | [] => done []
  | first :: rest => both (map List.cons first) (all rest)

/-- The failures of an outcome followed by others that spoil it, if there are any. -/
def spoiledBy (outcome : Outcome α) (others : List Failure) : Outcome α :=
  ⟨if others.isEmpty then outcome.value else none, outcome.failures ++ others⟩

end Outcome

/-- A check that is handed the failures held so far: its result, if nothing failed, and the failures
held after it. -/
abbrev Recorder (α : Type) := List Failure → Option α × List Failure

namespace Recorder

variable {α β : Type}

/-- A result that leaves the failures as they are. -/
def keep (value : α) : Recorder α := fun held => (some value, held)

/-- A failure that is added, without a result. -/
def record (place : Location) (problem : Problem) : Recorder α :=
  fun held => (none, held ++ [⟨place, problem⟩])

/-- A recorder whose result is worked on further. -/
def map (f : α → β) (recorder : Recorder α) : Recorder β := fun held =>
  let (found, held) := recorder held
  (found.map f, held)

/-- Two recorders, one after the other, also when the first has no result. -/
def both (f : Recorder (α → β)) (x : Recorder α) : Recorder β := fun held =>
  let (function, held) := f held
  let (argument, held) := x held
  (function.bind fun g => argument.map g, held)

/-- Recorders one after the other, also after one without a result. -/
def all : List (Recorder α) → Recorder (List α)
  | [] => keep []
  | first :: rest => both (map List.cons first) (all rest)

/-- A recorder whose result is given up if others come after it, which are added. -/
def spoiledBy (recorder : Recorder α) (others : List Failure) : Recorder α := fun held =>
  let (found, held) := recorder held
  (if others.isEmpty then found else none, held ++ others)

end Recorder

mutual

/-- What a value must look like, and the value it stands for. -/
inductive Schema : Type → Type 1 where
  /-- A value that is read as a whole. -/
  | leaf {α : Type} (read : Json → Except Problem α) : Schema α
  /-- A value or `null`. -/
  | nullable {α : Type} (item : Schema α) : Schema (Option α)
  /-- A list of values of one schema. -/
  | list {α : Type} (item : Schema α) : Schema (List α)
  /-- An object with these fields and no other key. -/
  | object {α : Type} (fields : Fields α) : Schema α
  /-- An object whose tag, one of the known ones, tells its other fields. -/
  | tagged {α : Type} (tag : String) (known : List String) (fields : String → Fields α) : Schema α
  /-- A value that is worked on further. -/
  | map {α β : Type} (f : α → β) (item : Schema α) : Schema β

/-- The declared fields of an object, the last one outermost. -/
inductive Fields : Type → Type 1 where
  /-- No field. -/
  | pure {α : Type} (value : α) : Fields α
  /-- A further field that must be there. -/
  | required {α β : Type} (before : Fields (α → β)) (key : String) (item : Schema α) : Fields β
  /-- A further field that may be absent or `null` and then has a value of its own. -/
  | defaulted {α β : Type} (before : Fields (α → β)) (key : String) (item : Schema α)
      (absent : α) : Fields β

end

namespace Fields

variable {α β : Type}

/-- The declared keys in order. -/
@[simp]
def keys {α : Type} : Fields α → List String
  | .pure _ => []
  | .required before key _ => before.keys ++ [key]
  | .defaulted before key _ _ => before.keys ++ [key]

/-- Fields whose result is worked on further. -/
def map {α β : Type} (f : α → β) : Fields α → Fields β
  | .pure value => .pure (f value)
  | .required before key item => .required (before.map (f ∘ ·)) key item
  | .defaulted before key item absent => .defaulted (before.map (f ∘ ·)) key item absent

/-- A further field that may be absent or `null`. -/
def optional (before : Fields (Option α → β)) (key : String) (item : Schema α) : Fields β :=
  before.defaulted key (item.map some) none

end Fields

/-- The failures of the keys that are not declared. -/
def undeclaredKeys (declared : List String) (place : Location) (members : Json.Members) :
    List Failure :=
  (members.keys.filter fun key => !declared.contains key).map fun key =>
    ⟨place.key key, .undeclared⟩

mutual

/-- What a value at a place comes to under a schema. -/
def Schema.decode {α : Type} : Schema α → Location → Json → Outcome α
  | .leaf read, place, value =>
    match read value with
    | .ok found => .done found
    | .error problem => .failed place problem
  | .nullable item, place, value =>
    if value.isNull then .done none else (item.decode place value).map some
  | .list item, place, value =>
    match value with
    | .array items => .all (items.mapIdx fun i value => item.decode (place.index i) value)
    | _ => .failed place .notList
  | .object fields, place, value =>
    match value with
    | .object members =>
      (fields.decode place members).spoiledBy (undeclaredKeys fields.keys place members)
    | _ => .failed place .notDictionary
  | .tagged tag known fields, place, value =>
    match value with
    | .object members =>
      match (Json.Members.find? members tag).bind Json.text? with
      | none => .failed place (.untagged tag)
      | some found =>
        if known.contains found then
          ((fields found).decode place members).spoiledBy
            (undeclaredKeys (tag :: (fields found).keys) place members)
        else .failed place (.unknownTag tag found known)
    | _ => .failed place .notDictionary
  | .map f item, place, value => (item.decode place value).map f

/-- What the members of an object at a place come to under declared fields. -/
def Fields.decode {α : Type} : Fields α → Location → Json.Members → Outcome α
  | .pure value, _, _ => .done value
  | .required before key item, place, members =>
    .both (before.decode place members)
      (match members.find? key with
      | some value => item.decode (place.key key) value
      | none => .failed (place.key key) .missing)
  | .defaulted before key item absent, place, members =>
    .both (before.decode place members)
      (match members.find? key with
      | some value =>
        if value.isNull then .done absent else item.decode (place.key key) value
      | none => .done absent)

end

mutual

/-- Checks a value at a place while failures of earlier values are held. -/
def Schema.run {α : Type} : Schema α → Location → Json → Recorder α
  | .leaf read, place, value =>
    match read value with
    | .ok found => .keep found
    | .error problem => .record place problem
  | .nullable item, place, value =>
    if value.isNull then .keep none else .map some (item.run place value)
  | .list item, place, value =>
    match value with
    | .array items => .all (items.mapIdx fun i value => item.run (place.index i) value)
    | _ => .record place .notList
  | .object fields, place, value =>
    match value with
    | .object members =>
      .spoiledBy (fields.run place members) (undeclaredKeys fields.keys place members)
    | _ => .record place .notDictionary
  | .tagged tag known fields, place, value =>
    match value with
    | .object members =>
      match (Json.Members.find? members tag).bind Json.text? with
      | none => .record place (.untagged tag)
      | some found =>
        if known.contains found then
          .spoiledBy ((fields found).run place members)
            (undeclaredKeys (tag :: (fields found).keys) place members)
        else .record place (.unknownTag tag found known)
    | _ => .record place .notDictionary
  | .map f item, place, value => .map f (item.run place value)

/-- Checks the members of an object at a place under declared fields, in their order, while failures
of earlier values are held. -/
def Fields.run {α : Type} : Fields α → Location → Json.Members → Recorder α
  | .pure value, _, _ => .keep value
  | .required before key item, place, members =>
    .both (before.run place members)
      (match members.find? key with
      | some value => item.run (place.key key) value
      | none => .record (place.key key) .missing)
  | .defaulted before key item absent, place, members =>
    .both (before.run place members)
      (match members.find? key with
      | some value =>
        if value.isNull then .keep absent else item.run (place.key key) value
      | none => .keep absent)

end

end ChartScript
