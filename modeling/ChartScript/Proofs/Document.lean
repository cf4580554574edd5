import ChartScript.Json.Reader
import ChartScript.Location
import Mathlib.Data.List.Nodup

/-!
# Values inside a document

A path leads from a value to a value inside it, one step at a time: under a key of an object, or at
an index of a list. A document that was read has no object with a key twice, at any depth, so its
paths are unambiguous and its members may be told by their keys alone. About values with repeated
keys, which no text denotes, nothing is claimed.
-/

namespace ChartScript.Json

/-- The value one step inside a value, if there is one. -/
def step? : Json → Location.Step → Option Json
  | .array items, .index i => items[i]?
  | .object members, .key name => Members.find? members name
  | _, _ => none

/-- The value at a path, if the path leads to one. -/
def at? (value : Json) (path : List Location.Step) : Option Json := path.foldlM step? value

section

variable {value found : Json} {path : List Location.Step}

@[simp]
theorem at?_nil (value : Json) : value.at? [] = some value := rfl

/-- A path of one step leads to what is one step inside. -/
theorem at?_singleton (value : Json) (step : Location.Step) :
    value.at? [step] = value.step? step := by
  rw [at?, List.foldlM_cons]
  cases value.step? step <;> rfl

/-- A path with another behind it leads on from where the first one leads. -/
theorem at?_append (value : Json) (path more : List Location.Step) :
    value.at? (path ++ more) = (value.at? path).bind fun inner => inner.at? more :=
  List.foldlM_append

/-- What a path leads to is reached through what its first part leads to. -/
theorem exists_at?_of_append (path more : List Location.Step)
    (leads : value.at? (path ++ more) = some found) :
    ∃ inner, value.at? path = some inner ∧ inner.at? more = some found := by
  rwa [at?_append, Option.bind_eq_some_iff] at leads

/-- A step under a key leads into an object that has the key. -/
theorem at?_key {name : String} :
    value.at? (.key name :: path) = some found ↔
      ∃ members inner, value = .object members ∧ Members.find? members name = some inner ∧
        inner.at? path = some found := by
  rw [at?, List.foldlM_cons, Option.bind_eq_bind, Option.bind_eq_some_iff]
  cases value with
  | object members =>
    constructor
    · rintro ⟨inner, held, deeper⟩
      exact ⟨members, inner, rfl, held, deeper⟩
    · rintro ⟨_, inner, ⟨⟩, held, deeper⟩
      exact ⟨inner, held, deeper⟩
  | _ => simp [step?]

/-- A step at an index leads into a list that is long enough. -/
theorem at?_index {i : Nat} :
    value.at? (.index i :: path) = some found ↔
      ∃ items item, value = .array items ∧ items[i]? = some item ∧ item.at? path = some found := by
  rw [at?, List.foldlM_cons, Option.bind_eq_bind, Option.bind_eq_some_iff]
  cases value with
  | array items =>
    constructor
    · rintro ⟨item, listed, deeper⟩
      exact ⟨items, item, rfl, listed, deeper⟩
    · rintro ⟨_, item, ⟨⟩, listed, deeper⟩
      exact ⟨item, listed, deeper⟩
  | _ => simp [step?]

/-- A path leads on from where its first part leads. -/
theorem at?_append_of_eq_some {inner : Json} (leads : value.at? path = some inner)
    (more : List Location.Step) : value.at? (path ++ more) = inner.at? more := by
  rw [at?_append, leads, Option.bind_some]

/-- A value that is put under a key is found under it, and the others stay. -/
theorem Members.find?_put (members : Members) (key : String) (value : Json) (name : String) :
    (members.put key value).find? name = if key = name then some value else members.find? name := by
  induction members with
  | nil => rfl
  | cons member rest ih =>
    obtain ⟨first, old⟩ := member
    by_cases same : first = key
    · simp only [put, find?, same, if_true]
      split <;> rfl
    · simp only [put, find?, same, if_false, ih]
      by_cases hit : first = name
      · simp only [hit, if_true]
        rw [if_neg fun equal => same (hit.trans equal.symm)]
      · simp only [hit, if_false]

/-- No object inside a value has a key twice, nor has the value itself. -/
def KeysDistinct (value : Json) : Prop :=
  ∀ path members, value.at? path = some (.object members) → (Members.keys members).Nodup

namespace KeysDistinct

/-- Keys are distinct in whatever is inside. -/
theorem at? {inner : Json} (distinct : value.KeysDistinct) (leads : value.at? path = some inner) :
    inner.KeysDistinct := by
  intro more members object
  apply distinct (path ++ more) members
  rw [at?_append_of_eq_some leads, object]

theorem item {items : List Json} {i : Nat} {item : Json} (distinct : (array items).KeysDistinct)
    (listed : items[i]? = some item) : item.KeysDistinct :=
  distinct.at? (at?_index.2 ⟨items, item, rfl, listed, at?_nil item⟩)

theorem member {members : Members} {key : String} {value : Json}
    (distinct : (object members).KeysDistinct) (found : members.find? key = some value) :
    value.KeysDistinct :=
  distinct.at? (at?_key.2 ⟨members, value, rfl, found, at?_nil value⟩)

theorem keys {members : Members} (distinct : (object members).KeysDistinct) :
    members.keys.Nodup :=
  distinct [] members rfl

/-- Keys are distinct in a list if they are in its items. -/
theorem of_items {items : List Json} (each : ∀ item ∈ items, item.KeysDistinct) :
    (array items).KeysDistinct := by
  intro path members leads
  cases path with
  | nil => cases leads
  | cons step rest =>
    cases step with
    | key name => cases leads
    | index i =>
      obtain ⟨_, item, ⟨⟩, listed, deeper⟩ := at?_index.1 leads
      exact each item (List.mem_of_getElem? listed) rest members deeper

/-- Keys are distinct in an object if its own are and they are in its values. -/
theorem of_members {members : Members} (distinct : members.keys.Nodup)
    (each : ∀ key value, members.find? key = some value → value.KeysDistinct) :
    (object members).KeysDistinct := by
  intro path inner leads
  cases path with
  | nil =>
    cases leads
    exact distinct
  | cons step rest =>
    cases step with
    | index i => cases leads
    | key name =>
      obtain ⟨_, value, ⟨⟩, found, deeper⟩ := at?_key.1 leads
      exact each name value found rest inner deeper

/-- Nothing is inside a value that is neither a list nor an object. -/
theorem of_scalar (bare : ∀ members, value ≠ .object members)
    (closed : ∀ step, value.step? step = none) : value.KeysDistinct := by
  intro path members leads
  cases path with
  | nil => exact absurd (Option.some.inj leads) (bare members)
  | cons step rest =>
    rw [Json.at?, List.foldlM_cons, closed] at leads
    cases leads

theorem null : null.KeysDistinct :=
  of_scalar (by simp) fun _ => rfl

theorem boolean (value : Bool) : (boolean value).KeysDistinct :=
  of_scalar (by simp) fun _ => rfl

theorem number (value : Number) : (number value).KeysDistinct :=
  of_scalar (by simp) fun _ => rfl

theorem string (value : String) : (string value).KeysDistinct :=
  of_scalar (by simp) fun _ => rfl

/-- An object without members has no key twice. -/
theorem empty : (object []).KeysDistinct :=
  of_members List.nodup_nil fun _ _ none => by cases none

/-- A value that is put under a key leaves the keys of an object distinct. -/
theorem put {members : Members} {key : String} {value : Json}
    (distinct : (object members).KeysDistinct) (held : value.KeysDistinct) :
    (object (members.put key value)).KeysDistinct := by
  apply of_members (Members.nodup_keys_put distinct.keys key value)
  intro name inner found
  rw [Members.find?_put] at found
  split at found
  · cases found
    exact held
  · exact distinct.member found

end KeysDistinct

/-- Reading goes on exactly when there is something to go on with. -/
theorem bind_eq_ok_iff {ε α β : Type} {first : Except ε α} {next : α → Except ε β} {result : β} :
    (first >>= next) = .ok result ↔ ∃ value, first = .ok value ∧ next value = .ok result := by
  cases first <;> simp [bind, Except.bind]

end

namespace Reader

section

variable {found : Json} {text rest : List Char}

theorem keysDistinct_literal {word : List Char} {value : Json} (plain : value.KeysDistinct)
    (read : literal word value text = .ok (found, rest)) : found.KeysDistinct := by
  obtain ⟨_, -, same⟩ := bind_eq_ok_iff.1 read
  cases same
  exact plain

theorem keysDistinct_number {negative : Bool}
    (read : number negative text = .ok (found, rest)) : found.KeysDistinct := by
  obtain ⟨_, -, read⟩ := bind_eq_ok_iff.1 read
  obtain ⟨_, -, read⟩ := bind_eq_ok_iff.1 read
  obtain ⟨_, -, read⟩ := bind_eq_ok_iff.1 read
  dsimp only at read
  split at read <;> cases read
  exact .number _

end

mutual

/-- A value that is read has no object with a key twice. -/
theorem keysDistinct_value : ∀ (bound levels : Nat) {text rest : List Char} {found : Json},
    value bound levels text = .ok (found, rest) → found.KeysDistinct
  | 0, _, _, _, _, read => by
    rw [value] at read
    cases read
  | bound + 1, levels, text, _, _, read => by
    rw [value] at read
    split at read
    · cases read
    · split_ifs at read
      · exact keysDistinct_literal .null read
      · exact keysDistinct_literal (.boolean true) read
      · exact keysDistinct_literal (.boolean false) read
      · exact keysDistinct_number read
      · exact keysDistinct_number read
      · obtain ⟨_, -, same⟩ := bind_eq_ok_iff.1 read
        cases same
        exact .string _
      · cases levels with
        | zero => cases read
        | succ levels =>
          obtain ⟨_, items, same⟩ := bind_eq_ok_iff.1 read
          cases same
          exact .of_items (keysDistinct_list bound levels items)
      · cases levels with
        | zero => cases read
        | succ levels =>
          obtain ⟨_, members, same⟩ := bind_eq_ok_iff.1 read
          cases same
          exact keysDistinct_object bound levels members

/-- The items of a list that is read have none. -/
theorem keysDistinct_list : ∀ (bound levels : Nat) {text rest : List Char} {found : List Json},
    list bound levels text = .ok (found, rest) → ∀ item ∈ found, item.KeysDistinct
  | 0, _, _, _, _, read => by
    rw [list] at read
    cases read
  | bound + 1, levels, text, _, _, read => by
    rw [list] at read
    split at read
    · cases read
    · split_ifs at read
      · cases read
        exact List.forall_mem_nil _
      · obtain ⟨_, first, read⟩ := bind_eq_ok_iff.1 read
        obtain ⟨_, more, same⟩ := bind_eq_ok_iff.1 read
        cases same
        exact List.forall_mem_cons.2
          ⟨keysDistinct_value bound levels first, keysDistinct_moreItems bound levels more⟩

/-- The later items of a list that is read have none. -/
theorem keysDistinct_moreItems : ∀ (bound levels : Nat) {text rest : List Char}
    {found : List Json}, moreItems bound levels text = .ok (found, rest) →
      ∀ item ∈ found, item.KeysDistinct
  | 0, _, _, _, _, read => by
    rw [moreItems] at read
    cases read
  | bound + 1, levels, text, _, _, read => by
    rw [moreItems] at read
    split at read
    · cases read
    · split_ifs at read
      · cases read
        exact List.forall_mem_nil _
      · split at read
        · cases read
        · split_ifs at read
          obtain ⟨_, item, read⟩ := bind_eq_ok_iff.1 read
          obtain ⟨_, more, same⟩ := bind_eq_ok_iff.1 read
          cases same
          exact List.forall_mem_cons.2
            ⟨keysDistinct_value bound levels item, keysDistinct_moreItems bound levels more⟩

/-- An object that is read has no key twice, and its values have no such object. -/
theorem keysDistinct_object : ∀ (bound levels : Nat) {text rest : List Char} {found : Members},
    object bound levels text = .ok (found, rest) → (Json.object found).KeysDistinct
  | 0, _, _, _, _, read => by
    rw [object] at read
    cases read
  | bound + 1, levels, text, _, _, read => by
    rw [object] at read
    split at read
    · cases read
    · split_ifs at read
      · cases read
        exact .empty
      · obtain ⟨_, -, read⟩ := bind_eq_ok_iff.1 read
        obtain ⟨_, item, read⟩ := bind_eq_ok_iff.1 read
        exact keysDistinct_moreMembers bound levels
          (KeysDistinct.empty.put (keysDistinct_value bound levels item)) read

/-- The later members leave the keys of an object distinct. -/
theorem keysDistinct_moreMembers : ∀ (bound levels : Nat) {text rest : List Char}
    {earlier found : Members}, (Json.object earlier).KeysDistinct →
      moreMembers bound levels earlier text = .ok (found, rest) →
        (Json.object found).KeysDistinct
  | 0, _, _, _, _, _, _, read => by
    rw [moreMembers] at read
    cases read
  | bound + 1, levels, text, _, _, _, distinct, read => by
    rw [moreMembers] at read
    split at read
    · cases read
    · split_ifs at read
      · cases read
        exact distinct
      · split at read
        · cases read
        · split_ifs at read
          obtain ⟨_, -, read⟩ := bind_eq_ok_iff.1 read
          obtain ⟨_, item, read⟩ := bind_eq_ok_iff.1 read
          exact keysDistinct_moreMembers bound levels
            (distinct.put (keysDistinct_value bound levels item)) read

end

end Reader

/-- A text denotes no value with an object that has a key twice. -/
theorem keysDistinct_read {text : String} {value : Json} (read : read text = .ok value) :
    value.KeysDistinct := by
  rw [Json.read] at read
  split at read
  · next document =>
    cases read
    obtain ⟨_, held, rest⟩ := bind_eq_ok_iff.1 document
    dsimp only at rest
    split at rest <;> cases rest
    exact Reader.keysDistinct_value _ _ held
  · cases read

end ChartScript.Json
