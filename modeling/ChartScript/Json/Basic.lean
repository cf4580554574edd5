import ChartScript.Number.Binary64

/-!
# JSON values

Numbers come in two kinds: integers that fit 64 bits, signed or unsigned, and finite binary64
numbers. Objects are lists of members and keep the order in which the keys were first met; `put`
is the only way the reader builds them, so no key of a value that was read occurs twice.
-/

namespace ChartScript

/-- A JSON number. -/
inductive Json.Number where
  /-- An integer that fits in 64 bits, signed or unsigned. -/
  | integer (value : Int) (fits : -0x8000000000000000 ≤ value ∧ value ≤ 0xFFFFFFFFFFFFFFFF)
  /-- Any other number. -/
  | float (value : Binary64)
  deriving DecidableEq

/-- A JSON value. -/
inductive Json where
  /-- The value `null`. -/
  | null
  /-- A truth value. -/
  | boolean (value : Bool)
  /-- A number. -/
  | number (value : Json.Number)
  /-- A text. -/
  | string (value : String)
  /-- A list of values. -/
  | array (items : List Json)
  /-- A list of members, each a key and a value. -/
  | object (members : List (String × Json))

namespace Json

instance : Inhabited Json := ⟨.null⟩

/-- The members of an object. -/
abbrev Members := List (String × Json)

/-- The value is `null`. -/
def isNull : Json → Bool
  | .null => true
  | _ => false

/-- The text of a string. -/
def text? : Json → Option String
  | .string value => some value
  | _ => none

namespace Members

/-- The keys in order. -/
def keys (members : Members) : List String := members.map Prod.fst

/-- The value under a key. -/
def find? : Members → String → Option Json
  | [], _ => none
  | (name, value) :: rest, key => if name = key then some value else find? rest key

/-- The members with a value under a key: a key that is there keeps its place and takes the new
value, a new one goes to the end. -/
def put : Members → String → Json → Members
  | [], key, value => [(key, value)]
  | (name, old) :: rest, key, value =>
    if name = key then (name, value) :: rest else (name, old) :: put rest key value

/-- Putting a value leaves the keys as they are or adds one at the end. -/
theorem keys_put (members : Members) (key : String) (value : Json) :
    (members.put key value).keys =
      if key ∈ members.keys then members.keys else members.keys ++ [key] := by
  induction members with
  | nil => simp [put, keys]
  | cons member rest ih =>
    obtain ⟨name, old⟩ := member
    by_cases h : name = key
    · simp [put, keys, h]
    · have h' : ¬ key = name := fun e => h e.symm
      simp only [keys] at ih
      by_cases known : key ∈ List.map Prod.fst rest
      · simp [put, keys, h, h', ih, known]
      · simp [put, keys, h, h', ih, known]

/-- Putting a value keeps the keys distinct. -/
theorem nodup_keys_put {members : Members} (distinct : members.keys.Nodup) (key : String)
    (value : Json) : (members.put key value).keys.Nodup := by
  rw [keys_put]
  split
  · exact distinct
  · rename_i absent
    exact List.nodup_append.2 ⟨distinct, by simp, by simp; rintro _ h rfl; exact absent h⟩

/-- A key has a value exactly when it is one of the keys. -/
theorem find?_eq_none_iff {members : Members} {key : String} :
    members.find? key = none ↔ key ∉ members.keys := by
  induction members with
  | nil => simp [find?, keys]
  | cons member rest ih =>
    obtain ⟨name, value⟩ := member
    by_cases h : name = key
    · simp [find?, keys, h]
    · have h' : ¬ key = name := fun e => h e.symm
      simpa [find?, keys, h, h'] using ih

end Members

end Json

end ChartScript
