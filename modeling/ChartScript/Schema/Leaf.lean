import ChartScript.Refusal
import ChartScript.Schema.Basic

/-!
# Schemas of single values

Texts, numbers, truth values, unique identifiers, names and members of closed sets. A member of a
closed set is given by its label, or by an object whose only key is the label and whose value is
`null`.
-/

namespace ChartScript

/-- A closed set of values with labels. -/
class ClosedSet (α : Type) where
  /-- The values in the order in which they are listed. -/
  members : List α
  /-- The label of a value. -/
  label : α → String
  /-- The value that stands for an absent one. -/
  standard : α

namespace ClosedSet

variable {α : Type} [ClosedSet α]

/-- The labels in order. -/
def labels (α : Type) [ClosedSet α] : List String := (members (α := α)).map label

/-- The value with a label. -/
def ofLabel? (text : String) : Option α :=
  members.find? fun value => label value == text

end ClosedSet

namespace Schema

/-- The problem of a leaf of the wrong type. -/
def wrongType (value : Json) (expected : Expected) : Problem :=
  .mismatch (.ofJson value) expected

/-- Reads a text. -/
def readText : Json → Except Problem String
  | .string value => .ok value
  | value => .error (wrongType value .text)

/-- Reads a number; an integer becomes the nearest binary64 number. -/
def readFloat : Json → Except Problem Binary64
  | .number (.integer value _) => .ok (.ofInt value)
  | .number (.float value) => .ok value
  | value => .error (wrongType value .float)

/-- Reads a truth value. -/
def readBoolean : Json → Except Problem Bool
  | .boolean value => .ok value
  | value => .error (wrongType value .boolean)

/-- Reads a unique identifier. -/
def readUuid : Json → Except Problem Uuid
  | .string value =>
    match Uuid.read value with
    | .ok id => .ok id
    | .error fault => .error (.uuid fault)
  | value => .error (wrongType value .uuid)

/-- Whole floats count as integers below this size, a one with 53 zero bits; from there on not every
integer is a float. -/
def wholeFloatLimit : Nat := 0x20000000000000

/-- Reads a positive whole number. A float without a fraction counts when it is below the limit. -/
def readPositive (value : Json) : Except Problem Nat :=
  let whole? : Option Int :=
    match value with
    | .number (.integer n _) => some n
    | .number (.float x) => x.toInt?.filter fun n => n.natAbs < wholeFloatLimit
    | _ => none
  match whole? with
  | some n => if n ≤ 0 then .error .notPositive else .ok n.toNat
  | none => .error (wrongType value .size)

/-- Reads the label of a member of a closed set. -/
def readLabel (α : Type) [ClosedSet α] (text : String) : Except Problem α :=
  match ClosedSet.ofLabel? text with
  | some choice => .ok choice
  | none => .error (.unknownChoice text (ClosedSet.labels α))

/-- Reads a member of a closed set, by its label or as the only key of an object. -/
def readChoice (α : Type) [ClosedSet α] : Json → Except Problem α
  | .string text => readLabel α text
  | .object [(key, value)] =>
    match readLabel α key with
    | .error problem => .error problem
    | .ok choice => if value.isNull then .ok choice else .error (wrongType value .unit)
  | .object _ => .error .manyKeys
  | value => .error (wrongType value .choice)

/-- Reads a name of a namespace. -/
def readName (space : Namespace) (value : Json) : Except Problem (Identifier space) :=
  match readText value with
  | .error problem => .error problem
  | .ok raw =>
    match Identifier.sanitize space raw with
    | .ok name => .ok name
    | .error (.refusedName raw) => .error (.refusedName space raw)
    | .error refusal => .error (.remark .shape refusal.message)

/-- A text. -/
def text : Schema String := .leaf readText

/-- A number. -/
def float : Schema Binary64 := .leaf readFloat

/-- A truth value. -/
def boolean : Schema Bool := .leaf readBoolean

/-- A unique identifier. -/
def uuid : Schema Uuid := .leaf readUuid

/-- A positive whole number. -/
def positive : Schema Nat := .leaf readPositive

/-- A member of a closed set. -/
def choice (α : Type) [ClosedSet α] : Schema α := .leaf (readChoice α)

/-- A name of a namespace. -/
def name (space : Namespace) : Schema (Identifier space) := .leaf (readName space)

end Schema

namespace Fields

/-- A further field with a member of a closed set, the standard one if it is absent or `null`. -/
def chosen {α β : Type} [ClosedSet α] (before : Fields (α → β)) (key : String) : Fields β :=
  before.defaulted key (.choice α) ClosedSet.standard

end Fields

end ChartScript
