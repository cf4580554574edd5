import ChartScript.Json.Fault
import ChartScript.Text.Lines
import ChartScript.Text.Numerals

/-!
# Universally unique identifiers

A 128-bit value with four spellings: thirty-two hexadecimal digits, the same digits in five groups
joined by hyphens, the grouped form in braces, and the grouped form as a resource name. The fault
of a text that is none of them is found by a second look: first at its length, then at its
characters, then at its groups. Lengths and places are counted in bytes.
-/

namespace ChartScript

/-- A 128-bit identifier. -/
structure Uuid where
  /-- The bits. -/
  value : BitVec 128
  deriving DecidableEq

namespace Uuid

/-- Why a text spells no identifier. -/
inductive Fault where
  /-- No spelling has this many bytes. -/
  | length (found : Nat)
  /-- A character that no spelling has, and its place. -/
  | character (found : Char) (place : Nat)
  /-- The hyphens make this many groups. -/
  | groupCount (found : Nat)
  /-- A group has the wrong length. -/
  | groupLength (group expected found : Nat)
  deriving DecidableEq, Repr

/-- The wording of a fault. -/
def Fault.message : Fault → String
  | .length found => "invalid length: found " ++ toString found
  | .character found place =>
    "invalid character: found `" ++ found.toString ++ "` at " ++ toString place
  | .groupCount found => "invalid group count: expected 5, found " ++ toString found
  | .groupLength group expected found =>
    "invalid group length in group " ++ toString group ++ ": expected " ++ toString expected ++
      ", found " ++ toString found

/-- The start of a resource name. -/
def resourceLead : List Char := "urn:uuid:".toList

/-- The lengths of the groups between the hyphens. -/
def groupLengths : List Nat := [8, 4, 4, 4, 12]

/-- The text between braces. -/
def unbraced? (text : List Char) : Option (List Char) :=
  match text with
  | '\x7b' :: rest => if rest.getLast? = some '\x7d' then some rest.dropLast else none
  | _ => none

/-- The text after a resource lead of either case. -/
def unnamed? (text : List Char) : Option (List Char) :=
  if (text.take 9).map Char.toLower = resourceLead then some (text.drop 9) else none

/-- What is looked at: the text without a wrapping of the right length, and whether its length
promises groups. -/
def unwrap (text : List Char) : List Char × Bool :=
  let size := Json.byteCount text
  let wrapped := if size = 38 then unbraced? text else if size = 45 then unnamed? text else none
  match wrapped with
  | some inner => (inner, true)
  | none => (text, size = 36)

/-- The digits of a spelling, if it is one. -/
def figures? (text : List Char) (grouped : Bool) : Option (List Char) :=
  let groups := Text.pieces '-' text
  let lengths := if grouped then groupLengths else [32]
  if groups.map List.length = lengths ∧ groups.all (·.all Text.isHex) then some groups.flatten
  else none

/-- The identifier with these hexadecimal digits. -/
def ofFigures (figures : List Char) : Uuid :=
  ⟨.ofNat 128 (figures.foldl (fun total c => total * 16 + (Text.hexValue? c).getD 0) 0)⟩

/-- The first character that is neither a digit nor a hyphen, with its place. -/
def firstForeign? (text : List Char) : Option (Char × Nat) :=
  match text.dropWhile fun c => Text.isHex c || c == '-' with
  | [] => none
  | c :: rest => some (c, Json.byteCount text - Json.byteCount (c :: rest))

/-- The first of the four places where a group ends too early or too late. -/
def groupFault? : Nat → List Nat → List Nat → Option Fault
  | group, expected :: promised, found :: lengths =>
    if found = expected then groupFault? (group + 1) promised lengths
    else some (.groupLength group expected found)
  | _, _, _ => none

/-- What is wrong with a text that is no spelling; `wrapped` tells that it stands in braces or
after a resource lead of the wrong length, `start` where it begins, and `size` how long it is with
them. -/
def faultOf (examined : List Char) (plain : Bool) (start size : Nat) : Fault :=
  match firstForeign? examined with
  | some (found, place) => .character found (place + start)
  | none =>
    let lengths := (Text.pieces '-' examined).map List.length
    if plain ∧ lengths.length = 1 then .length size
    else if lengths.length ≠ 5 then .groupCount lengths.length
    else (groupFault? 0 (groupLengths.take 4) lengths).getD (.groupLength 4 12 (size - 24))

/-- The fault of a text that was looked at. -/
def fault (looked : List Char) (grouped : Bool) : Fault :=
  let size := Json.byteCount looked
  if size = 0 ∨ 45 < size then .length size
  else if grouped then faultOf looked false 0 size
  else
    match unbraced? looked with
    | some inner => faultOf inner false 1 size
    | none =>
      match unnamed? looked with
      | some inner => faultOf inner false 9 size
      | none => faultOf looked true 0 size

/-- The identifier that a text spells, or why it spells none. -/
def read (text : String) : Except Fault Uuid :=
  let (looked, grouped) := unwrap text.toList
  match figures? looked grouped with
  | some figures => .ok (ofFigures figures)
  | none => .error (fault looked grouped)

/-- Cuts digits into groups of the given lengths. -/
def cut : List Nat → List Char → List (List Char)
  | [], _ => []
  | length :: more, figures => figures.take length :: cut more (figures.drop length)

/-- The grouped spelling in lower case. -/
def toText (id : Uuid) : String :=
  String.ofList (['-'].intercalate (cut groupLengths (Text.padded 16 32 id.value.toNat)))

end Uuid

end ChartScript
