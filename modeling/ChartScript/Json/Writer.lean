import ChartScript.Json.Basic

/-!
# Writing JSON text

The spread-out form of lists of flat objects: two spaces per level, one item or member on a line,
a blank after each colon, and `[]` for an empty list. Inside strings only the quote, the backslash
and the controls are escaped; five controls have a letter, the others four hexadecimal digits.
-/

namespace ChartScript.Json.Writer

/-- A character inside a JSON string. -/
def escaped (c : Char) : List Char :=
  if c = '"' ∨ c = '\\' then ['\\', c]
  else if c = '\x08' then ['\\', 'b']
  else if c = '\x0c' then ['\\', 'f']
  else if c = '\n' then ['\\', 'n']
  else if c = '\r' then ['\\', 'r']
  else if c = '\t' then ['\\', 't']
  else if c.toNat < 0x20 then
    ['\\', 'u', '0', '0', Nat.digitChar (c.toNat / 16), Nat.digitChar (c.toNat % 16)]
  else [c]

/-- A JSON string. -/
def string (text : String) : List Char :=
  '"' :: text.toList.flatMap escaped ++ ['"']

/-- The line of one member, below an object of a list. -/
def memberLine (key text : String) : List Char :=
  "\n    ".toList ++ string key ++ ": ".toList ++ string text

/-- An object of texts, as an item of a list. -/
def record (fields : List (String × String)) : List Char :=
  "\n  \x7b".toList ++ [','].intercalate (fields.map fun field => memberLine field.1 field.2) ++
    "\n  \x7d".toList

/-- A list of objects of texts, each of which has a member. -/
def records (items : List (List (String × String))) : String :=
  if items.isEmpty then "[]"
  else String.ofList ('[' :: [','].intercalate (items.map record) ++ ['\n', ']'])

end ChartScript.Json.Writer
