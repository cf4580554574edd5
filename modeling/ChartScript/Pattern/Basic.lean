import ChartScript.Pattern.Bracket
import ChartScript.Text.Letter

/-!
# Search patterns

A text is a search pattern when it can be read as one: alternatives of items in a row, where an
item is a character, a class, a place, or a group in parentheses, and may be repeated. Nothing is
searched here. The patterns are those that stand between braces, so they hold no closing brace,
and an opening brace that would need one makes a text no pattern. A search goes through the text
once and byte by byte, which is why the edges of words are known among ASCII characters alone.
-/

namespace ChartScript.Pattern

/-- What has been read of alternatives. -/
structure Reading where
  /-- How the pattern is read on. -/
  mode : Mode
  /-- The names of the groups so far. -/
  names : List (List Char)
  /-- The nesting of each item of the last alternative, the latest first; `none` for a change of
  the mode, which cannot be repeated. -/
  items : List (Option Nat)
  /-- The nesting of each alternative before the last. -/
  branches : List Nat
  deriving DecidableEq

namespace Reading

/-- Nothing yet. -/
def start (mode : Mode) (names : List (List Char)) : Reading := ⟨mode, names, [], []⟩

/-- The nesting of the last alternative. -/
def branch (reading : Reading) : Nat := joined (reading.items.map (·.getD 0))

/-- The nesting of all alternatives. -/
def depth (reading : Reading) : Nat := joined (reading.branch :: reading.branches)

/-- One more item. -/
def push (reading : Reading) (depth : Nat) : Reading :=
  { reading with items := some depth :: reading.items }

/-- The latest item repeated, if there is one that can be. -/
def repeated? (reading : Reading) : Option Reading :=
  match reading.items with
  | some depth :: earlier => some { reading with items := some (depth + 1) :: earlier }
  | _ => none

/-- A change of the mode. -/
def change (reading : Reading) (mode : Mode) : Reading :=
  { reading with mode := mode, items := none :: reading.items }

/-- The start of another alternative. -/
def alternate (reading : Reading) : Reading :=
  { reading with items := [], branches := reading.branch :: reading.branches }

/-- A group that was read inside. -/
def enclose (reading inner : Reading) : Reading :=
  { reading with names := inner.names, items := some (inner.depth + 1) :: reading.items }

end Reading

/-- The letters of the flags. -/
def flagLetters : List Char := ['i', 'm', 's', 'U', 'u', 'R', 'x']

/-- The mode after a flag was set or cleared. -/
def Mode.after (mode : Mode) (flag : Char) (value : Bool) : Mode :=
  if flag = 'x' then { mode with loose := value }
  else if flag = 'u' then { mode with wide := value }
  else mode

/-- Reads flags up to a colon or a closing parenthesis, each at most once; those after a hyphen
are cleared. A hyphen needs a flag behind it, and a parenthesis a flag before it. -/
def flags? (mode : Mode) (seen : List Char) : List Char → Option (Mode × Char × List Char)
  | [] => none
  | c :: rest =>
    if c = ':' then if seen.head? = some '-' then none else some (mode, c, rest)
    else if c = ')' then
      if seen.isEmpty ∨ seen.head? = some '-' then none else some (mode, c, rest)
    else if seen.contains c then none
    else if c = '-' then flags? mode (c :: seen) rest
    else if flagLetters.contains c then
      flags? (mode.after c !(seen.contains '-')) (c :: seen) rest
    else none

/-- A text can name a group. -/
def isGroupName : List Char → Bool
  | [] => false
  | first :: more =>
    (first == '_' || Text.isLetter first) &&
      more.all fun c => ['_', '.', '[', ']'].contains c || Text.isLetterOrNumber c

/-- Reads the name of a group up to the closing angle bracket; no two groups have the same. -/
def groupName? (names : List (List Char)) (text : List Char) : Option (List Char × List Char) :=
  let name := text.takeWhile (· != '>')
  match text.dropWhile (· != '>') with
  | '>' :: rest => if isGroupName name && !names.contains name then some (name, rest) else none
  | _ => none

/-- What an opening parenthesis starts. -/
inductive Opening where
  /-- A change of the mode, which ends at once. -/
  | flags (mode : Mode)
  /-- A group, with what is known inside it. -/
  | group (inner : Reading)

/-- Reads what follows an opening parenthesis, up to the inside of the group. -/
def opening? (reading : Reading) (text : List Char) : Option (Opening × List Char) :=
  let named := fun rest =>
    (groupName? reading.names rest).map fun (name, rest) =>
      (.group (.start reading.mode (name :: reading.names)), rest)
  match reading.mode.skip text with
  | '?' :: 'P' :: '<' :: rest => named rest
  | '?' :: '<' :: rest => named rest
  | '?' :: rest =>
    (flags? reading.mode [] rest).map fun (mode, close, rest) =>
      if close = ':' then (.group (.start mode reading.names), rest) else (.flags mode, rest)
  | rest => some (.group (.start reading.mode reading.names), rest)

/-- The text after a repetition's sign; a question mark behind it belongs to it. -/
def afterSign (text : List Char) : List Char :=
  if text.head? = some '?' then text.drop 1 else text

/-- Reads alternatives up to a closing parenthesis or the end, and gives the rest. The first
argument bounds the steps. -/
def alternatives? : Nat → Reading → List Char → Option (Reading × List Char)
  | 0, _, _ => none
  | steps + 1, reading, text =>
    match reading.mode.skip text with
    | [] => some (reading, [])
    | ')' :: rest => some (reading, ')' :: rest)
    | '|' :: rest => alternatives? steps reading.alternate rest
    | '(' :: rest =>
      match opening? reading rest with
      | none => none
      | some (.flags mode, rest) => alternatives? steps (reading.change mode) rest
      | some (.group inner, rest) =>
        match alternatives? steps inner rest with
        | some (inner, ')' :: rest) => alternatives? steps (reading.enclose inner) rest
        | _ => none
    | '[' :: rest =>
      match (opened? reading.mode rest).bind (bracket? steps reading.mode .empty) with
      | some (depth, rest) => alternatives? steps (reading.push (depth + 1)) rest
      | none => none
    | '\\' :: rest =>
      match escape? reading.mode rest with
      | some (_, rest) => alternatives? steps (reading.push 0) rest
      | none => none
    | '.' :: rest => if reading.mode.wide then alternatives? steps (reading.push 0) rest else none
    | c :: rest =>
      if ['*', '+', '?'].contains c then
        match reading.repeated? with
        | some reading => alternatives? steps reading (afterSign rest)
        | none => none
      else if c = '\x7b' then none
      else alternatives? steps (reading.push 0) rest

/-- The deepest nesting of a pattern. -/
def deepest : Nat := 250

/-- A text is a search pattern. -/
def isPattern (text : List Char) : Bool :=
  match alternatives? (text.length + 1) (.start .standard []) text with
  | some (reading, []) => reading.depth ≤ deepest
  | _ => false

end ChartScript.Pattern
