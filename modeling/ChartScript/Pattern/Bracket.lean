import ChartScript.Pattern.Escape

/-!
# Bracketed classes in search patterns

Square brackets hold a class of characters: single characters, ranges, classes by name, and other
bracketed classes, joined or combined by the operators `&&`, `--` and `~~`. A reader of a class
tells where it ends and how deep it is nested.
-/

namespace ChartScript.Pattern

/-- The nesting of parts that stand side by side: one part alone adds nothing to its own. -/
def joined (depths : List Nat) : Nat :=
  match depths with
  | [] => 0
  | [depth] => depth
  | depths => depths.foldr max 0 + 1

/-- What has been read of a bracketed class. -/
structure Bracket where
  /-- Only hyphens have been read. -/
  fresh : Bool
  /-- The nesting of each member since the last operator. -/
  members : List Nat
  /-- The nesting of what stands before the last operator. -/
  operand : Option Nat
  deriving DecidableEq

namespace Bracket

/-- Nothing yet. -/
def empty : Bracket := ⟨true, [], none⟩

/-- One more member. -/
def add (bracket : Bracket) (fresh : Bool) (depth : Nat) : Bracket :=
  ⟨fresh, depth :: bracket.members, bracket.operand⟩

/-- The nesting of all that has been read. -/
def depth (bracket : Bracket) : Nat :=
  match bracket.operand with
  | none => joined bracket.members
  | some operand => max operand (joined bracket.members) + 1

/-- An operator after what has been read. -/
def operate (bracket : Bracket) : Bracket := ⟨false, [], some bracket.depth⟩

end Bracket

/-- The names of the classes of ASCII characters. -/
def asciiClasses : List String :=
  ["alnum", "alpha", "ascii", "blank", "cntrl", "digit", "graph", "lower", "print", "punct",
    "space", "upper", "word", "xdigit"]

/-- Reads a class by name after its opening bracket; a circumflex asks for its complement. -/
def asciiClass? (text : List Char) : Option (Bool × List Char) :=
  match text with
  | ':' :: rest =>
    let complement := rest.head? == some '^'
    let rest := if complement then rest.drop 1 else rest
    match rest.dropWhile (· != ':') with
    | ':' :: ']' :: after =>
      if asciiClasses.contains (String.ofList (rest.takeWhile (· != ':'))) then
        some (complement, after)
      else none
    | _ => none
  | _ => none

/-- Reads a member, which may be the start of a range. -/
def member? (mode : Mode) (text : List Char) : Option (Piece × List Char) :=
  match text with
  | [] => none
  | '\\' :: rest => escape? mode rest
  | c :: rest => some (.char c, rest)

/-- A member may stand in a class: it is no place, and no character that is more than a byte where
the text is searched by bytes. -/
def Mode.admits (mode : Mode) : Piece → Bool
  | .char c => mode.wide || c.toNat < 0x80
  | .charClass => true
  | .place => false

/-- The character that is taken to follow a hyphen: blanks and a first number sign do not count
where comments do not. -/
def Mode.following? (mode : Mode) (text : List Char) : Option Char :=
  if mode.loose then
    match text.dropWhile Text.isBlank with
    | '#' :: rest => (rest.dropWhile Text.isBlank).head?
    | rest => rest.head?
  else text.head?

/-- Reads a member or a range from one character to another, and gives the rest. -/
def range? (mode : Mode) (text : List Char) : Option (List Char) := do
  let (first, rest) ← member? mode text
  match mode.skip rest with
  | '-' :: after =>
    if [some ']', some '-'].contains (mode.following? after) then
      if mode.admits first then some ('-' :: after) else none
    else
      let (last, rest) ← member? mode (mode.skip after)
      match first, last with
      | .char low, .char high =>
        if low ≤ high ∧ mode.admits first ∧ mode.admits last then some rest else none
      | _, _ => none
  | rest => if mode.admits first then some rest else none

/-- What stands inside an opening bracket, after a circumflex if there is one. The complement that
it asks for holds more than single bytes. -/
def opened? (mode : Mode) (text : List Char) : Option (List Char) :=
  match mode.skip text with
  | '^' :: inner => if mode.wide then some inner else none
  | inner => some inner

/-- Reads a bracketed class up to its closing bracket, and gives its nesting and the rest. The
first argument bounds the steps. A closing bracket in the first place is a member. -/
def bracket? : Nat → Mode → Bracket → List Char → Option (Nat × List Char)
  | 0, _, _, _ => none
  | steps + 1, mode, bracket, text =>
    match mode.skip text, bracket.fresh, bracket.members with
    | [], _, _ => none
    | '-' :: rest, true, _ => bracket? steps mode (bracket.add true 0) rest
    | ']' :: rest, true, [] => bracket? steps mode (bracket.add false 0) rest
    | ']' :: rest, _, _ => some (bracket.depth, rest)
    | '[' :: rest, _, _ =>
      match asciiClass? rest, opened? mode rest with
      | some (complement, rest), _ =>
        if complement && !mode.wide then none
        else bracket? steps mode (bracket.add false 0) rest
      | none, none => none
      | none, some inner =>
        match bracket? steps mode .empty inner with
        | some (depth, rest) => bracket? steps mode (bracket.add false (depth + 1)) rest
        | none => none
    | '&' :: '&' :: rest, _, _ => bracket? steps mode bracket.operate rest
    | '-' :: '-' :: rest, _, _ => bracket? steps mode bracket.operate rest
    | '~' :: '~' :: rest, _, _ => bracket? steps mode bracket.operate rest
    | text, _, _ =>
      match range? mode text with
      | some rest => bracket? steps mode (bracket.add false 0) rest
      | none => none

end ChartScript.Pattern
