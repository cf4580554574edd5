/-!
# Faults of a JSON text

A fault is what the reader could not accept and how much of the text it had left. Places are
counted in bytes of the UTF-8 form: the reader keeps the number of bytes after the place, from
which `Position.before` finds the line and the column once the whole text is at hand.
-/

namespace ChartScript.Json

/-- What a reader of JSON text can stumble over. -/
inductive FaultKind where
  /-- The text ends where a value is due. -/
  | endInValue
  /-- The text ends inside a list. -/
  | endInList
  /-- The text ends inside an object. -/
  | endInObject
  /-- The text ends inside a string. -/
  | endInString
  /-- A list goes on with neither a comma nor its end. -/
  | listSeparator
  /-- An object goes on with neither a comma nor its end. -/
  | objectSeparator
  /-- A key is not followed by a colon. -/
  | colon
  /-- A word that starts like a literal is none. -/
  | literal
  /-- Nothing that can start a value. -/
  | value
  /-- An escape that is none. -/
  | escape
  /-- A number that is not well formed. -/
  | number
  /-- A number too large for a finite binary64. -/
  | range
  /-- A control character inside a string. -/
  | control
  /-- A key that is no string. -/
  | key
  /-- Half of a surrogate pair. -/
  | surrogate
  /-- A high half that is not followed by a second escape. -/
  | surrogateEnd
  /-- A comma before the end of a list or an object. -/
  | trailingComma
  /-- Something after the document. -/
  | trailing
  /-- Too many levels of lists and objects. -/
  | depth
  deriving DecidableEq, Repr

/-- The wording of a fault. -/
def FaultKind.message : FaultKind → String
  | .endInValue => "EOF while parsing a value"
  | .endInList => "EOF while parsing a list"
  | .endInObject => "EOF while parsing an object"
  | .endInString => "EOF while parsing a string"
  | .listSeparator => "expected `,` or `]`"
  | .objectSeparator => "expected `,` or `\x7d`"
  | .colon => "expected `:`"
  | .literal => "expected ident"
  | .value => "expected value"
  | .escape => "invalid escape"
  | .number => "invalid number"
  | .range => "number out of range"
  | .control => "control character (\\u0000-\\u001F) found while parsing a string"
  | .key => "key must be a string"
  | .surrogate => "lone leading surrogate in hex escape"
  | .surrogateEnd => "unexpected end of hex escape"
  | .trailingComma => "trailing comma"
  | .trailing => "trailing characters"
  | .depth => "recursion limit exceeded"

/-- The number of bytes of a text. -/
def byteCount (text : List Char) : Nat := text.foldr (fun c bytes => c.utf8Size + bytes) 0

/-- A fault and the number of bytes after its place. -/
structure Fault where
  /-- What is wrong. -/
  kind : FaultKind
  /-- The bytes of the text that lie after the place. -/
  unread : Nat
  deriving DecidableEq, Repr

namespace Fault

/-- A fault right before the rest of the text. -/
def here (kind : FaultKind) (rest : List Char) : Fault := ⟨kind, byteCount rest⟩

/-- A fault after the next byte of the rest, or at the end of the text. -/
def next (kind : FaultKind) (rest : List Char) : Fault := ⟨kind, byteCount rest - 1⟩

end Fault

/-- A line, counted from one, and the number of bytes before the place on that line. -/
structure Position where
  /-- The line, from one. -/
  line : Nat
  /-- The bytes of the line before the place. -/
  column : Nat
  deriving DecidableEq, Repr

namespace Position

/-- Walks a number of bytes into a text; a place inside a character counts its first bytes. -/
def advance (start : Position) : Nat → List Char → Position
  | _, [] => start
  | 0, _ => start
  | bytes + 1, c :: rest =>
    if c = '\n' then advance ⟨start.line + 1, 0⟩ bytes rest
    else
      let step := min c.utf8Size (bytes + 1)
      advance ⟨start.line, start.column + step⟩ (bytes + 1 - step) rest

/-- The place that has a number of bytes of the text after it. -/
def before (text : List Char) (unread : Nat) : Position :=
  advance ⟨1, 0⟩ (byteCount text - unread) text

end Position

/-- A fault with its place in a text. -/
structure PlacedFault where
  /-- What is wrong. -/
  kind : FaultKind
  /-- Where. -/
  position : Position
  deriving DecidableEq, Repr

namespace PlacedFault

/-- The wording of a fault and its place. -/
def message (fault : PlacedFault) : String :=
  fault.kind.message ++ " at line " ++ toString fault.position.line ++
    " column " ++ toString fault.position.column

end PlacedFault

end ChartScript.Json
