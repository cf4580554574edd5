import ChartScript.Json.Numeral
import ChartScript.Text.Numerals

/-!
# Reading JSON text

A strict reader of one JSON document. It stops at the first fault and says after which byte it
stands. Lists and objects may be nested 127 levels deep; a key that is repeated keeps its first
place and takes its last value. The recursion is bounded by a number of steps that `document` takes
from the length of the text: of two nested steps, at least one takes a character.
-/

namespace ChartScript.Json

namespace Reader

/-- The levels of lists and objects that a document may open. -/
def deepest : Nat := 127

/-- The blanks between tokens. -/
def isBlank (c : Char) : Bool := c == ' ' || c == '\n' || c == '\t' || c == '\r'

/-- The text from its first character that is no blank. -/
def skipBlanks (text : List Char) : List Char := text.dropWhile isBlank

/-- What is left of the text after a word. -/
def afterWord : List Char → List Char → Except Fault (List Char)
  | [], rest => .ok rest
  | _ :: _, [] => .error (.next .endInValue [])
  | expected :: word, c :: rest =>
    if c = expected then afterWord word rest else .error (.next .literal (c :: rest))

/-- A literal whose first letter has been read. -/
def literal (word : List Char) (value : Json) (rest : List Char) :
    Except Fault (Json × List Char) := do
  let rest ← afterWord word rest
  return (value, rest)

/-- The digits before the point: at least one, and no zero in front of another. -/
def wholePart (text : List Char) : Except Fault (List Char × List Char) :=
  match text with
  | [] => .error (.next .endInValue [])
  | c :: rest =>
    if !c.isDigit then .error (.next .number text)
    else if c = '0' ∧ (rest.head?.any Char.isDigit) then .error (.next .number rest)
    else .ok (text.span Char.isDigit)

/-- The digits after a point, if there is one. -/
def fractionPart (text : List Char) : Except Fault (Option (List Char) × List Char) :=
  match text with
  | '.' :: rest =>
    let (figures, after) := rest.span Char.isDigit
    if figures.isEmpty then
      .error (.next (if after.isEmpty then .endInValue else .number) after)
    else .ok (some figures, after)
  | _ => .ok (none, text)

/-- The sign of an exponent; true for a minus. -/
def exponentSign : List Char → Bool × List Char
  | '-' :: rest => (true, rest)
  | '+' :: rest => (false, rest)
  | text => (false, text)

/-- The exponent, if there is one. -/
def exponentPart (text : List Char) : Except Fault (Option (Bool × List Char) × List Char) :=
  match text with
  | c :: rest =>
    if c = 'e' ∨ c = 'E' then
      let (down, digits) := exponentSign rest
      let (figures, after) := digits.span Char.isDigit
      if figures.isEmpty then
        .error (.next (if after.isEmpty then .endInValue else .number) after)
      else .ok (some (down, figures), after)
    else .ok (none, text)
  | [] => .ok (none, [])

/-- A number whose minus sign, if it had one, has been read. -/
def number (negative : Bool) (text : List Char) : Except Fault (Json × List Char) := do
  let (whole, rest) ← wholePart text
  let (fraction, rest) ← fractionPart rest
  let (exponent, rest) ← exponentPart rest
  match Numeral.value ⟨negative, whole, fraction, exponent⟩ with
  | .ok value => return (.number value, rest)
  | .error .value => .error (.here .range rest)
  | .error (.exponent unread) => .error ⟨.range, byteCount rest + unread⟩

/-- The value of four hexadecimal digits at the start of a text. -/
def fourHex? : List Char → Option (Nat × List Char)
  | a :: b :: c :: d :: rest => do
    let a ← Text.hexValue? a
    let b ← Text.hexValue? b
    let c ← Text.hexValue? c
    let d ← Text.hexValue? d
    return (((a * 16 + b) * 16 + c) * 16 + d, rest)
  | _ => none

/-- A UTF-16 unit written as four hexadecimal digits. Four bytes are read before they are looked
at, so a text that is shorter ends too early. -/
def unit (text : List Char) : Except Fault (Nat × List Char) :=
  match fourHex? text with
  | some found => .ok found
  | none =>
    if byteCount text < 4 then .error (.next .endInString [])
    else .error ⟨.escape, byteCount text - 4⟩

/-- A unit is the second half of a surrogate pair. -/
def isLowSurrogate (unit : Nat) : Bool := 0xDC00 ≤ unit && unit ≤ 0xDFFF

/-- A unit is the first half of a surrogate pair. -/
def isHighSurrogate (unit : Nat) : Bool := 0xD800 ≤ unit && unit ≤ 0xDBFF

/-- What is left after a character that must come next inside a surrogate pair. -/
def afterMark (mark : Char) : List Char → Except Fault (List Char)
  | [] => .error (.next .endInString [])
  | c :: rest => if c = mark then .ok rest else .error (.next .surrogateEnd (c :: rest))

/-- The character of a numeric escape, which is two escapes for one beyond U+FFFF. -/
def numericEscape (text : List Char) : Except Fault (Char × List Char) := do
  let (first, rest) ← unit text
  if isLowSurrogate first then .error (.here .surrogate rest)
  else if isHighSurrogate first then
    let rest ← afterMark '\\' rest
    let rest ← afterMark 'u' rest
    let (second, rest) ← unit rest
    if isLowSurrogate second then
      return (Char.ofNat ((first - 0xD800) * 0x400 + (second - 0xDC00) + 0x10000), rest)
    else .error (.here .surrogate rest)
  else return (Char.ofNat first, rest)

/-- The character of an escape whose backslash has been read. -/
def escape (text : List Char) : Except Fault (Char × List Char) :=
  match text with
  | [] => .error (.next .endInString [])
  | '"' :: rest => .ok ('"', rest)
  | '\\' :: rest => .ok ('\\', rest)
  | '/' :: rest => .ok ('/', rest)
  | 'b' :: rest => .ok ('\x08', rest)
  | 'f' :: rest => .ok ('\x0c', rest)
  | 'n' :: rest => .ok ('\n', rest)
  | 'r' :: rest => .ok ('\r', rest)
  | 't' :: rest => .ok ('\t', rest)
  | 'u' :: rest => numericEscape rest
  | _ => .error (.next .escape text)

/-- The characters up to the closing quote. -/
def characters : Nat → List Char → Except Fault (List Char × List Char)
  | 0, text => .error (.next .endInString text)
  | _ + 1, [] => .error (.next .endInString [])
  | bound + 1, c :: rest =>
    if c = '"' then .ok ([], rest)
    else if c = '\\' then do
      let (found, rest) ← escape rest
      let (more, rest) ← characters bound rest
      return (found :: more, rest)
    else if c.toNat < 0x20 then .error (.next .control (c :: rest))
    else do
      let (more, rest) ← characters bound rest
      return (c :: more, rest)

/-- A string whose opening quote has been read. -/
def string (bound : Nat) (text : List Char) : Except Fault (String × List Char) := do
  let (found, rest) ← characters bound text
  return (String.ofList found, rest)

/-- What is left after the colon that follows a key. -/
def afterColon (text : List Char) : Except Fault (List Char) :=
  match skipBlanks text with
  | [] => .error (.next .endInObject [])
  | ':' :: rest => .ok rest
  | rest => .error (.next .colon rest)

/-- A key and its colon, where a key is due. -/
def key (bound : Nat) (text : List Char) : Except Fault (String × List Char) :=
  match text with
  | '"' :: rest => do
    let (name, rest) ← string bound rest
    let rest ← afterColon rest
    return (name, rest)
  | _ => .error (.next .key text)

mutual

/-- A value, with blanks before it allowed. -/
def value : Nat → Nat → List Char → Except Fault (Json × List Char)
  | 0, _, text => .error (.next .value text)
  | bound + 1, levels, text =>
    match skipBlanks text with
    | [] => .error (.next .endInValue [])
    | c :: rest =>
      if c = 'n' then literal ['u', 'l', 'l'] .null rest
      else if c = 't' then literal ['r', 'u', 'e'] (.boolean true) rest
      else if c = 'f' then literal ['a', 'l', 's', 'e'] (.boolean false) rest
      else if c = '-' then number true rest
      else if c.isDigit then number false (c :: rest)
      else if c = '"' then do
        let (text, rest) ← string bound rest
        return (.string text, rest)
      else if c = '[' then
        match levels with
        | 0 => .error (.next .depth (c :: rest))
        | levels + 1 => do
          let (items, rest) ← list bound levels rest
          return (.array items, rest)
      else if c = '\x7b' then
        match levels with
        | 0 => .error (.next .depth (c :: rest))
        | levels + 1 => do
          let (members, rest) ← object bound levels rest
          return (.object members, rest)
      else .error (.next .value (c :: rest))

/-- The items of a list whose bracket has been read. -/
def list : Nat → Nat → List Char → Except Fault (List Json × List Char)
  | 0, _, text => .error (.next .endInList text)
  | bound + 1, levels, text =>
    match skipBlanks text with
    | [] => .error (.next .endInList [])
    | c :: rest =>
      if c = ']' then .ok ([], rest)
      else do
        let (first, rest) ← value bound levels (c :: rest)
        let (more, rest) ← moreItems bound levels rest
        return (first :: more, rest)

/-- The items after the first ones. -/
def moreItems : Nat → Nat → List Char → Except Fault (List Json × List Char)
  | 0, _, text => .error (.next .endInList text)
  | bound + 1, levels, text =>
    match skipBlanks text with
    | [] => .error (.next .endInList [])
    | c :: rest =>
      if c = ']' then .ok ([], rest)
      else if c = ',' then
        match skipBlanks rest with
        | [] => .error (.next .endInValue [])
        | d :: rest =>
          if d = ']' then .error (.next .trailingComma (d :: rest))
          else do
            let (item, rest) ← value bound levels (d :: rest)
            let (more, rest) ← moreItems bound levels rest
            return (item :: more, rest)
      else .error (.next .listSeparator (c :: rest))

/-- The members of an object whose brace has been read. -/
def object : Nat → Nat → List Char → Except Fault (Members × List Char)
  | 0, _, text => .error (.next .endInObject text)
  | bound + 1, levels, text =>
    match skipBlanks text with
    | [] => .error (.next .endInObject [])
    | c :: rest =>
      if c = '\x7d' then .ok ([], rest)
      else do
        let (name, rest) ← key bound (c :: rest)
        let (item, rest) ← value bound levels rest
        moreMembers bound levels [(name, item)] rest

/-- The members after those that were found. -/
def moreMembers : Nat → Nat → Members → List Char → Except Fault (Members × List Char)
  | 0, _, _, text => .error (.next .endInObject text)
  | bound + 1, levels, found, text =>
    match skipBlanks text with
    | [] => .error (.next .endInObject [])
    | c :: rest =>
      if c = '\x7d' then .ok (found, rest)
      else if c = ',' then
        match skipBlanks rest with
        | [] => .error (.next .endInValue [])
        | d :: rest =>
          if d = '\x7d' then .error (.next .trailingComma (d :: rest))
          else do
            let (name, rest) ← key bound (d :: rest)
            let (item, rest) ← value bound levels rest
            moreMembers bound levels (found.put name item) rest
      else .error (.next .objectSeparator (c :: rest))

end

/-- A document: one value and nothing but blanks after it. -/
def document (text : List Char) : Except Fault Json := do
  let (found, rest) ← value (2 * text.length + 1) deepest text
  match skipBlanks rest with
  | [] => return found
  | rest => .error (.next .trailing rest)

end Reader

/-- The value that a JSON text denotes, or its first fault with its place. -/
def read (text : String) : Except PlacedFault Json :=
  match Reader.document text.toList with
  | .ok value => .ok value
  | .error fault => .error ⟨fault.kind, .before text.toList fault.unread⟩

end ChartScript.Json
