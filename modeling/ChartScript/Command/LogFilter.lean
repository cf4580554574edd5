import ChartScript.Event
import ChartScript.Pattern.Basic

/-!
# Filters of the log

A filter is a list of rules, separated by commas. A rule admits the events of a target, or of all
targets, up to a level; `off` admits none. Of the rules that apply to an event, the most specific
one decides, and an event to which no rule applies is left out.

A rule is a level, a target, or a target and a level with an equals sign between them; a missing
level admits everything. After the target, square brackets can hold the name of a span and, in
braces, a field. A field alone asks for events that have it. A span, or a value of a field, asks
for events inside a span, and no event here is in one.
-/

namespace ChartScript.Command

/-- A rule of a filter. -/
structure LogRule where
  /-- How the target must start; empty for every target. -/
  target : String
  /-- A field that the event must have; empty for none. -/
  field : String
  /-- The event must be inside a span. -/
  inSpan : Bool
  /-- The least urgent level that is admitted, if one is. -/
  upTo : Option Level
  deriving DecidableEq

namespace LogRule

/-- The rule applies to an event. -/
def applies (rule : LogRule) (event : Event) : Bool :=
  !rule.inSpan && rule.target.toList.isPrefixOf event.target.toList &&
    (rule.field.isEmpty || event.fieldNames.contains rule.field)

/-- Of two rules that apply to the same event, the first is at least as specific as the second:
its target is longer, or its field comes later in the alphabet. -/
def outranks (rule other : LogRule) : Bool :=
  if rule.target.length = other.target.length then (compare other.field rule.field).isLE
  else other.target.length < rule.target.length

/-- A rule, or an earlier one that is more specific. -/
def preferredTo (rule : LogRule) (earlier : Option LogRule) : LogRule :=
  match earlier with
  | some other => if rule.outranks other then rule else other
  | none => rule

end LogRule

/-- The rules of a filter. -/
abbrev LogFilter := List LogRule

namespace LogFilter

/-- A number that may follow a plus sign. -/
def number? (word : List Char) : Option Nat :=
  let figures := if word.head? = some '+' then word.drop 1 else word
  if figures ≠ [] ∧ figures.all Char.isDigit then
    some (figures.foldl (fun total c => total * 10 + (c.toNat - '0'.toNat)) 0)
  else none

/-- The levels from none to all. -/
def levels : List (Option Level) := none :: Level.all.map some

/-- The level that a number or a word of either case names; `none` inside for `off`. -/
def levelOf? (word : List Char) : Option (Option Level) :=
  match number? word with
  | some n => levels[n]?
  | none =>
    let upper := String.ofList (word.map Char.toUpper)
    levels.find? fun level => (level.map Level.label).getD "OFF" == upper

/-- A rule can start with this character: a letter or a number of any script, or one of three
marks. -/
def isStarter (c : Char) : Bool :=
  Text.isLetterOrNumber c || ['-', ':', '_'].contains c

/-- A decimal number without a sign: digits with a point among them or not, and an exponent or
none; or the word for an infinite value or for no number, in either case. -/
def isDecimal (word : List Char) : Bool :=
  let rest := word.dropWhile Char.isDigit
  let fraction := if rest.head? = some '.' then rest.drop 1 else []
  let rest := if rest.head? = some '.' then fraction.dropWhile Char.isDigit else rest
  let figured := (word.takeWhile Char.isDigit ++ fraction.takeWhile Char.isDigit) != []
  let scaled :=
    match rest with
    | [] => true
    | e :: exponent =>
      let figures := if ['+', '-'].contains (exponent.headD e) then exponent.drop 1 else exponent
      e.toLower == 'e' && figures != [] && figures.all Char.isDigit
  (figured && scaled) ||
    ["inf", "infinity", "nan"].contains (String.ofList (word.map Char.toLower))

/-- A value that a field can be asked for: a search pattern, or a number after a plus sign, which
is no pattern. -/
def isFieldValue (value : List Char) : Bool :=
  Pattern.isPattern value || (value.head? == some '+' && isDecimal (value.drop 1))

/-- The value that is asked for with a field, up to another equals sign, can be one. -/
def isField (field : List Char) : Bool :=
  match field.dropWhile (· != '=') with
  | [] => true
  | _ :: value => isFieldValue (value.takeWhile (· != '='))

/-- A text without so many bytes at its start. -/
def dropBytes : Nat → List Char → List Char
  | _, [] => []
  | count, c :: rest => if count = 0 then c :: rest else dropBytes (count - c.utf8Size) rest

/-- So many bytes of a text from its start. -/
def takeBytes : Nat → List Char → List Char
  | _, [] => []
  | count, c :: rest => if count = 0 then [] else c :: takeBytes (count - c.utf8Size) rest

/-- What a rule says between brackets. -/
structure Narrowing where
  /-- The field; empty for none. -/
  field : List Char
  /-- A span is named, or a value of the field. -/
  inSpan : Bool
  deriving DecidableEq

/-- Reads what follows an opening bracket, up to the closing one, and what stands after that. The
field is cut out of what `full` gives for its place. -/
def narrowing? (full : List Char → List Char) (text : List Char) :
    Option (Narrowing × List Char) :=
  let named := fun c => c != ']' && c != '\x7b'
  match text.dropWhile named with
  | ']' :: rest => some (⟨[], true⟩, rest)
  | '\x7b' :: rest =>
    let written := rest.takeWhile (· != '\x7d')
    let field := takeBytes (Json.byteCount written) (full rest)
    match rest.dropWhile (· != '\x7d') with
    | '\x7d' :: ']' :: after =>
      if field.isEmpty || !isField field then none
      else some (⟨field, (text.head?.any named) || field.contains '='⟩, after)
    | _ => none
  | _ => none

/-- The level at the end of a rule, cut out of what `full` gives for its place. -/
def levelAfter? (full : List Char → List Char) (text : List Char) : Option (Option Level) :=
  match text with
  | [] => some (some .trace)
  | '=' :: rest => if (full rest).isEmpty then some (some .trace) else levelOf? (full rest)
  | _ => none

/-- The rule that a text spells. Its form is looked for between the blanks at both ends, and its
words are cut out of the text with the blanks, at the same places in bytes: so a level with blanks
about it is none, and a target starts with the blanks before it. -/
def ruleOf? (text : List Char) : Option LogRule :=
  let bare := Text.trimmed text
  let full := fun rest => dropBytes (Json.byteCount bare - Json.byteCount rest) text
  let plain := fun c => c != '=' && c != '['
  let word := bare.takeWhile plain
  let target := String.ofList (takeBytes (Json.byteCount word) text)
  if word.head?.any (!isStarter ·) then none
  else
    match word, bare.dropWhile plain with
    | [], [] => none
    | _, [] =>
      match levelOf? text with
      | some level => some ⟨"", "", false, level⟩
      | none => some ⟨String.ofList text, "", false, some .trace⟩
    | _, '[' :: rest => do
      let (narrowing, rest) ← narrowing? full rest
      let level ← levelAfter? full rest
      return ⟨target, String.ofList narrowing.field, narrowing.inSpan, level⟩
    | [], _ => none
    | _, rest => (levelAfter? full rest).map (⟨target, "", false, ·⟩)

/-- The filter where none is asked for. -/
def standard : LogFilter := [⟨"", "", false, some .warn⟩]

/-- The filter that a text spells. Nothing between two commas, or beside one at an end, is no rule;
a text that has nothing else gives the filter without rules. -/
def read? (text : String) : Option LogFilter :=
  ((Text.pieces ',' text.toList).filter fun piece => !piece.isEmpty).mapM ruleOf?

/-- The filter that is asked for, or the standard one. -/
def ofSetting (setting : Option String) : LogFilter :=
  (setting.bind read?).getD standard

/-- The rule that decides on an event. -/
def ruleFor? (filter : LogFilter) (event : Event) : Option LogRule :=
  (filter.filter (·.applies event)).foldl (fun best rule => some (rule.preferredTo best)) none

/-- The filter admits an event. -/
def admits (filter : LogFilter) (event : Event) : Bool :=
  match (filter.ruleFor? event).bind LogRule.upTo with
  | some level => event.level.rank ≤ level.rank
  | none => false

/-- The log of events. -/
def log (filter : LogFilter) (events : List Event) : String :=
  Text.unlines ((events.filter filter.admits).map Event.line)

end LogFilter

end ChartScript.Command
