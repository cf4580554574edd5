import ChartScript.Script.Layout
import ChartScript.Text.Numerals

/-!
# Events

What an operation tells about its course, in order, beside its result. An event has a level, the
part of the program that tells it, a message and named values.
-/

namespace ChartScript

/-- How urgent an event is, the most urgent first. -/
inductive Level where
  /-- The program could not do its work. -/
  | error
  /-- Something to look at. -/
  | warn
  /-- A step of the work. -/
  | info
  /-- A detail of a step. -/
  | debug
  /-- Everything. -/
  | trace
  deriving DecidableEq, Repr

namespace Level

/-- The word for a level. -/
def label : Level → String
  | .error => "ERROR"
  | .warn => "WARN"
  | .info => "INFO"
  | .debug => "DEBUG"
  | .trace => "TRACE"

/-- The rank of a level, zero for the most urgent. -/
def rank : Level → Nat
  | .error => 0
  | .warn => 1
  | .info => 2
  | .debug => 3
  | .trace => 4

/-- All levels. -/
def all : List Level := [.error, .warn, .info, .debug, .trace]

end Level

/-- What is told. -/
inductive Event where
  /-- A chart was read, with so many axes, plots and series. -/
  | constructed (id : Uuid) (axes plots series : Nat)
  /-- A description has so many failures of its own. -/
  | constructionFailed (failures : Nat)
  /-- A chart has so many failures as a whole. -/
  | checkFailed (id : Uuid) (failures : Nat)
  /-- A chart has a warning. -/
  | warned (warning : Warning)
  /-- A script of so many lines was written. -/
  | written (id : Uuid) (shape : ScriptShape) (style : IndentStyle) (lines : Nat)
  /-- A description was turned down for this cause, among others. -/
  | rejected (cause : Cause)
  /-- The command could not do its work. -/
  | failed (words : String)
  deriving DecidableEq

namespace Event

/-- How urgent an event is. -/
def level : Event → Level
  | .warned _ => .warn
  | .failed _ => .error
  | _ => .debug

/-- The part of the program that tells an event. -/
def target : Event → String
  | .constructed .. | .constructionFailed _ => "figgen::request"
  | .checkFailed .. | .warned _ => "figgen::validate"
  | .written .. => "figgen::writer::pyplot"
  | .rejected _ | .failed _ => "figgen"

/-- The message of an event. -/
def message : Event → String
  | .constructed .. => "constructed request"
  | .constructionFailed _ => "request construction failed"
  | .checkFailed .. => "cross-reference validation failed"
  | .warned warning => warning.message
  | .written .. => "generated pyplot code"
  | .rejected _ => "rejected"
  | .failed words => words

/-- The named values of an event. -/
def fields : Event → List (String × String)
  | .constructed id axes plots series =>
    [("request_id", id.toText), ("axes", toString axes), ("plots", toString plots),
      ("data", toString series)]
  | .constructionFailed failures => [("failures", toString failures)]
  | .checkFailed id failures => [("request_id", id.toText), ("failures", toString failures)]
  | .warned warning => [("location", warning.location.render)]
  | .written id shape style lines =>
    [("request_id", id.toText), ("shape", shape.label), ("indent", style.label),
      ("lines", toString lines)]
  | .rejected cause => [("kind", cause.kind.label), ("location", cause.location)]
  | .failed _ => []

/-- The names of what an event tells, its message first. -/
def fieldNames (event : Event) : List String := "message" :: event.fields.map Prod.fst

/-- The controls of ASCII that a terminal obeys: the bell, the backspace, the form feed, the escape
and the delete. -/
def terminalControls : List Char := ['\x07', '\x08', '\x0c', '\x1b', '\x7f']

/-- A character of a message as the log shows it: a control that a terminal obeys stands as its
code point. -/
def shown (c : Char) : List Char :=
  if terminalControls.contains c then ['\\', 'x'] ++ Text.padded 16 2 c.toNat
  else if 0x80 ≤ c.toNat ∧ c.toNat ≤ 0x9f then
    ['\\', 'u', '\x7b'] ++ Nat.toDigits 16 c.toNat ++ ['\x7d']
  else [c]

/-- The log line of an event. Only the message is guarded against the terminal; the named values
stand as they are. -/
def line (event : Event) : String :=
  event.level.label ++ " " ++ event.target ++ ": " ++
    String.ofList (event.message.toList.flatMap shown) ++
    String.join (event.fields.map fun (name, value) => " " ++ name ++ "=" ++ value)

end Event

/-- A result and the events that were told on the way to it. -/
structure Told (α : Type) where
  /-- The result. -/
  value : α
  /-- The events in order. -/
  events : List Event

namespace Told

variable {α β : Type}

/-- A result about which nothing is told. -/
def silent (value : α) : Told α := ⟨value, []⟩

/-- Goes on with a result; its events come first. -/
def andThen (first : Told α) (next : α → Told β) : Told β :=
  let second := next first.value
  ⟨second.value, first.events ++ second.events⟩

end Told

end ChartScript
