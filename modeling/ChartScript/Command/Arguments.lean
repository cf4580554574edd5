import ChartScript.Chart.Basic

/-!
# Arguments of the command

The arguments ask for a version, for help, or for one of two commands with a file and options. An
option is written in full, with its value after an equals sign or as the next argument; each may
be given once, before or after the file. A value in an argument of its own does not start with a
hyphen, unless it is a lone hyphen. After two hyphens every argument is a file.
-/

namespace ChartScript

namespace Command

/-- How failures are reported. -/
inductive ReportFormat where
  /-- As lines for a reader. -/
  | text
  /-- As JSON. -/
  | json
  deriving DecidableEq, Repr

instance : ClosedSet ReportFormat where
  members := [.text, .json]
  label
    | .text => "text"
    | .json => "json"
  standard := .text

end Command

/-- A command. -/
inductive Command where
  /-- Write the script of a description. -/
  | generate (file : String) (output : Option String) (shape : Option ScriptShape)
      (style : Option IndentStyle) (format : Command.ReportFormat)
  /-- Check a description. -/
  | validate (file : String) (format : Command.ReportFormat)
  deriving DecidableEq

namespace Command

/-- What the arguments ask for. -/
inductive Request where
  /-- A command. -/
  | run (command : Command)
  /-- The version. -/
  | version
  /-- Help. -/
  | help
  deriving DecidableEq

/-- The options that a command can have. -/
inductive OptionName where
  /-- Where the script goes. -/
  | output
  /-- The shape of the script. -/
  | shape
  /-- The indentation of the script. -/
  | indent
  /-- How failures are reported. -/
  | format
  deriving DecidableEq, Repr

namespace OptionName

/-- The word for an option. -/
def label : OptionName → String
  | .output => "output"
  | .shape => "shape"
  | .indent => "indent"
  | .format => "format"

/-- The options of generating, and those of validating. -/
def declared (generating : Bool) : List OptionName :=
  if generating then [.output, .shape, .indent, .format] else [.format]

/-- A value that an option takes. -/
def takes : OptionName → String → Bool
  | .output, value => !value.isEmpty
  | .shape, value => (ClosedSet.labels ScriptShape).contains value
  | .indent, value => (ClosedSet.labels IndentStyle).contains value
  | .format, value => (ClosedSet.labels ReportFormat).contains value

end OptionName

/-- What has been gathered from the arguments. -/
structure Gathered where
  /-- The file, once it is known. -/
  file : Option String
  /-- The options given so far, each with its value. -/
  options : List (OptionName × String)

namespace Gathered

/-- Nothing yet. -/
def empty : Gathered := ⟨none, []⟩

/-- The value of an option. -/
def value? (gathered : Gathered) (name : OptionName) : Option String :=
  gathered.options.lookup name

/-- The member of a closed set that an option chooses. -/
def chosen? {α : Type} [ClosedSet α] (gathered : Gathered) (name : OptionName) : Option α :=
  (gathered.value? name).bind ClosedSet.ofLabel?

/-- Takes a file, unless there is one already. -/
def withFile? (gathered : Gathered) (file : String) : Option Gathered :=
  if file.isEmpty ∨ gathered.file.isSome then none else some ⟨some file, gathered.options⟩

/-- Takes an option's value, unless the option was given or does not take it. -/
def withOption? (gathered : Gathered) (name : OptionName) (value : String) : Option Gathered :=
  if (gathered.value? name).isSome ∨ ¬ name.takes value then none
  else some ⟨gathered.file, gathered.options ++ [(name, value)]⟩

/-- The command, if its file is known. -/
def command? (gathered : Gathered) (generating : Bool) : Option Command := do
  let file ← gathered.file
  let format := (gathered.chosen? .format).getD ClosedSet.standard
  return if generating then
    .generate file (gathered.value? .output) (gathered.chosen? .shape) (gathered.chosen? .indent)
      format
  else .validate file format

end Gathered

/-- An argument as it stands before the two hyphens. -/
inductive Token where
  /-- The two hyphens. -/
  | rest
  /-- A request for help. -/
  | help
  /-- An option, and the value after its equals sign. -/
  | option (word : List Char) (value : Option (List Char))
  /-- A file or a value. -/
  | plain
  /-- Anything else that starts with a hyphen. -/
  | unknown

/-- The token that an argument is. -/
def tokenOf (argument : String) : Token :=
  match argument.toList with
  | ['-', '-'] => .rest
  | '-' :: '-' :: word =>
    if word = "help".toList then .help
    else
      match word.dropWhile (· != '=') with
      | [] => .option word none
      | _ :: value => .option (word.takeWhile (· != '=')) (some value)
  | ['-'] => .plain
  | '-' :: 'h' :: _ => .help
  | '-' :: _ => .unknown
  | _ => .plain

/-- Reads the arguments of a command while an option may wait for its value; `none` for arguments
that are refused. -/
def gather (generating : Bool) : Gathered → Option OptionName → List String → Option Request
  | gathered, none, [] => (gathered.command? generating).map .run
  | _, some _, [] => none
  | gathered, some name, argument :: more =>
    match tokenOf argument, gathered.withOption? name argument with
    | .plain, some gathered => gather generating gathered none more
    | _, _ => none
  | gathered, none, argument :: more =>
    match tokenOf argument with
    | .help => some .help
    | .unknown => none
    | .plain =>
      match gathered.withFile? argument with
      | some gathered => gather generating gathered none more
      | none => none
    | .rest => do
      let gathered ← more.foldlM Gathered.withFile? gathered
      let command ← gathered.command? generating
      return .run command
    | .option word value =>
      match (OptionName.declared generating).find? fun name => name.label.toList == word with
      | none => none
      | some name =>
        match value with
        | none => gather generating gathered (some name) more
        | some value =>
          match gathered.withOption? name (String.ofList value) with
          | some gathered => gather generating gathered none more
          | none => none

/-- The words that help can be asked about, one at a time. -/
def topics : List String := ["generate", "validate", "help"]

/-- What the arguments ask for; `none` for arguments that are refused. -/
def parseArguments : List String → Option Request
  | [] => none
  | first :: more =>
    if first = "generate" then gather true .empty none more
    else if first = "validate" then gather false .empty none more
    else if first = "help" then
      match more with
      | [] => some .help
      | [topic] => if topics.contains topic then some .help else none
      | _ => none
    else if first = "--version" ∨ first.startsWith "-V" then some .version
    else if first = "--help" ∨ first.startsWith "-h" then some .help
    else none

end Command

end ChartScript
