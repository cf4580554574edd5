import ChartScript.Identifier
import ChartScript.Json.Writer
import ChartScript.Json.Fault
import ChartScript.Location
import ChartScript.Number.Notation
import ChartScript.Text.Quoted
import ChartScript.Uuid

/-!
# Failures and reports

A failure is a problem at a place. Problems are causes, each a constructor with what it is about;
kind and wording are functions of the problem. A report lists failures in the order of their
discovery, and nothing is merged.
-/

namespace ChartScript

/-- The class of a problem. -/
inductive FailureKind where
  /-- Wrong type, missing or undeclared field, or a value out of its set. -/
  | shape
  /-- A name that becomes no safe identifier. -/
  | identifier
  /-- A name of nothing. -/
  | reference
  /-- Names that share an identifier. -/
  | uniqueness
  /-- A grid that is not of the declared size. -/
  | dimension
  /-- Axes in more than one cell. -/
  | placement
  deriving DecidableEq, Repr

/-- The word for a class of problems. -/
def FailureKind.label : FailureKind → String
  | .shape => "Shape"
  | .identifier => "Identifier"
  | .reference => "Reference"
  | .uniqueness => "Uniqueness"
  | .dimension => "Dimension"
  | .placement => "Placement"

/-- What was found in place of something else. -/
inductive Finding where
  /-- The value `null`. -/
  | null
  /-- A truth value. -/
  | boolean (value : Bool)
  /-- An integer. -/
  | integer (value : Int)
  /-- A number that is no integer of 64 bits. -/
  | float (value : Binary64)
  /-- A text. -/
  | text (value : String)
  /-- A list. -/
  | sequence
  /-- An object. -/
  | map
  deriving DecidableEq

namespace Finding

/-- What a value is found to be. -/
def ofJson : Json → Finding
  | .null => .null
  | .boolean value => .boolean value
  | .number (.integer value _) => .integer value
  | .number (.float value) => .float value
  | .string value => .text value
  | .array _ => .sequence
  | .object _ => .map

/-- Numbers in diagnostics: positional for leading powers -5 to 15 with at least one decimal, an
exponent of no least width otherwise; a tie goes to the even digit. -/
def numberLayout : DecimalLayout := ⟨-5, 16, ['.', '0'], 1, .even⟩

/-- The wording of a finding. -/
def message : Finding → String
  | .null => "null"
  | .boolean value => "boolean `" ++ (if value then "true" else "false") ++ "`"
  | .integer value => "integer `" ++ toString value ++ "`"
  | .float value => "floating point `" ++ numberLayout.render value ++ "`"
  | .text value => "string " ++ Text.quoteShown value
  | .sequence => "sequence"
  | .map => "map"

end Finding

/-- What a leaf should have been. -/
inductive Expected where
  /-- A text. -/
  | text
  /-- A number. -/
  | float
  /-- A truth value. -/
  | boolean
  /-- A natural number. -/
  | size
  /-- The spelling of a unique identifier. -/
  | uuid
  /-- A member of a closed set. -/
  | choice
  /-- The value `null`. -/
  | unit
  deriving DecidableEq, Repr

/-- The wording of an expectation. -/
def Expected.message : Expected → String
  | .text => "a string"
  | .float => "f64"
  | .boolean => "a boolean"
  | .size => "usize"
  | .uuid => "a formatted UUID string"
  | .choice => "string or map"
  | .unit => "unit"

/-- A cell of the figure's grid. -/
structure Cell where
  /-- The row, from zero. -/
  row : Nat
  /-- The column, from zero. -/
  column : Nat
  deriving DecidableEq, Repr

namespace Cell

/-- The text of a cell behind the name of a grid. -/
def render (cell : Cell) : String :=
  "[" ++ toString cell.row ++ "][" ++ toString cell.column ++ "]"

end Cell

/-- What can be wrong with a chart description. -/
inductive Problem where
  /-- The text is no JSON document. -/
  | unreadable (fault : Json.PlacedFault)
  /-- A value that should be an object. -/
  | notDictionary
  /-- A value that should be a list. -/
  | notList
  /-- A declared field that is not there. -/
  | missing
  /-- A key that is not declared. -/
  | undeclared
  /-- A whole number that is not positive. -/
  | notPositive
  /-- A leaf of the wrong type. -/
  | mismatch (found : Finding) (expected : Expected)
  /-- An object in place of a choice that does not have a single key. -/
  | manyKeys
  /-- A text outside a closed set. -/
  | unknownChoice (found : String) (choices : List String)
  /-- A text that spells no unique identifier. -/
  | uuid (fault : Uuid.Fault)
  /-- A name that becomes no safe identifier. -/
  | refusedName (space : Namespace) (raw : String)
  /-- An object without the tag that tells its relation. -/
  | untagged (tag : String)
  /-- A tag outside the known ones. -/
  | unknownTag (tag found : String) (known : List String)
  /-- Names of one list that share an identifier, each by its first spelling. -/
  | duplicates (space : Namespace) (raws : List String)
  /-- A grid whose rows are not as declared. -/
  | gridShape (rows columns : Nat) (found : List Nat)
  /-- A cell with a name of no axes. -/
  | unknownAxes (cell : Cell) (raw : String)
  /-- Axes with a name of no plot. -/
  | unknownPlot (raw axes : String)
  /-- A plot with a name of no series. -/
  | unknownData (raw plot : String)
  /-- A cell whose axes stand in an earlier cell. -/
  | placedBefore (raw : String) (first : Cell)
  /-- A problem in the caller's own words. -/
  | remark (kind : FailureKind) (words : String)
  deriving DecidableEq

namespace Problem

/-- A text between apostrophes, unescaped. -/
def named (text : String) : String := "'" ++ text ++ "'"

/-- A text between back quotes, unescaped. -/
def backQuoted (text : String) : String := "`" ++ text ++ "`"

/-- The wording of the members of a closed set. -/
def alternatives : List String → String
  | [only] => backQuoted only
  | [first, second] => backQuoted first ++ " or " ++ backQuoted second
  | choices => "one of " ++ ", ".intercalate (choices.map backQuoted)

/-- The class of a problem. -/
def kind : Problem → FailureKind
  | .refusedName .. => .identifier
  | .duplicates .. => .uniqueness
  | .gridShape .. => .dimension
  | .unknownAxes .. | .unknownPlot .. | .unknownData .. => .reference
  | .placedBefore .. => .placement
  | .remark kind _ => kind
  | _ => .shape

/-- The wording of a problem. -/
def message : Problem → String
  | .unreadable fault => fault.message
  | .notDictionary => "Input should be a valid dictionary"
  | .notList => "Input should be a valid list"
  | .missing => "Field required"
  | .undeclared => "Extra inputs are not permitted"
  | .notPositive => "Input should be greater than 0"
  | .mismatch found expected =>
    "invalid type: " ++ found.message ++ ", expected " ++ expected.message
  | .manyKeys => "invalid value: map, expected map with a single key"
  | .unknownChoice found choices =>
    "unknown variant " ++ backQuoted found ++ ", expected " ++ alternatives choices
  | .uuid fault => "UUID parsing failed: " ++ fault.message
  | .refusedName space raw =>
    "Unsafe identifier: " ++ named raw ++ " is not a valid " ++ space.label ++
      " name (becomes " ++ named (space.code raw) ++ ")"
  | .untagged tag => "Unable to extract tag using discriminator " ++ named tag
  | .unknownTag tag found known =>
    "Input tag " ++ named found ++ " found using " ++ named tag ++
      " does not match any of the expected tags: " ++ ", ".intercalate (known.map named)
  | .duplicates space raws =>
    "Duplicate " ++ space.label ++ " name found: [" ++ ", ".intercalate (raws.map named) ++ "]"
  | .gridShape rows columns found =>
    "Shape of figure.axes is not equivalent to the provided (row, column) = (" ++
      toString rows ++ ", " ++ toString columns ++ "): found " ++ toString found.length ++
      " row(s) with column counts [" ++ ", ".intercalate (found.map toString) ++ "]"
  | .unknownAxes cell raw =>
    "Cannot find figure.axes" ++ cell.render ++ " = " ++ named raw ++ " in axes names"
  | .unknownPlot raw axes =>
    "Cannot find plot " ++ named raw ++ " from axes " ++ named axes ++ " in plot names"
  | .unknownData raw plot =>
    "Cannot find data " ++ named raw ++ " from plot " ++ named plot ++ " in data names"
  | .placedBefore raw first =>
    "Axes " ++ named raw ++ " is already placed at figure.axes" ++ first.render
  | .remark _ words => words

end Problem

/-- A problem at a place. -/
structure Failure where
  /-- Where. -/
  location : Location
  /-- What. -/
  problem : Problem
  deriving DecidableEq

/-- A failure as a reader sees it. -/
structure Cause where
  /-- The class of the problem. -/
  kind : FailureKind
  /-- The text of the place. -/
  location : String
  /-- The wording of the problem. -/
  message : String
  deriving DecidableEq, Repr

/-- The failure as a reader sees it. -/
def Failure.cause (failure : Failure) : Cause :=
  ⟨failure.problem.kind, failure.location.render, failure.problem.message⟩

/-- The line of a cause. -/
def Cause.line (cause : Cause) : String := cause.location ++ ": " ++ cause.message

/-- All that is wrong with a description, in the order of discovery. -/
structure Report where
  /-- The failures. -/
  failures : List Failure
  deriving DecidableEq

namespace Report

/-- The report of one failure. -/
def single (failure : Failure) : Report := ⟨[failure]⟩

/-- The causes in order. -/
def causes (report : Report) : List Cause := report.failures.map Failure.cause

/-- The causes joined by line feeds. -/
def text (report : Report) : String :=
  "\n".intercalate (report.causes.map Cause.line)

/-- The members of a cause in a JSON report; the class is left out. -/
def members (cause : Cause) : List (String × String) :=
  [("location", cause.location), ("message", cause.message)]

/-- The report as JSON text, a list of places and messages. -/
def json (report : Report) : String :=
  Json.Writer.records (report.causes.map members)

end Report

end ChartScript
