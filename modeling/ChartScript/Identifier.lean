/-!
# Identifiers of the script

Every name of a chart becomes an identifier of the generated script. The namespace of a name puts
a lead in front of it, hyphens turn into underscores, and the result must be a legal identifier
that is no reserved word. An identifier carries the proof of that, so a chart holds no other
names. The grammar is the ASCII part of the script language's: letters, digits and the underscore,
no digit first.
-/

namespace ChartScript

/-- The kind of thing a name belongs to. -/
inductive Namespace where
  /-- Axes, bound to a subplot. -/
  | axes
  /-- Plots, never bound. -/
  | plot
  /-- Series, bound to a list literal. -/
  | data
  deriving DecidableEq, Repr

namespace Namespace

/-- The word for a namespace. -/
def label : Namespace → String
  | .axes => "axes"
  | .plot => "plot"
  | .data => "data"

/-- What stands in front of every identifier of a namespace. -/
def lead : Namespace → String
  | .axes => "axes_"
  | .plot => ""
  | .data => "data_"

end Namespace

/-- The reserved words of the script language. Words that are reserved in some contexts only are
legal identifiers and are not listed. -/
def reservedWords : List String :=
  ["False", "None", "True", "and", "as", "assert", "async", "await", "break", "class", "continue",
    "def", "del", "elif", "else", "except", "finally", "for", "from", "global", "if", "import",
    "in", "is", "lambda", "nonlocal", "not", "or", "pass", "raise", "return", "try", "while",
    "with", "yield"]

/-- A text is a reserved word. -/
def isReserved (text : String) : Bool := reservedWords.contains text

/-- A character that may start an identifier. -/
def isIdentifierHead (c : Char) : Bool := c.isAlpha || c == '_'

/-- A character that may go on an identifier. -/
def isIdentifierTail (c : Char) : Bool := c.isAlphanum || c == '_'

/-- A text matches the grammar of identifiers. -/
def isIdentifier (text : String) : Bool :=
  match text.toList with
  | [] => false
  | c :: rest => isIdentifierHead c && rest.all isIdentifierTail

/-- Hyphens are spelled as underscores. -/
def underscored (text : String) : String :=
  String.ofList (text.toList.map fun c => if c = '-' then '_' else c)

/-- The underscored spelling of a text has underscores in place of its hyphens. -/
theorem toList_underscored (raw : String) :
    (underscored raw).toList = raw.toList.map fun c => if c = '-' then '_' else c := by
  rw [underscored, String.toList_ofList]

namespace Namespace

/-- The identifier that a raw name becomes. -/
def code (space : Namespace) (raw : String) : String := space.lead ++ underscored raw

/-- A raw name is safe when it is not empty and becomes a legal identifier. -/
def isSafe (space : Namespace) (raw : String) : Bool :=
  raw != "" && isIdentifier (space.code raw) && !isReserved (space.code raw)

end Namespace

/-- A name of a namespace that is safe to write into a script. Two spellings may share a code, and
references go by the code. -/
structure Identifier (space : Namespace) where
  /-- The name as it was spelled. -/
  raw : String
  /-- The name is safe. -/
  safe : space.isSafe raw = true
  deriving DecidableEq

namespace Identifier

variable {space : Namespace}

/-- The identifier as the script spells it. -/
def code (name : Identifier space) : String := space.code name.raw

/-- The identifier for a raw name, if the name is safe. -/
def ofRaw? (space : Namespace) (raw : String) : Option (Identifier space) :=
  if safe : space.isSafe raw = true then some ⟨raw, safe⟩ else none

/-- A raw name that is taken is kept as it is. -/
theorem ofRaw?_eq_some_iff {raw : String} {name : Identifier space} :
    ofRaw? space raw = some name ↔ name.raw = raw := by
  unfold ofRaw?
  constructor
  · intro h
    split at h
    · cases h
      rfl
    · cases h
  · rintro rfl
    rw [dif_pos name.safe]

/-- A raw name is refused exactly when it is not safe. -/
theorem ofRaw?_eq_none_iff {raw : String} :
    ofRaw? space raw = none ↔ space.isSafe raw = false := by
  unfold ofRaw?
  split <;> simp_all

/-- The code of an identifier is legal. -/
theorem isIdentifier_code (name : Identifier space) : isIdentifier name.code = true := by
  have h := name.safe
  simp only [Namespace.isSafe, Bool.and_eq_true] at h
  exact h.1.2

/-- The code of an identifier is no reserved word. -/
theorem isReserved_code (name : Identifier space) : isReserved name.code = false := by
  have h := name.safe
  simp only [Namespace.isSafe, Bool.and_eq_true, Bool.not_eq_true'] at h
  exact h.2

end Identifier

end ChartScript
