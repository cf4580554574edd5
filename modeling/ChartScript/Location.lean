/-!
# Places in a chart description

A place is the path from the whole description to one value, outermost step first. Its text starts
with the root's name; a key follows a point and an index stands in brackets.
-/

namespace ChartScript

/-- One step into a value. -/
inductive Location.Step where
  /-- To the member under a key. -/
  | key (name : String)
  /-- To the item at an index. -/
  | index (place : Nat)
  deriving DecidableEq, Repr

/-- The path to a value. -/
structure Location where
  /-- The steps, outermost first. -/
  steps : List Location.Step
  deriving DecidableEq, Repr

namespace Location

/-- The name of the whole description. -/
def rootName : String := "request"

/-- The whole description. -/
def root : Location := ⟨[]⟩

/-- The member under a key. -/
def key (place : Location) (name : String) : Location := ⟨place.steps ++ [.key name]⟩

/-- The item at an index. -/
def index (place : Location) (i : Nat) : Location := ⟨place.steps ++ [.index i]⟩

/-- The text of a step. -/
def Step.render : Step → String
  | .key name => "." ++ name
  | .index i => "[" ++ toString i ++ "]"

/-- The text of a place. -/
def render (place : Location) : String :=
  rootName ++ String.join (place.steps.map Step.render)

end Location

end ChartScript
