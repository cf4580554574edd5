import ChartScript.Text.Lines

/-!
# Paths

A path is taken apart at its slashes. What stands between two slashes is a part; two slashes in a
row count as one. One dot as a part means to stay, two dots mean to go up.
-/

namespace ChartScript.Command

/-- A path, taken apart. -/
structure Path where
  /-- The path starts at the top of all directories. -/
  rooted : Bool
  /-- The parts from the left, none of them empty. -/
  parts : List String
  /-- A slash ends the path. -/
  slashed : Bool
  deriving DecidableEq

namespace Path

/-- The part that means to stay. -/
def stay : String := "."

/-- The part that means to go up. -/
def up : String := ".."

/-- The part that stands for standard input when it is alone. -/
def hyphen : String := "-"

/-- The path that a text spells. -/
def ofText (text : String) : Path :=
  let pieces := Text.pieces '/' text.toList
  ⟨pieces.head? == some [], (pieces.filter fun piece => !piece.isEmpty).map String.ofList,
    pieces.getLast? == some []⟩

/-- The path stands for standard input: it is a lone hyphen, up to slashes and single dots after
it. -/
def isStandardInput (path : Path) : Bool :=
  !path.rooted && path.parts.head? == some hyphen && path.parts.tail.all (· == stay)

end Path

end ChartScript.Command
