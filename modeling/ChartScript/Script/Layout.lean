import ChartScript.Refusal
import ChartScript.Script.Line

/-!
# Layout of scripts

A body becomes a script in one of two shapes: all lines at the outer level, or the body indented
inside a function that the script calls. Both shapes share the imports at the top and the saving
of the figure at the end. The shape and the indentation are those of the figure's style unless
they are overridden.
-/

namespace ChartScript

/-- Indents lines by a number of levels; empty lines stay empty. -/
def indent (style : IndentStyle) (level : Nat) (lines : List String) : List String :=
  let margin := String.join (List.replicate level style.unit)
  lines.map fun line => if line.isEmpty then "" else margin ++ line

/-- The indentation style that a word names. -/
def IndentStyle.ofWord (word : String) : Except Refusal IndentStyle :=
  match ClosedSet.ofLabel? word with
  | some style => .ok style
  | none => .error (.unknownIndent word)

/-- Indents lines by a number of levels of the style that a word names. -/
def indentLines (lines : List String) (level : Nat) (word : String) :
    Except Refusal (List String) :=
  match IndentStyle.ofWord word with
  | .ok style => .ok (indent style level lines)
  | .error refusal => .error refusal

/-- The lines of a script. -/
structure Script where
  /-- The lines, without line feeds. -/
  lines : List String
  deriving DecidableEq

namespace Script

/-- The imports at the top. -/
def header : List String := ["import numpy as np", "import matplotlib.pyplot as plt"]

/-- The saving of the figure at the end. -/
def footer : List String := ["fig.savefig(\"figure.png\")"]

/-- The name of the function around a body. -/
def entry : String := "draw_figure"

/-- The heading of the last part. -/
def renderHeading : String := "# Render"

/-- All lines at the outer level. -/
def flat (body : List String) : Script :=
  ⟨header ++ [""] ++ body ++ [renderHeading] ++ footer⟩

/-- The body inside a function. -/
def wrapped (style : IndentStyle) (body : List String) : Script :=
  ⟨header ++ ["", "", "def " ++ entry ++ "():"] ++
    indent style 1 body ++ indent style 1 ["return fig"] ++
    ["", "", renderHeading, "fig = " ++ entry ++ "()"] ++ footer⟩

/-- A body in a shape. -/
def arrange (shape : ScriptShape) (style : IndentStyle) (body : List String) : Script :=
  match shape with
  | .procedure => flat body
  | .function => wrapped style body

/-- The text of a script, with a line feed after the last line. -/
def source (script : Script) : String := "\n".intercalate script.lines ++ "\n"

end Script

/-- What overrides a figure's style. -/
structure ScriptOptions where
  /-- The shape, if it is overridden. -/
  shape : Option ScriptShape
  /-- The indentation, if it is overridden. -/
  indent : Option IndentStyle
  deriving DecidableEq

namespace ScriptOptions

/-- Nothing is overridden. -/
def none : ScriptOptions := ⟨.none, .none⟩

/-- Overrides the shape. -/
def withShape (options : ScriptOptions) (shape : ScriptShape) : ScriptOptions :=
  ⟨some shape, options.indent⟩

/-- Overrides the indentation. -/
def withIndent (options : ScriptOptions) (style : IndentStyle) : ScriptOptions :=
  ⟨options.shape, some style⟩

/-- The shape of a figure's script. -/
def shapeFor (options : ScriptOptions) (style : FigureStyle) : ScriptShape :=
  options.shape.getD style.shape

/-- The indentation of a figure's script. -/
def indentFor (options : ScriptOptions) (style : FigureStyle) : IndentStyle :=
  options.indent.getD style.indent

end ScriptOptions

/-- The script of a consistent chart. -/
def ConsistentChart.script (options : ScriptOptions) (checked : ConsistentChart) : Script :=
  let style := checked.chart.figure.style
  Script.arrange (options.shapeFor style) (options.indentFor style)
    (checked.chart.body.map Line.render)

end ChartScript
