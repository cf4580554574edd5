import ChartScript.Proofs.Emission
import ChartScript.Proofs.Parts

/-!
# The two shapes of a script

A script is flat, or its body stands in a function that the script calls. Both shapes are written
from one list of body lines, and the indentation acts on the function alone: a unit stands in front
of each line of its body that is not empty. Body lines start with no blank of their own, so what is
taken away from an indented line is the unit and nothing else.
-/

namespace ChartScript

namespace Line

/-- A line of a body starts with no blank. -/
theorem head?_render_ne {c : Char} (blank : c = ' ' ∨ c = '\t') (line : Line) :
    line.render.toList.head? ≠ some c := by
  intro starts
  by_cases frame : line.isFrame = true
  · cases line with
    | blank => cases starts
    | heading block =>
      revert starts
      rcases blank with rfl | rfl <;> cases block <;> decide
    | _ => cases frame
  · rcases starts_render (Bool.not_eq_true _ ▸ frame) with lower | remark
    · rw [starts] at lower
      rcases blank with rfl | rfl <;> cases lower
    · cases chars : line.render.toList with
      | nil =>
        rw [chars] at starts
        cases starts
      | cons first rest =>
        rw [chars] at starts remark
        cases starts
        rcases blank with rfl | rfl <;> cases remark

end Line

namespace Script

/-- The lines of a flat script around its body. -/
theorem lines_flat (body : List String) :
    flat body = ⟨["import numpy as np", "import matplotlib.pyplot as plt", ""] ++ body ++
      ["# Render", "fig.savefig(\"figure.png\")"]⟩ := by
  simp only [flat, header, footer, renderHeading, List.append_assoc, List.cons_append,
    List.nil_append]

/-- The lines of a script with a function, around and inside of it. -/
theorem lines_wrapped (style : IndentStyle) (body : List String) :
    wrapped style body = ⟨["import numpy as np", "import matplotlib.pyplot as plt", "", "",
        "def draw_figure():"] ++
      (body.map fun line => if line = "" then "" else style.unit ++ line) ++
      [style.unit ++ "return fig", "", "", "# Render", "fig = draw_figure()",
        "fig.savefig(\"figure.png\")"]⟩ := by
  have front : header ++ ["", "", "def " ++ entry ++ "():"] =
      ["import numpy as np", "import matplotlib.pyplot as plt", "", "", "def draw_figure():"] := by
    decide
  have call : "fig = " ++ entry ++ "()" = "fig = draw_figure()" := by decide
  rw [wrapped, front, style.indent_one, style.indent_one, call]
  simp [renderHeading, footer]

end Script

/-- Both shapes of the script of a consistent chart are written from one body. The flat script holds
it as it is, whatever the indentation. The function holds it with a unit in front of each line that
is not empty. No line of the body starts with a blank, and the body comes back when the units are
taken away. -/
theorem ConsistentChart.shapes_agree (checked : ConsistentChart) :
    ∃ body : List String,
      (∀ indent : Option IndentStyle, (checked.render ⟨some .procedure, indent⟩).value =
        .ok ⟨["import numpy as np", "import matplotlib.pyplot as plt", ""] ++ body ++
          ["# Render", "fig.savefig(\"figure.png\")"]⟩) ∧
      (∀ style : IndentStyle, (checked.render ⟨some .function, some style⟩).value =
        .ok ⟨["import numpy as np", "import matplotlib.pyplot as plt", "", "",
            "def draw_figure():"] ++
          (body.map fun line => if line = "" then "" else style.unit ++ line) ++
          [style.unit ++ "return fig", "", "", "# Render", "fig = draw_figure()",
            "fig.savefig(\"figure.png\")"]⟩) ∧
      (∀ line ∈ body, line.toList.head? ≠ some ' ' ∧ line.toList.head? ≠ some '\t') ∧
      ∀ style : IndentStyle,
        (body.map fun line => if line = "" then "" else style.unit ++ line).map style.outdent =
          body := by
  refine ⟨checked.chart.body.map Line.render, fun indent => ?_, fun style => ?_, ?_,
    fun style => ?_⟩
  · rw [checked.value_render, ← Script.lines_flat]
    rfl
  · rw [checked.value_render, ← Script.lines_wrapped]
    rfl
  · intro text member
    obtain ⟨line, -, rfl⟩ := List.mem_map.1 member
    exact ⟨line.head?_render_ne (.inl rfl), line.head?_render_ne (.inr rfl)⟩
  · rw [← style.indent_one, style.map_outdent_indent]

end ChartScript
