import ChartScript.Chart.Basic
import ChartScript.Json.Reader

/-!
# The schema of a chart description

The fields of every part of a chart, in the order in which they are checked, and the reading of a
chart from a value or a text. A text that is no JSON document is a single failure at the root;
otherwise every failure of the description is reported.
-/

namespace ChartScript

/-- The schema of a grid's size. -/
def GridSize.schema : Schema GridSize :=
  .object (((Fields.pure GridSize.mk).required "row" .positive).required "column" .positive)

/-- The schema of a figure's style. -/
def FigureStyle.schema : Schema FigureStyle :=
  .object
    ((((Fields.pure FigureStyle.mk).optional "style_name" .text).chosen
      "code_indent_style").defaulted "code_is_function"
      (Schema.boolean.map ScriptShape.ofFlag) ClosedSet.standard)

/-- The schema of a figure. -/
def Figure.schema : Schema Figure :=
  .object
    ((((Fields.pure Figure.mk).required "size" GridSize.schema).required "axes"
      (.list (.list (.nullable (.name .axes))))).defaulted "style" FigureStyle.schema .standard)

/-- The schema of the style of axes, which is a remark. -/
def Axes.styleSchema : Schema (Option String) :=
  .object ((Fields.pure id).optional "style_name" .text)

/-- The schema of axes. -/
def Axes.schema : Schema Axes :=
  .object
    ((((Fields.pure Axes.mk).required "name" (.name .axes)).required "plot"
      (.list (.name .plot))).defaulted "style" Axes.styleSchema none)

namespace Relation

/-- The key of the tag. -/
def tagKey : String := "relation"

/-- The fields of the relation with a tag. -/
def fields (_tag : String) : Fields Relation :=
  ((Fields.pure Relation.plot).required "x" (.name .data)).required "y" (.name .data)

/-- The schema of a relation. -/
def schema : Schema Relation := .tagged tagKey tags fields

end Relation

/-- The schema of the style of a plot. -/
def Plot.styleSchema : Schema (Option String × LineStyle) :=
  .object (((Fields.pure Prod.mk).optional "style_name" .text).chosen "linestyle")

/-- A plot of its three parts. -/
def Plot.ofParts (name : Identifier .plot) (relation : Relation)
    (style : Option String × LineStyle) : Plot :=
  ⟨name, relation, style.1, style.2⟩

/-- The schema of a plot. -/
def Plot.schema : Schema Plot :=
  .object
    ((((Fields.pure Plot.ofParts).required "name" (.name .plot)).required "data"
      Relation.schema).defaulted "style" Plot.styleSchema (none, ClosedSet.standard))

/-- The schema of a series. -/
def Series.schema : Schema Series :=
  .object (((Fields.pure Series.mk).required "name" (.name .data)).required "value" (.list .float))

namespace Chart

/-- The fields of a chart. -/
def fields : Fields Chart :=
  (((((Fields.pure Chart.mk).required "request_id" .uuid).required "figure"
    Figure.schema).required "axes" (.list Axes.schema)).required "plot"
    (.list Plot.schema)).required "data" (.list Series.schema)

/-- The schema of a chart description. -/
def schema : Schema Chart := .object fields

/-- The chart that a value describes. -/
def ofJson (value : Json) : Except Report Chart :=
  match schema.run .root value [] with
  | (some chart, []) => .ok chart
  | (_, failures) => .error ⟨failures⟩

end Chart

end ChartScript
