import ChartScript.Proofs.Accepted
import ChartScript.Proofs.Emission
import ChartScript.Proofs.Mirror
import ChartScript.Proofs.Respelling
import ChartScript.Proofs.SafeNames

/-!
# What a script does not depend on

A description may be varied without a trace in its script: another identifier, other remarks, other
spellings of names with hyphens for underscores or the other way round, each occurrence on its own,
and other names of plots. The values under all other keys stay as they are. What a varied
description is read as is a respelling of the chart, so it is accepted exactly when the chart is,
and its script has the same lines.
-/

namespace ChartScript

namespace Json

/-- Another unique identifier. -/
def NewIdentifier (_ value' : Json) : Prop :=
  ∃ words id, value' = .string words ∧ Uuid.read words = .ok id

/-- Another remark, or none. -/
def NewRemark (_ value' : Json) : Prop := value' = .null ∨ ∃ words, value' = .string words

/-- Another spelling of a name. -/
def NewSpelling (value value' : Json) : Prop :=
  ∃ raw raw', value = .string raw ∧ value' = .string raw' ∧ SameButHyphens raw raw'

/-- Another name of a plot, which is safe and has the new code, in any spelling. -/
def NewPlotName (rename : String → String) (value value' : Json) : Prop :=
  ∃ raw name : String, ∃ raw', value = .string raw ∧ value' = .string raw' ∧
    Namespace.plot.isSafe name = true ∧
    Namespace.plot.code name = rename (Namespace.plot.code raw) ∧ SameButHyphens name raw'

/-- An empty value stays, or a change is made. -/
def OrNull (change : Json → Json → Prop) (value value' : Json) : Prop :=
  value = .null ∧ value' = .null ∨ change value value'

/-- A change is made in each item of a list. -/
def InEach (change : Json → Json → Prop) (value value' : Json) : Prop :=
  ∃ items items', value = .array items ∧ value' = .array items' ∧ List.Forall₂ change items items'

/-- Changes are made under some keys, and what stands under other keys stays. -/
def Members.Vary (changes : List (String × (Json → Json → Prop))) (members members' : Members) :
    Prop :=
  List.Forall₂ (fun member member' => member'.1 = member.1 ∧
    ((changes.lookup member.1).getD fun value value' => value' = value) member.2 member'.2)
    members members'

/-- Changes are made under some keys of an object. -/
def Under (changes : List (String × (Json → Json → Prop))) (value value' : Json) : Prop :=
  ∃ members members' : Members, value = .object members ∧ value' = .object members' ∧
    members.Vary changes members'

/-- The remark of a style is changed. -/
def NewStyleName : Json → Json → Prop := OrNull (Under [("style_name", NewRemark)])

/-- A description is varied, its plots by a renaming of their codes. -/
def Varies (rename : String → String) : Json → Json → Prop :=
  Under [
    ("request_id", NewIdentifier),
    ("figure", Under [("axes", InEach (InEach (OrNull NewSpelling))), ("style", NewStyleName)]),
    ("axes", InEach (Under [("name", NewSpelling), ("plot", InEach (NewPlotName rename)),
      ("style", NewStyleName)])),
    ("plot", InEach (Under [("name", NewPlotName rename),
      ("data", Under [("x", NewSpelling), ("y", NewSpelling)]), ("style", NewStyleName)])),
    ("data", InEach (Under [("name", NewSpelling)]))]

section Members

variable {changes : List (String × (Json → Json → Prop))} {members members' : Members}

/-- Changes leave the keys. -/
theorem Members.Vary.keys (varied : members.Vary changes members') :
    members'.keys = members.keys :=
  map_eq_of_forall₂ (fun _ _ member => member.1) varied

/-- A value that is found stays or is changed, as its key says. -/
theorem Members.Vary.find? (varied : members.Vary changes members') {key : String} {value : Json}
    (found : members.find? key = some value) :
    ∃ value', members'.find? key = some value' ∧
      ((changes.lookup key).getD fun value value' => value' = value) value value' := by
  induction varied with
  | nil => cases found
  | @cons member member' _ _ first _ ih =>
    obtain ⟨name, held⟩ := member
    obtain ⟨name', held'⟩ := member'
    obtain ⟨rfl, change⟩ := first
    rw [Members.find?] at found ⊢
    split at found
    · next same =>
      cases found
      rw [if_pos same]
      exact ⟨held', rfl, same ▸ change⟩
    · next other =>
      rw [if_neg other]
      exact ih found

/-- What is missing stays missing. -/
theorem Members.Vary.find?_eq_none (varied : members.Vary changes members') {key : String}
    (missing : members.find? key = none) : members'.find? key = none := by
  rw [Members.find?_eq_none_iff] at missing ⊢
  rw [varied.keys]
  exact missing

/-- What stands under a key without a change is the same. -/
theorem Members.Vary.find?_eq (varied : members.Vary changes members') {key : String}
    (unchanged : changes.lookup key = none) : members'.find? key = members.find? key := by
  cases found : members.find? key with
  | none => exact varied.find?_eq_none found
  | some value =>
    obtain ⟨value', found', change⟩ := varied.find? found
    rw [unchanged] at change
    rw [found', show value' = value from change]

theorem Members.Vary.has_iff (varied : members.Vary changes members') {key : String}
    (unchanged : changes.lookup key = none) {Fits : Json → Prop} :
    members'.Has key Fits ↔ members.Has key Fits := by
  rw [Members.Has, Members.Has, varied.find?_eq unchanged]

theorem Members.Vary.mayHave_iff (varied : members.Vary changes members') {key : String}
    (unchanged : changes.lookup key = none) {Fits : Json → Prop} {Otherwise : Prop} :
    members'.MayHave key Fits Otherwise ↔ members.MayHave key Fits Otherwise := by
  rw [Members.MayHave, Members.MayHave, varied.find?_eq unchanged]

/-- A value that has to be there is changed. -/
theorem Members.Vary.has (varied : members.Vary changes members') {key : String}
    {change : Json → Json → Prop} (changed : changes.lookup key = some change)
    {Fits : Json → Prop} (has : members.Has key Fits) :
    ∃ value value', Fits value ∧ change value value' ∧ members'.find? key = some value' := by
  obtain ⟨value, found, fits⟩ := has
  obtain ⟨value', found', step⟩ := varied.find? found
  rw [changed] at step
  exact ⟨value, value', fits, step, found'⟩

/-- A remark is changed to another one or to none. -/
theorem Members.Vary.mayRemark (varied : members.Vary changes members')
    (changed : changes.lookup "style_name" = some NewRemark) :
    ∃ remark, members'.MayRemark remark := by
  cases found : members.find? "style_name" with
  | none => exact ⟨none, .inl ⟨.inl (varied.find?_eq_none found), rfl⟩⟩
  | some value =>
    obtain ⟨value', found', step⟩ := varied.find? found
    rw [changed] at step
    rcases step with rfl | ⟨words, rfl⟩
    · exact ⟨none, .inl ⟨.inr found', rfl⟩⟩
    · exact ⟨some words, .inr ⟨_, found', Json.noConfusion, words, rfl, rfl⟩⟩

/-- Changes leave the declared keys of an object. -/
theorem IsObject.under {value value' : Json} {declared : List String}
    (object : value.IsObject declared members) (varied : Under changes value value') :
    ∃ members', value'.IsObject declared members' ∧ members.Vary changes members' := by
  obtain ⟨rfl, known⟩ := object
  obtain ⟨_, members', ⟨⟩, rfl, step⟩ := varied
  refine ⟨members', ⟨rfl, ?_⟩, step⟩
  rw [step.keys]
  exact known

/-- In a style that is there the remark is changed, and one that is not stays missing. -/
theorem Members.Vary.style (varied : members.Vary changes members')
    (changed : changes.lookup "style" = some NewStyleName) {declared : List String}
    {Holds : Members → Prop} {Otherwise : Prop}
    (may : members.MayHave "style"
      (fun value => ∃ parts, value.IsObject declared parts ∧ Holds parts) Otherwise) :
    (members'.find? "style" = none ∨ members'.find? "style" = some .null) ∧ Otherwise ∨
      ∃ value' parts parts' remark, members'.find? "style" = some value' ∧ value' ≠ .null ∧
        value'.IsObject declared parts' ∧ Holds parts ∧
        parts.Vary [("style_name", NewRemark)] parts' ∧ parts'.MayRemark remark := by
  rcases may with ⟨missing | empty, otherwise⟩ | ⟨value, found, filled, parts, object, holds⟩
  · exact .inl ⟨.inl (varied.find?_eq_none missing), otherwise⟩
  · obtain ⟨value', found', step⟩ := varied.find? empty
    rw [changed] at step
    rcases step with ⟨-, rfl⟩ | ⟨_, _, ⟨⟩, -⟩
    exact .inl ⟨.inr found', otherwise⟩
  · obtain ⟨value', found', step⟩ := varied.find? found
    rw [changed] at step
    rcases step with ⟨rfl, -⟩ | step
    · exact absurd rfl filled
    · obtain ⟨parts', object', step⟩ := object.under step
      obtain ⟨remark, remarked⟩ := step.mayRemark rfl
      have filled' : value' ≠ .null := by
        rw [object'.1]
        exact Json.noConfusion
      exact .inr ⟨value', parts, parts', remark, found', filled', object', holds, step, remarked⟩

end Members

/-- Changes in each item of a list change the things that the items stand for. -/
theorem IsList.inEach {α : Type} {StandsFor : Json → α → Prop} {change : Json → Json → Prop}
    {value value' : Json} {things : List α} (list : value.IsList StandsFor things)
    (Related : α → α → Prop) (varied : InEach change value value')
    (each : ∀ item item' thing, StandsFor item thing → change item item' →
      ∃ thing', StandsFor item' thing' ∧ Related thing thing') :
    ∃ things', value'.IsList StandsFor things' ∧ List.Forall₂ Related things things' := by
  obtain ⟨items, rfl, stands⟩ := list
  obtain ⟨_, items', ⟨⟩, rfl, step⟩ := varied
  have all : ∃ things', List.Forall₂ StandsFor items' things' ∧
      List.Forall₂ Related things things' := by
    induction step generalizing things with
    | nil =>
      cases stands
      exact ⟨[], .nil, .nil⟩
    | cons first _ ih =>
      cases stands with
      | cons stand stands =>
        obtain ⟨thing', stand', related⟩ := each _ _ _ stand first
        obtain ⟨things', stands', all⟩ := ih stands
        exact ⟨thing' :: things', .cons stand' stands', .cons related all⟩
  obtain ⟨things', stands', related⟩ := all
  exact ⟨things', ⟨items', rfl, stands'⟩, related⟩

end Json

namespace Identifier

variable {space : Namespace}

/-- A name that is spelled anew is as safe as before, and keeps its code. -/
theorem exists_spelledBy {raw raw' : String} (safe : space.isSafe raw = true)
    (same : SameButHyphens raw raw') :
    ∃ name : Identifier space, name.SpelledBy (.string raw') ∧ name.code = space.code raw := by
  have codes : space.code raw' = space.code raw := by
    rw [Namespace.code, Namespace.code, underscored_eq_iff.2 same]
  have safe' : space.isSafe raw' = true := by
    simp only [Namespace.isSafe, codes, Bool.and_eq_true, bne_iff_ne] at safe ⊢
    refine ⟨⟨?_, safe.1.2⟩, safe.2⟩
    rintro rfl
    exact safe.1.1 (String.toList_inj.1 (List.forall₂_nil_right_iff.1 same))
  exact ⟨⟨raw', safe'⟩, ⟨raw', rfl, safe', rfl, rfl⟩, codes⟩

/-- Another spelling stands for a name with the same code. -/
theorem SpelledBy.newSpelling {name : Identifier space} {value value' : Json}
    (spelled : name.SpelledBy value) (varied : Json.NewSpelling value value') :
    ∃ name' : Identifier space, name'.SpelledBy value' ∧ name'.code = name.code := by
  obtain ⟨raw, rfl, safe, rfl, -⟩ := spelled
  obtain ⟨_, raw', ⟨⟩, rfl, same⟩ := varied
  exact exists_spelledBy safe same

/-- Another name of a plot stands for a plot with the new code. -/
theorem SpelledBy.newPlotName {rename : String → String} {name : Identifier .plot}
    {value value' : Json} (spelled : name.SpelledBy value)
    (varied : Json.NewPlotName rename value value') :
    ∃ name' : Identifier .plot, name'.SpelledBy value' ∧ name'.code = rename name.code := by
  obtain ⟨raw, rfl, -, rfl, -⟩ := spelled
  obtain ⟨_, new, raw', ⟨⟩, rfl, safe, code, same⟩ := varied
  obtain ⟨name', spelled', kept⟩ := exists_spelledBy safe same
  exact ⟨name', spelled', kept.trans code⟩

end Identifier

open Json

/-- The style of a figure keeps what it says about the script. -/
theorem FigureStyle.Mirrors.newStyleName {style : FigureStyle} {members members' : Members}
    {changes : List (String × (Json → Json → Prop))}
    (changed : changes.lookup "style" = some NewStyleName)
    (mirrored : members.MayHave "style" style.Mirrors (style = ⟨none, .space, .function⟩))
    (varied : members.Vary changes members') :
    ∃ style' : FigureStyle,
      members'.MayHave "style" style'.Mirrors (style' = ⟨none, .space, .function⟩) ∧
        style'.indent = style.indent ∧ style'.shape = style.shape := by
  rcases varied.style changed mirrored with ⟨missing, standard⟩ |
    ⟨value', _, parts', remark, found, filled, object, ⟨-, indent, shape⟩, step, remarked⟩
  · exact ⟨style, .inl ⟨missing, standard⟩, rfl, rfl⟩
  · rw [← step.mayHave_iff rfl] at indent shape
    exact ⟨⟨remark, style.indent, style.shape⟩,
      .inr ⟨value', found, filled, parts', object, remarked, indent, shape⟩, rfl, rfl⟩

/-- A cell keeps its code. -/
theorem Grid.CellMirrors.vary {value value' : Json} {content : Option (Identifier .axes)}
    (mirrored : CellMirrors value content) (varied : OrNull NewSpelling value value') :
    ∃ content', CellMirrors value' content' ∧
      content'.map Identifier.code = content.map Identifier.code := by
  rcases varied with ⟨rfl, rfl⟩ | varied
  · rcases mirrored with ⟨-, rfl⟩ | ⟨name, rfl, raw, ⟨⟩, -⟩
    exact ⟨none, .inl ⟨rfl, rfl⟩, rfl⟩
  · rcases mirrored with ⟨rfl, -⟩ | ⟨name, rfl, spelled⟩
    · obtain ⟨_, _, ⟨⟩, -⟩ := varied
    · obtain ⟨name', spelled', code⟩ := spelled.newSpelling varied
      exact ⟨some name', .inr ⟨name', rfl, spelled'⟩, congrArg some code⟩

/-- What a plot draws keeps its codes. -/
theorem Relation.Mirrors.vary {relation : Relation} {value value' : Json}
    (mirrored : relation.Mirrors value)
    (varied : Under [("x", NewSpelling), ("y", NewSpelling)] value value') :
    ∃ relation' : Relation, relation'.Mirrors value' ∧ relation'.codes = relation.codes := by
  obtain ⟨members, x, y, object, tag, hasX, hasY, rfl⟩ := mirrored
  obtain ⟨members', object', step⟩ := object.under varied
  obtain ⟨_, _, spelledX, changeX, foundX⟩ := step.has rfl hasX
  obtain ⟨_, _, spelledY, changeY, foundY⟩ := step.has rfl hasY
  obtain ⟨x', spelledX', codeX⟩ := spelledX.newSpelling changeX
  obtain ⟨y', spelledY', codeY⟩ := spelledY.newSpelling changeY
  have tag' : members'.Has "relation" fun value => value = .string "plot" := by
    rw [Members.Has, step.find?_eq rfl]
    exact tag
  refine ⟨.plot x' y', ⟨members', x', y', object', tag', ⟨_, foundX, spelledX'⟩,
    ⟨_, foundY, spelledY'⟩, rfl⟩, ?_⟩
  rw [Relation.codes_plot, Relation.codes_plot, codeX, codeY]

/-- A series keeps its code and its numbers. -/
theorem Series.Mirrors.vary {series : Series} {value value' : Json}
    (mirrored : series.Mirrors value) (varied : Under [("name", NewSpelling)] value value') :
    ∃ series' : Series, series'.Mirrors value' ∧ series.Respells series' := by
  obtain ⟨members, object, hasName, hasValue⟩ := mirrored
  obtain ⟨members', object', step⟩ := object.under varied
  obtain ⟨_, _, spelled, change, found⟩ := step.has rfl hasName
  obtain ⟨name', spelled', code⟩ := spelled.newSpelling change
  rw [Members.Has, ← step.find?_eq rfl] at hasValue
  exact ⟨⟨name', series.values⟩, ⟨members', object', ⟨_, found, spelled'⟩, hasValue⟩, code, rfl⟩

/-- A figure keeps its size, the codes in its cells and what its style says about the script. -/
theorem Figure.Mirrors.vary {figure : Figure} {value value' : Json}
    (mirrored : figure.Mirrors value)
    (varied : Under [("axes", InEach (InEach (OrNull NewSpelling))), ("style", NewStyleName)]
      value value') :
    ∃ figure' : Figure, figure'.Mirrors value' ∧ figure'.size = figure.size ∧
      figure'.grid.codes = figure.grid.codes ∧ figure'.style.indent = figure.style.indent ∧
      figure'.style.shape = figure.style.shape := by
  obtain ⟨members, object, hasSize, hasGrid, mayStyle⟩ := mirrored
  obtain ⟨members', object', step⟩ := object.under varied
  obtain ⟨_, _, rows, change, found⟩ := step.has rfl hasGrid
  obtain ⟨grid, rows', related⟩ := rows.inEach (fun cells cells' =>
      cells'.map (Option.map Identifier.code) = cells.map (Option.map Identifier.code)) change <| by
    intro row row' cells contents change
    obtain ⟨cells', contents', related⟩ := contents.inEach _ change
      fun _ _ _ content change => content.vary change
    exact ⟨cells', contents', map_eq_of_forall₂ (fun _ _ same => same) related⟩
  obtain ⟨style, mayStyle', indent, shape⟩ :=
    FigureStyle.Mirrors.newStyleName rfl mayStyle step
  rw [← step.has_iff rfl] at hasSize
  exact ⟨⟨figure.size, grid, style⟩, ⟨members', object', hasSize, ⟨_, found, rows'⟩, mayStyle'⟩,
    rfl, map_eq_of_forall₂ (fun _ _ same => same) related, indent, shape⟩

/-- Axes keep their code, and the plots that they invoke are renamed. -/
theorem Axes.Mirrors.vary {rename : String → String} {axes : Axes} {value value' : Json}
    (mirrored : axes.Mirrors value)
    (varied : Under [("name", NewSpelling), ("plot", InEach (NewPlotName rename)),
      ("style", NewStyleName)] value value') :
    ∃ axes' : Axes, axes'.Mirrors value' ∧ axes.Respells rename axes' := by
  obtain ⟨members, object, hasName, hasPlots, mayStyle⟩ := mirrored
  obtain ⟨members', object', step⟩ := object.under varied
  obtain ⟨_, _, spelled, change, foundName⟩ := step.has rfl hasName
  obtain ⟨name, spelled', code⟩ := spelled.newSpelling change
  obtain ⟨_, _, listed, change, foundPlots⟩ := step.has rfl hasPlots
  obtain ⟨plots, listed', related⟩ := listed.inEach
    (fun plot plot' => plot'.code = rename plot.code) change
    fun _ _ _ spelled change => spelled.newPlotName change
  have remark : ∃ remark, members'.MayHave "style"
      (fun value => ∃ members, value.IsObject ["style_name"] members ∧ members.MayRemark remark)
      (remark = none) := by
    rcases step.style rfl mayStyle with ⟨missing, -⟩ |
      ⟨value', _, parts', remark, found, filled, object, -, -, remarked⟩
    · exact ⟨none, .inl ⟨missing, rfl⟩⟩
    · exact ⟨remark, .inr ⟨value', found, filled, parts', object, remarked⟩⟩
  obtain ⟨remark, mayStyle'⟩ := remark
  exact ⟨⟨name, plots, remark⟩,
    ⟨members', object', ⟨_, foundName, spelled'⟩, ⟨_, foundPlots, listed'⟩, mayStyle'⟩,
    code, map_eq_of_forall₂ (fun _ _ same => same) related⟩

/-- A plot is renamed, and keeps what it draws and how. -/
theorem Plot.Mirrors.vary {rename : String → String} {plot : Plot} {value value' : Json}
    (mirrored : plot.Mirrors value)
    (varied : Under [("name", NewPlotName rename),
      ("data", Under [("x", NewSpelling), ("y", NewSpelling)]), ("style", NewStyleName)]
      value value') :
    ∃ plot' : Plot, plot'.Mirrors value' ∧ plot.Respells rename plot' := by
  obtain ⟨members, object, hasName, hasData, mayStyle⟩ := mirrored
  obtain ⟨members', object', step⟩ := object.under varied
  obtain ⟨_, _, spelled, change, foundName⟩ := step.has rfl hasName
  obtain ⟨name, spelled', code⟩ := spelled.newPlotName change
  obtain ⟨_, _, drawn, change, foundData⟩ := step.has rfl hasData
  obtain ⟨relation, drawn', codes⟩ := drawn.vary change
  have remark : ∃ remark, members'.MayHave "style"
      (fun value => ∃ members, value.IsObject ["style_name", "linestyle"] members ∧
        members.MayRemark remark ∧
        members.MayHave "linestyle"
          (fun value => Schema.readChoice LineStyle value = .ok plot.lineStyle)
          (plot.lineStyle = .solid))
      (remark = none ∧ plot.lineStyle = .solid) := by
    rcases step.style rfl mayStyle with ⟨missing, -, solid⟩ |
      ⟨value', _, parts', remark, found, filled, object, ⟨-, lineStyle⟩, step, remarked⟩
    · exact ⟨none, .inl ⟨missing, rfl, solid⟩⟩
    · rw [← step.mayHave_iff rfl] at lineStyle
      exact ⟨remark, .inr ⟨value', found, filled, parts', object, remarked, lineStyle⟩⟩
  obtain ⟨remark, mayStyle'⟩ := remark
  exact ⟨⟨name, relation, remark, plot.lineStyle⟩,
    ⟨members', object', ⟨_, foundName, spelled'⟩, ⟨_, foundData, drawn'⟩, mayStyle'⟩,
    code, codes, rfl⟩

/-- What a varied description is read as is a respelling of the chart. -/
theorem Chart.Mirrors.vary {rename : String → String} {chart : Chart} {value value' : Json}
    (mirrored : chart.Mirrors value) (varied : value.Varies rename value') :
    ∃ chart' : Chart, chart'.Mirrors value' ∧ chart.Respells rename chart' := by
  obtain ⟨members, object, hasId, hasFigure, hasAxes, hasPlots, hasSeries⟩ := mirrored
  obtain ⟨members', object', step⟩ := object.under varied
  obtain ⟨_, _, -, ⟨words, id, rfl, read⟩, foundId⟩ := step.has rfl hasId
  obtain ⟨_, _, mirrored, change, foundFigure⟩ := step.has rfl hasFigure
  obtain ⟨figure, figure', size, grid, indent, shape⟩ := mirrored.vary change
  obtain ⟨_, _, listed, change, foundAxes⟩ := step.has rfl hasAxes
  obtain ⟨axes, axes', axesRelated⟩ := listed.inEach _ change
    fun _ _ _ mirrored change => Axes.Mirrors.vary mirrored change
  obtain ⟨_, _, listed, change, foundPlots⟩ := step.has rfl hasPlots
  obtain ⟨plots, plots', plotsRelated⟩ := listed.inEach _ change
    fun _ _ _ mirrored change => Plot.Mirrors.vary mirrored change
  obtain ⟨_, _, listed, change, foundSeries⟩ := step.has rfl hasSeries
  obtain ⟨series, series', seriesRelated⟩ := listed.inEach _ change
    fun _ _ _ mirrored change => Series.Mirrors.vary mirrored change
  exact ⟨⟨id, figure, axes, plots, series⟩,
    ⟨members', object', ⟨_, foundId, words, rfl, read⟩, ⟨_, foundFigure, figure'⟩,
      ⟨_, foundAxes, axes'⟩, ⟨_, foundPlots, plots'⟩, ⟨_, foundSeries, series'⟩⟩,
    size, indent, shape, grid, axesRelated, plotsRelated, seriesRelated⟩

namespace Chart

/-- A varied description of a chart is read as a chart again. This one is confirmed exactly when the
first one is, and both scripts have the same lines, in whatever style they are written. -/
theorem ofJson_varied {rename : String → String} {chart : Chart} {value value' : Json}
    (constructed : ofJson value = .ok chart) (varied : value.Varies rename value')
    (apart : chart.KeepsApart rename) :
    ∃ chart', ofJson value' = .ok chart' ∧
      ((∃ checked, chart'.confirm.value = .ok checked) ↔
        ∃ checked, chart.confirm.value = .ok checked) ∧
      ∀ checked checked', chart.confirm.value = .ok checked →
        chart'.confirm.value = .ok checked' →
          ∀ options, (checked'.render options).value = (checked.render options).value := by
  have mirrored := reads_schema.1 (ofJson_eq_ok_iff.1 constructed)
  obtain ⟨chart', mirrored', respells⟩ := mirrored.vary varied
  refine ⟨chart', ofJson_eq_ok_iff.2 (reads_schema.2 mirrored'), ?_, ?_⟩
  · rw [exists_confirmed_iff, exists_confirmed_iff, respells.coherent_iff apart]
  · intro checked checked' confirmed confirmed' options
    rw [value_confirm, check_eq_ok_iff] at confirmed confirmed'
    subst confirmed confirmed'
    rw [checked.value_render, checked'.value_render,
      ConsistentChart.script_eq_of_respells respells apart]

/-- A description of axes in a cell, with a remark, and of a plot that they invoke. -/
def description (id cell axes plot : String) (remark : Json) : Json :=
  .object [
    ("request_id", .string id),
    ("figure", .object [
      ("size", .object [("row", .number (.integer 1 (by decide))),
        ("column", .number (.integer 1 (by decide)))]),
      ("axes", .array [.array [.string cell]])]),
    ("axes", .array [.object [("name", .string axes), ("plot", .array [.string plot]),
      ("style", .object [("style_name", remark)])]]),
    ("plot", .array [.object [("name", .string plot),
      ("data", .object [("relation", .string "plot"), ("x", .string "x"), ("y", .string "x")])]]),
    ("data", .array [.object [("name", .string "x"), ("value", .array [])]])]

/-- The chart of a description. -/
def described : Chart where
  id := ⟨0x1b4e28ba2fa111d2883f0016d3cca427⟩
  figure := ⟨⟨1, 1⟩, [[some ⟨"a-b", by decide⟩]], ⟨none, .space, .function⟩⟩
  axes := [⟨⟨"a_b", by decide⟩, [⟨"p", by decide⟩], some "r"⟩]
  plots := [⟨⟨"p", by decide⟩, .plot ⟨"x", by decide⟩ ⟨"x", by decide⟩, none, .solid⟩]
  series := [⟨⟨"x", by decide⟩, []⟩]

/-- The description is read as the chart. -/
theorem ofJson_description :
    ofJson (description "1b4e28ba-2fa1-11d2-883f-0016d3cca427" "a-b" "a_b" "p" (.string "r")) =
      .ok described := by
  apply eq_ok_of_toOption
  decide +kernel

/-- A new code for a plot. -/
def renamed (code : String) : String := if code = "p" then "q" else code

/-- With another identifier, other spellings, another name of its plot and no remark, the
description is a varied one. -/
theorem varies_description :
    (description "1b4e28ba-2fa1-11d2-883f-0016d3cca427" "a-b" "a_b" "p" (.string "r")).Varies
      renamed (description "1b4e28ba-2fa1-11d2-883f-0016d3cca428" "a_b" "a-b" "q" .null) := by
  have id : NewIdentifier (.string "1b4e28ba-2fa1-11d2-883f-0016d3cca427")
      (.string "1b4e28ba-2fa1-11d2-883f-0016d3cca428") := by
    refine ⟨_, ⟨0x1b4e28ba2fa111d2883f0016d3cca428⟩, rfl, ?_⟩
    decide +kernel
  have kept : NewSpelling (.string "x") (.string "x") := ⟨_, _, rfl, rfl, .cons (.inl rfl) .nil⟩
  have cell : NewSpelling (.string "a-b") (.string "a_b") :=
    ⟨_, _, rfl, rfl, .cons (.inl rfl) (.cons (.inr ⟨.inl rfl, .inr rfl⟩) (.cons (.inl rfl) .nil))⟩
  have axes : NewSpelling (.string "a_b") (.string "a-b") :=
    ⟨_, _, rfl, rfl, .cons (.inl rfl) (.cons (.inr ⟨.inr rfl, .inl rfl⟩) (.cons (.inl rfl) .nil))⟩
  have plot : NewPlotName renamed (.string "p") (.string "q") :=
    ⟨"p", "q", "q", rfl, rfl, by decide, by decide, .cons (.inl rfl) .nil⟩
  have remark : NewStyleName (.object [("style_name", .string "r")])
      (.object [("style_name", .null)]) := .inr ⟨_, _, rfl, rfl, .cons ⟨rfl, .inl rfl⟩ .nil⟩
  refine ⟨_, _, rfl, rfl, .cons ⟨rfl, id⟩ (.cons ⟨rfl, ?_⟩ (.cons ⟨rfl, ?_⟩ (.cons ⟨rfl, ?_⟩
    (.cons ⟨rfl, ?_⟩ .nil))))⟩
  · exact ⟨_, _, rfl, rfl, .cons ⟨rfl, rfl⟩ (.cons ⟨rfl, _, _, rfl, rfl,
      .cons ⟨_, _, rfl, rfl, .cons (.inr cell) .nil⟩ .nil⟩ .nil)⟩
  · exact ⟨_, _, rfl, rfl, .cons ⟨_, _, rfl, rfl, .cons ⟨rfl, axes⟩
      (.cons ⟨rfl, _, _, rfl, rfl, .cons plot .nil⟩ (.cons ⟨rfl, remark⟩ .nil))⟩ .nil⟩
  · exact ⟨_, _, rfl, rfl, .cons ⟨_, _, rfl, rfl, .cons ⟨rfl, plot⟩
      (.cons ⟨rfl, _, _, rfl, rfl, .cons ⟨rfl, rfl⟩ (.cons ⟨rfl, kept⟩ (.cons ⟨rfl, kept⟩ .nil))⟩
        .nil)⟩ .nil⟩
  · exact ⟨_, _, rfl, rfl, .cons ⟨_, _, rfl, rfl, .cons ⟨rfl, kept⟩ (.cons ⟨rfl, rfl⟩ .nil)⟩ .nil⟩

/-- The description and the varied one are read as charts with the same script. -/
theorem ofJson_varied_description :
    ofJson (description "1b4e28ba-2fa1-11d2-883f-0016d3cca427" "a-b" "a_b" "p" (.string "r")) =
        .ok described ∧
      described.KeepsApart renamed ∧
      ∃ chart', ofJson
          (description "1b4e28ba-2fa1-11d2-883f-0016d3cca428" "a_b" "a-b" "q" .null) = .ok chart' ∧
        ((∃ checked, chart'.confirm.value = .ok checked) ↔
          ∃ checked, described.confirm.value = .ok checked) ∧
        ∀ checked checked', described.confirm.value = .ok checked →
          chart'.confirm.value = .ok checked' →
            ∀ options, (checked'.render options).value = (checked.render options).value := by
  have apart : described.KeepsApart renamed := by
    unfold KeepsApart
    decide
  exact ⟨ofJson_description, apart, ofJson_varied ofJson_description varies_description apart⟩

end Chart

end ChartScript
