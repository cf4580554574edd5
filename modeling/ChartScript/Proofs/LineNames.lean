import ChartScript.Proofs.NumberText
import ChartScript.Proofs.Parts

/-!
# The names of body lines

What a line stands for says which names it binds and which it reads. A line that does something is
read back with just these names: no part of its layout, its numbers or its literal is a name.
-/

namespace ChartScript

namespace Line

/-- The names that a line binds. -/
def binds : Line → List String
  | .subplots _ => ["fig", "axes"]
  | .bindAxes axes _ => [axes.code]
  | .bindSeries series => [series.name.code]
  | _ => []

/-- The names that a line reads. -/
def reads : Line → List String
  | .subplots _ => ["plt"]
  | .bindAxes _ _ => ["axes"]
  | .draw axes plot => axes.code :: plot.arguments
  | _ => []

end Line

namespace Scan

variable {depth : Nat} {before stop : Char} {bound read : List String} {rest : List Char}

/-- Between words, a character that belongs to none is only marked. -/
theorem step_resting (stops : isIdentifierTail stop = false) :
    step (resting depth before bound read) stop = (resting depth before bound read).mark stop :=
  wordless_nil depth before bound read stop [] stops

/-- A literal is passed over up to its closing quote. -/
theorem foldl_literal (scan : Scan) {quote : Char} {text : List Char}
    (opened : scan.quote = some quote) (clear : quote ∉ text) :
    (text ++ quote :: rest).foldl step scan =
      rest.foldl step { scan with before := quote, quote := none } := by
  have passed : text.foldl step scan = scan := by
    induction text with
    | nil => rfl
    | cons c text ih =>
      rw [List.mem_cons, not_or] at clear
      obtain ⟨first, others⟩ := clear
      have keeps : step scan c = scan := by
        rw [step, opened]
        exact if_neg (Ne.symm first)
      rw [List.foldl_cons, keeps, ih others]
  have closes : step scan quote = { scan with before := quote, quote := none } := by
    rw [step, opened]
    exact if_pos rfl
  rw [List.foldl_append, passed, List.foldl_cons, closes]

/-- Nothing is left to be read at the end of a statement. -/
theorem finish_resting :
    (resting depth before bound read).finish stop = resting depth before bound read :=
  finish_other (by decide)

/-- A numeral holds no name. -/
theorem wordless_toDigits (n : Nat) : Wordless (Nat.toDigits 10 n) :=
  wordless_of_digits fun _ member => Nat.isDigit_of_mem_toDigits (by decide) (by decide) member

/-- Opening a figure binds it and its subplots, and reads the plotting module. -/
theorem ofText_subplotsText (size : GridSize) :
    ofText (subplotsText size) = resting 0 ')' ["fig", "axes"] ["plt"] := by
  have chars : (subplotsText size).toList =
      "fig, axes = plt.subplots(".toList ++
        ((Nat.toDigits 10 size.rows ++ ',' :: ([] ++ ' ' :: Nat.toDigits 10 size.columns)) ++
          ',' :: " squeeze=False)".toList) := by
    rw [Line.toList_subplotsText]
    simp
  have opening : "fig, axes = plt.subplots(".toList.foldl step start =
      resting 1 '(' ["fig", "axes"] ["plt"] := by
    simp +decide [step, finish, mark, start, resting, inside]
  have numbers : Wordless
      (Nat.toDigits 10 size.rows ++ ',' :: ([] ++ ' ' :: Nat.toDigits 10 size.columns)) :=
    (wordless_toDigits _).join ',' (by decide)
      (wordless_nil.join ' ' (by decide) (wordless_toDigits _))
  have closing : " squeeze=False)".toList.foldl step (resting 1 ',' ["fig", "axes"] ["plt"]) =
      resting 0 ')' ["fig", "axes"] ["plt"] := by
    simp +decide [step, finish, mark, resting, inside]
  rw [ofText, chars, List.foldl_append, opening, numbers.foldl (by decide),
    mark_separator (by decide), closing, finish_resting]

/-- Binding axes binds their code, and reads the subplots. -/
theorem ofText_bindingText (axes : Identifier .axes) (cell : Cell) :
    ofText (bindingText axes.code cell) = resting 0 ']' [axes.code] ["axes"] := by
  have assignment : "= axes[".toList.foldl step (resting 0 ' ' [] [axes.code]) =
      resting 1 '[' [axes.code] ["axes"] := by
    simp +decide [step, finish, mark, resting, inside]
  rw [ofText, toList_bindingText, start, foldl_code axes (by decide) (by decide),
    List.foldl_append, List.nil_append, assignment, (wordless_toDigits _).foldl (by decide),
    List.foldl_cons]
  have between : (resting 1 '[' [axes.code] ["axes"]).mark ']' =
      resting 0 ']' [axes.code] ["axes"] := rfl
  have again : (resting 0 ']' [axes.code] ["axes"]).step '[' =
      resting 1 '[' [axes.code] ["axes"] := step_resting (by decide)
  rw [between, again, (wordless_toDigits _).foldl (by decide), between, List.foldl_nil,
    finish_resting]

/-- Binding a series binds its code, and reads nothing. -/
theorem ofText_bindSeries (series : Series) :
    ofText (Line.bindSeries series).render = resting 0 ']' [series.name.code] [] := by
  have chars : (Line.bindSeries series).render.toList =
      series.name.code.toList ++ ' ' :: ("= [".toList ++
        ((", ".intercalate (series.values.map scriptNumbers.render)).toList ++ ']' :: [])) := by
    rw [Line.render_bindSeries]
    simp [numberList]
  have assignment : "= [".toList.foldl step (resting 0 ' ' [] [series.name.code]) =
      resting 1 '[' [series.name.code] [] := by
    simp +decide [step, finish, mark, resting, inside]
  have closed : (resting 1 '[' [series.name.code] []).mark ']' =
      resting 0 ']' [series.name.code] [] := rfl
  rw [ofText, chars, start, foldl_code series.name (by decide) (by decide), List.foldl_append,
    List.nil_append, assignment, (wordless_numbers _).foldl (by decide), closed, List.foldl_nil,
    finish_resting]

/-- Drawing binds nothing, and reads the axes and the two series. -/
theorem ofText_drawingText (axes : Identifier .axes) (x y : Identifier .data) (style : LineStyle) :
    ofText (drawingText axes.code x.code y.code style.label) =
      resting 0 ')' [] [axes.code, x.code, y.code] := by
  have method : "plot(".toList.foldl step (resting 0 '.' [] [axes.code]) =
      resting 1 '(' [] [axes.code] := by
    simp +decide [step, finish, mark, resting, inside]
  have keyword : " linestyle='".toList.foldl step (resting 1 ',' [] [axes.code, x.code, y.code]) =
      { resting 1 '\'' [] [axes.code, x.code, y.code] with quote := some '\'' } := by
    simp +decide [step, finish, mark, resting, inside]
  have closing : ")".toList.foldl step (resting 1 '\'' [] [axes.code, x.code, y.code]) =
      resting 0 ')' [] [axes.code, x.code, y.code] := by
    simp +decide [step, finish, mark, resting, inside]
  have unquoted : '\'' ∉ style.label.toList := by
    cases style <;> decide
  rw [ofText, toList_drawingText, start, foldl_code axes (by decide) (by decide),
    List.foldl_append, List.nil_append, method, foldl_code x (by decide) (by decide),
    List.foldl_cons, step_resting (by decide), mark_separator (by decide),
    foldl_code y (by decide) (by decide), List.foldl_append, List.singleton_append,
    List.cons_append, List.singleton_append, keyword, foldl_literal _ rfl unquoted]
  exact (congrArg (finish · '\n') closing).trans finish_resting

end Scan

/-- A line that does something binds and reads the names that it stands for. -/
theorem Line.ofText_render {line : Line} (acts : line.isLoose = false) :
    Script.binds line.render = line.binds ∧ Script.reads line.render = line.reads := by
  rw [Script.binds, Script.reads]
  cases line with
  | blank => exact ⟨by decide, by decide⟩
  | heading block => cases acts
  | subplots size =>
    rw [render_subplots, Scan.ofText_subplotsText]
    exact ⟨rfl, rfl⟩
  | bindAxes axes cell =>
    rw [render_bindAxes, Scan.ofText_bindingText]
    exact ⟨rfl, rfl⟩
  | looseAxes axes => cases acts
  | bindSeries series =>
    rw [Scan.ofText_bindSeries]
    exact ⟨rfl, rfl⟩
  | draw axes plot =>
    obtain ⟨x, y, drawn⟩ := plot.relation.exists_plot
    rw [render_draw drawn, Scan.ofText_drawingText, reads, Plot.arguments, drawn]
    exact ⟨rfl, rfl⟩
  | looseDraw axes plot => cases acts

end ChartScript
