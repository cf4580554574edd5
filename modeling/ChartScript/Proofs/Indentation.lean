import ChartScript.Proofs.ClosedFields
import ChartScript.Script.Layout

/-!
# Levels of indentation

Indentation puts a margin in front of each line that is not empty, with as many units as there are
levels. Margins add up, so levels do. No line is lost or emptied, and the lines of two lists are
indented as those of one. The units in front of a line can be counted off again, which leaves the
line as it was, whatever it starts with. A word that names no style indents nothing.
-/

namespace ChartScript

/-- What stands behind a number of units at the start of a text, if all of them stand there. -/
def behindUnits? (unit : List Char) : Nat → List Char → Option (List Char)
  | 0, text => some text
  | level + 1, text => (unit.isPrefixOf? text).bind (behindUnits? unit level)

/-- A line without the units in front of it, if there are as many as that. An empty line has none. -/
def unindented? (unit : String) (level : Nat) (line : String) : Option String :=
  if line.isEmpty then some line
  else (behindUnits? unit.toList level line.toList).map String.ofList

namespace IndentStyle

variable (style : IndentStyle)

/-- The units of a number of levels. -/
def margin (level : Nat) : String := String.join (List.replicate level style.unit)

/-- A line with its margin. -/
def indented (level : Nat) (line : String) : String :=
  if line.isEmpty then "" else style.margin level ++ line

/-- Lines are indented one by one. -/
theorem indent_eq_map (level : Nat) (lines : List String) :
    indent style level lines = lines.map (style.indented level) := rfl

/-- One more level is one more unit in front. -/
theorem margin_succ (level : Nat) :
    style.margin (level + 1) = style.unit ++ style.margin level := by
  rw [margin, List.replicate_succ, String.join_cons, margin]

/-- The margin of a sum of levels is that of the one in front of that of the other. -/
theorem margin_add (m n : Nat) : style.margin (m + n) = style.margin n ++ style.margin m := by
  rw [margin, Nat.add_comm, List.replicate_add, String.join_append, margin, margin]

/-- No level has no margin. -/
theorem indented_zero (line : String) : style.indented 0 line = line := by
  rw [indented]
  split
  · next empty => exact (String.isEmpty_iff.1 empty).symm
  · rw [margin, List.replicate_zero, String.join_nil, String.empty_append]

/-- A margin empties no line and fills none. -/
theorem isEmpty_indented (level : Nat) (line : String) :
    (style.indented level line).isEmpty = line.isEmpty := by
  rw [indented]
  split
  · next empty => rw [empty]; rfl
  · next filled =>
    rw [Bool.eq_iff_iff, String.isEmpty_iff, String.isEmpty_iff, String.append_eq_empty_iff]
    rw [String.isEmpty_iff] at filled
    simp [filled]

/-- A line with two margins has the margin of their sum. -/
theorem indented_indented (m n : Nat) (line : String) :
    style.indented n (style.indented m line) = style.indented (m + n) line := by
  rw [indented, isEmpty_indented, indented, indented]
  split
  · rfl
  · rw [margin_add, String.append_assoc]

/-- Behind the units of a margin stands what the margin was put in front of. -/
theorem behindUnits?_margin (level : Nat) (text : List Char) :
    behindUnits? style.unit.toList level ((style.margin level).toList ++ text) = some text := by
  induction level with
  | zero => rfl
  | succ level ih =>
    have units : (style.margin (level + 1)).toList ++ text =
        style.unit.toList ++ ((style.margin level).toList ++ text) := by
      rw [margin_succ, String.toList_append, List.append_assoc]
    have front : style.unit.toList.isPrefixOf? (style.unit.toList ++
        ((style.margin level).toList ++ text)) = some ((style.margin level).toList ++ text) := by
      rw [List.isPrefixOf?_eq_some_iff_append_eq]
    rw [units, behindUnits?, front, Option.bind_some, ih]

/-- A line is what is left of it when its units are counted off. -/
theorem unindented?_indented (level : Nat) (line : String) :
    unindented? style.unit level (style.indented level line) = some line := by
  rw [unindented?, isEmpty_indented, indented]
  split
  · next empty => rw [String.isEmpty_iff.1 empty]
  · rw [String.toList_append, behindUnits?_margin, Option.map_some, String.ofList_toList]

/-- A word names the style that it is the label of. -/
theorem ofWord_eq_ok_iff {word : String} : ofWord word = .ok style ↔ word = style.label := by
  rw [ofWord, label, ← ClosedSet.ofLabel?_eq_some_iff IndentStyle.ofLabel?_label]
  cases (ClosedSet.ofLabel? word : Option IndentStyle) <;> simp

/-- Every other word is refused as it is. -/
theorem ofWord_eq_error_iff {word : String} {refusal : Refusal} :
    ofWord word = .error refusal ↔ word ∉ ["space", "tab"] ∧ refusal = .unknownIndent word := by
  have labels : word ∈ ["space", "tab"] ↔ ∃ style : IndentStyle, word = style.label := by
    constructor
    · intro listed
      rcases List.mem_cons.1 listed with space | tab
      · exact ⟨.space, space⟩
      · exact ⟨.tab, List.mem_singleton.1 tab⟩
    · rintro ⟨style, rfl⟩
      cases style <;> decide
  simp only [labels, ← ofWord_eq_ok_iff]
  rw [ofWord]
  cases (ClosedSet.ofLabel? word : Option IndentStyle) <;> simp [eq_comm]

end IndentStyle

/-- The words that name no style are refused, and no other words are. -/
theorem indentLines_eq_error_iff {lines : List String} {level : Nat} {word : String}
    {refusal : Refusal} :
    indentLines lines level word = .error refusal ↔
      word ∉ ["space", "tab"] ∧ refusal = .unknownIndent word := by
  rw [← IndentStyle.ofWord_eq_error_iff, indentLines]
  cases IndentStyle.ofWord word <;> simp

/-- Lines are indented in the style that the word names. -/
theorem indentLines_label (style : IndentStyle) (lines : List String) (level : Nat) :
    indentLines lines level style.label = .ok (indent style level lines) := by
  rw [indentLines, (IndentStyle.ofWord_eq_ok_iff style).2 rfl]

/-- A word stands for a style: lines are indented by as many units as there are levels. -/
structure IndentsBy (word unit : String) : Prop where
  /-- No level leaves lines as they are. -/
  zero : ∀ lines, indentLines lines 0 word = .ok lines
  /-- Levels on top of levels are their sum. -/
  add : ∀ lines m n, ((indentLines lines m word).bind fun inner => indentLines inner n word) =
    indentLines lines (m + n) word
  /-- Lists of lines are indented one after the other. -/
  append : ∀ lines more level, indentLines (lines ++ more) level word =
    (indentLines lines level word).bind fun front =>
      (indentLines more level word).map fun back => front ++ back
  /-- The lines are all there, the same ones are empty, and all others are left when the units in
  front of them are taken away. -/
  keeps : ∀ lines level, ∃ result, indentLines lines level word = .ok result ∧
    result.length = lines.length ∧
    result.map String.isEmpty = lines.map String.isEmpty ∧
    result.map (unindented? unit level) = lines.map some

/-- The word for a style indents by its units. -/
theorem IndentStyle.indentsBy (style : IndentStyle) : IndentsBy style.label style.unit where
  zero lines := by
    rw [indentLines_label, indent_eq_map, List.map_congr_left fun line _ => style.indented_zero line,
      List.map_id']
  add lines m n := by
    have sum : (indent style n (indent style m lines)) = indent style (m + n) lines := by
      rw [indent_eq_map, indent_eq_map, indent_eq_map, List.map_map]
      exact List.map_congr_left fun line _ => style.indented_indented m n line
    rw [indentLines_label, indentLines_label, ← sum]
    exact indentLines_label style (indent style m lines) n
  append lines more level := by
    rw [indentLines_label, indentLines_label, indentLines_label, indent_eq_map, List.map_append]
    rfl
  keeps lines level := by
    refine ⟨_, indentLines_label style lines level, ?_, ?_, ?_⟩
    · rw [indent_eq_map, List.length_map]
    · rw [indent_eq_map, List.map_map]
      exact List.map_congr_left fun line _ => style.isEmpty_indented level line
    · rw [indent_eq_map, List.map_map]
      exact List.map_congr_left fun line _ => style.unindented?_indented level line

/-- The two words for styles indent by four spaces and by one tab for each level. Every other word
is refused, whatever the lines and the level are. -/
theorem indentLines_levels :
    IndentsBy "space" "    " ∧ IndentsBy "tab" "\t" ∧
      ∀ word lines level refusal, indentLines lines level word = .error refusal ↔
        word ∉ ["space", "tab"] ∧ refusal = .unknownIndent word :=
  ⟨IndentStyle.indentsBy .space, IndentStyle.indentsBy .tab, fun _ _ _ _ =>
    indentLines_eq_error_iff⟩

/-- A line of one blank is not empty, so it has a margin. -/
example : indentLines ["", " "] 2 "tab" = .ok ["", "\t\t "] := rfl

end ChartScript
