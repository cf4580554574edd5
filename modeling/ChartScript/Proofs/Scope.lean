import ChartScript.Proofs.LineNames
import ChartScript.Proofs.Repeated
import Mathlib.Data.List.Flatten

/-!
# Scopes of a script

Statements inside the function of a script see what is bound in front of them at either level;
statements outside see the outer level only. A list of statements has its reads bound when every
name that a statement reads is bound by one earlier statement that it sees. This is shown block by
block: what a block reads must be among the names seen before it, and none of these names may come
twice.
-/

namespace ChartScript

/-- A statement of a script with its level. -/
structure Statement where
  /-- The statement stands inside the function. -/
  nested : Bool
  /-- The text without the indentation of the function. -/
  text : String
  deriving DecidableEq

namespace Statement

/-- The names that a statement binds. -/
def binds (statement : Statement) : List String := Script.binds statement.text

/-- The names that a statement reads. -/
def reads (statement : Statement) : List String := Script.reads statement.text

/-- What another statement binds can be read here. -/
def sees (statement other : Statement) : Bool := statement.nested || !other.nested

/-- A line of a script as a statement. -/
def ofLine (shape : ScriptShape) (style : IndentStyle) (line : String) : Statement :=
  match shape with
  | .procedure => ⟨false, line⟩
  | .function => ⟨style.unit.toList.isPrefixOf line.toList, style.outdent line⟩

/-- A line of a body as a statement. Empty lines are not indented. -/
def inBody (shape : ScriptShape) (text : String) : Statement :=
  ⟨shape == .function && text != "", text⟩

/-- A line that was indented is a statement inside the function. -/
theorem ofLine_unit_append (style : IndentStyle) (line : String) :
    ofLine .function style (style.unit ++ line) = ⟨true, line⟩ := by
  rw [ofLine, style.outdent_unit_append, String.toList_append,
    List.isPrefixOf_iff_prefix.2 (List.prefix_append _ _)]

/-- Indented lines come back as the statements inside the function. -/
theorem map_ofLine_indent (style : IndentStyle) (lines : List String) :
    (indent style 1 lines).map (ofLine .function style) = lines.map (inBody .function) := by
  rw [style.indent_one, List.map_map]
  apply List.map_congr_left
  intro line _
  rw [Function.comp_apply, inBody]
  by_cases empty : line = ""
  · rw [empty]
    cases style <;> decide
  · rw [if_neg empty, ofLine_unit_append, bne_iff_ne.2 empty]
    rfl

end Statement

namespace Script

/-- The statements of a script: its lines without the remarks. -/
def statements (shape : ScriptShape) (style : IndentStyle) (script : Script) : List Statement :=
  (script.lines.map (Statement.ofLine shape style)).filter fun statement =>
    !isRemark statement.text

/-- The statements in front of a body. -/
def openingStatements (shape : ScriptShape) : List Statement :=
  (opening shape).map (Statement.mk false)

/-- The statements behind a body that stand at its level. -/
def returnStatements : ScriptShape → List Statement
  | .procedure => []
  | .function => [⟨true, "return fig"⟩]

/-- The statements that end a script. -/
def closingStatements : ScriptShape → List Statement
  | .procedure => []
  | .function => [⟨false, ""⟩, ⟨false, ""⟩, ⟨false, "fig = draw_figure()"⟩]

/-- The last statement of a script. -/
def saving : Statement := ⟨false, "fig.savefig(\"figure.png\")"⟩

/-- The statements of a body are its lines without the remarks. -/
theorem filter_inBody (shape : ScriptShape) (body : List String) :
    ((body.map (Statement.inBody shape)).filter fun statement => !isRemark statement.text) =
      (live body).map (Statement.inBody shape) := by
  rw [List.filter_map]
  rfl

/-- The statements of a body stand between fixed ones. -/
theorem statements_arrange (shape : ScriptShape) (style : IndentStyle) (body : List String) :
    (arrange shape style body).statements shape style =
      openingStatements shape ++ (live body).map (Statement.inBody shape) ++
        returnStatements shape ++ closingStatements shape ++ [saving] := by
  cases shape with
  | procedure =>
    have level : Statement.ofLine .procedure style = Statement.inBody .procedure := by
      funext line
      simp [Statement.ofLine, Statement.inBody]
    have front : ((header ++ [""]).map (Statement.inBody .procedure)).filter
        (fun statement => !isRemark statement.text) = openingStatements .procedure := by
      decide
    have back : (([renderHeading] ++ footer).map (Statement.inBody .procedure)).filter
        (fun statement => !isRemark statement.text) = [saving] := by
      decide
    have shaped : (arrange .procedure style body).lines =
        header ++ [""] ++ body ++ ([renderHeading] ++ footer) := by
      rw [← List.append_assoc]
      rfl
    rw [statements, shaped, level, List.map_append, List.map_append, List.filter_append,
      List.filter_append, front, filter_inBody, back, returnStatements, closingStatements,
      List.append_nil, List.append_nil]
  | function =>
    have front : ((header ++ ["", "", "def " ++ entry ++ "():"]).map
        (Statement.ofLine .function style)).filter (fun statement => !isRemark statement.text) =
          openingStatements .function := by
      cases style <;> decide
    have back : ((["", "", renderHeading, "fig = " ++ entry ++ "()"] ++ footer).map
        (Statement.ofLine .function style)).filter (fun statement => !isRemark statement.text) =
          closingStatements .function ++ [saving] := by
      cases style <;> decide
    have last : (live ["return fig"]).map (Statement.inBody .function) =
        returnStatements .function := by
      decide
    have shaped : (arrange .function style body).lines =
        header ++ ["", "", "def " ++ entry ++ "():"] ++ indent style 1 body ++
          indent style 1 ["return fig"] ++
          (["", "", renderHeading, "fig = " ++ entry ++ "()"] ++ footer) := by
      rw [← List.append_assoc]
      rfl
    rw [statements, shaped, List.map_append, List.map_append, List.map_append, List.filter_append,
      List.filter_append, List.filter_append, front, Statement.map_ofLine_indent,
      Statement.map_ofLine_indent, filter_inBody, filter_inBody, last, back, ← List.append_assoc]

end Script

namespace Statement

/-- The names that the statements which can be seen bind, in order. -/
def namesSeen (reader : Statement) (earlier : List Statement) : List String :=
  (earlier.filter reader.sees).flatMap binds

/-- The number of earlier statements that bind a name and can be seen. -/
def bindings (reader : Statement) (name : String) (earlier : List Statement) : Nat :=
  earlier.countP fun other => reader.sees other ∧ name ∈ other.binds

/-- Every name that a statement reads is bound by one statement before it that it sees. -/
def ReadsBound (earlier statements : List Statement) : Prop :=
  ∀ before reader after, statements = before ++ reader :: after →
    ∀ name ∈ reader.reads, reader.bindings name (earlier ++ before) = 1

/-- Statements in two blocks have their reads bound when each block has, the second one behind the
first. -/
theorem ReadsBound.append {earlier block next : List Statement} (first : ReadsBound earlier block)
    (second : ReadsBound (earlier ++ block) next) : ReadsBound earlier (block ++ next) := by
  intro before reader after split name reads
  rcases List.append_eq_append_iff.1 split with ⟨others, rfl, rest⟩ | ⟨others, rfl, rest⟩
  · rw [← List.append_assoc]
    exact second others reader after rest name reads
  · cases others with
    | nil =>
      have none := second [] reader after (by simpa using rest.symm) name reads
      simpa using none
    | cons other others =>
      obtain ⟨rfl, -⟩ := List.cons.inj rest
      exact first before reader others rfl name reads

/-- When no seen name comes twice, a seen name is bound by one statement. -/
theorem bindings_eq_one {reader : Statement} {name : String} {earlier : List Statement}
    (distinct : (reader.namesSeen earlier).Nodup) (seen : name ∈ reader.namesSeen earlier) :
    reader.bindings name earlier = 1 := by
  have once := countP_mem_eq_one distinct seen
  rw [List.countP_filter] at once
  rw [bindings, ← once]
  apply List.countP_congr
  intro other _
  simp only [decide_eq_true_eq, Bool.and_eq_true, and_comm]

/-- What is seen of two blocks is seen of each. -/
theorem namesSeen_append (reader : Statement) (earlier block : List Statement) :
    reader.namesSeen (earlier ++ block) = reader.namesSeen earlier ++ reader.namesSeen block := by
  rw [namesSeen, List.filter_append, List.flatMap_append]
  rfl

/-- A block has its reads bound when they are seen before the block and no seen name comes twice. -/
theorem readsBound_of_seen {earlier block : List Statement}
    (seen : ∀ reader ∈ block, ∀ name ∈ reader.reads, name ∈ reader.namesSeen earlier)
    (distinct : ∀ reader ∈ block, (reader.namesSeen (earlier ++ block)).Nodup) :
    ReadsBound earlier block := by
  rintro before reader after rfl name reads
  have member : reader ∈ before ++ reader :: after := by simp
  apply bindings_eq_one
  · have whole := distinct reader member
    rw [← List.append_assoc, namesSeen_append] at whole
    exact (List.nodup_append.1 whole).1
  · rw [namesSeen_append]
    exact List.mem_append_left _ (seen reader member name reads)

/-- A statement that sees all others sees all that they bind. -/
theorem namesSeen_eq {reader : Statement} {earlier : List Statement}
    (sees : ∀ other ∈ earlier, reader.sees other = true) :
    reader.namesSeen earlier = earlier.flatMap binds := by
  rw [namesSeen, List.filter_eq_self.2 sees]

/-- When no name is bound twice, no name is seen twice. -/
theorem nodup_namesSeen {reader : Statement} {earlier : List Statement}
    (distinct : (earlier.flatMap binds).Nodup) : (reader.namesSeen earlier).Nodup :=
  (List.filter_sublist.flatMap binds).nodup distinct

/-- Statements outside of the function see nothing that is bound inside. -/
theorem namesSeen_eq_nil {reader : Statement} {inner : List Statement}
    (outer : reader.nested = false)
    (level : ∀ statement ∈ inner, statement.nested = false → statement.binds = []) :
    reader.namesSeen inner = [] := by
  rw [namesSeen, List.flatMap_eq_nil_iff]
  intro other seen
  obtain ⟨member, sees⟩ := List.mem_filter.1 seen
  apply level other member
  simpa [Statement.sees, outer] using sees

/-- A statement that reads one name and binds none has its reads bound when it sees all statements
before it. -/
theorem readsBound_singleton {earlier : List Statement} {reader : Statement} {name : String}
    (reads : reader.reads = [name]) (none : reader.binds = [])
    (sees : ∀ other ∈ earlier, reader.sees other = true) (bound : name ∈ earlier.flatMap binds)
    (distinct : (earlier.flatMap binds).Nodup) : ReadsBound earlier [reader] := by
  apply readsBound_of_seen
  · intro other last name' read
    rw [List.mem_singleton.1 last] at read ⊢
    rw [reads, List.mem_singleton] at read
    rw [namesSeen_eq sees, read]
    exact bound
  · intro other _
    apply nodup_namesSeen
    rw [List.flatMap_append, List.flatMap_singleton, none, List.append_nil]
    exact distinct

/-- A block has its reads bound behind statements of which it sees nothing when it has without
them. -/
theorem readsBound_of_hidden {front inner rest block : List Statement}
    (hidden : ∀ reader ∈ block, reader.namesSeen inner = [])
    (seen : ∀ reader ∈ block, ∀ name ∈ reader.reads, name ∈ reader.namesSeen (front ++ rest))
    (distinct : ∀ reader ∈ block, (reader.namesSeen (front ++ (rest ++ block))).Nodup) :
    ReadsBound (front ++ inner ++ rest) block := by
  have skip : ∀ reader ∈ block, ∀ after,
      reader.namesSeen (front ++ inner ++ after) = reader.namesSeen (front ++ after) := by
    intro reader member after
    rw [namesSeen_append, namesSeen_append, namesSeen_append, hidden reader member,
      List.append_nil]
  apply readsBound_of_seen
  · intro reader member
    rw [skip reader member]
    exact seen reader member
  · intro reader member
    rw [List.append_assoc, skip reader member]
    exact distinct reader member

end Statement

namespace Script

/-- What stands in front of a body reads nothing. -/
theorem readsBound_opening (shape : ScriptShape) :
    Statement.ReadsBound [] (openingStatements shape) := by
  have nothing : ∀ reader ∈ openingStatements shape, reader.reads = [] := by
    cases shape <;> decide +kernel
  intro before reader after split name read
  rw [nothing reader (by rw [split]; simp)] at read
  cases read

/-- Nothing in front of a body stands inside the function. -/
theorem nested_of_mem_openingStatements {shape : ScriptShape} {statement : Statement}
    (member : statement ∈ openingStatements shape) : statement.nested = false := by
  obtain ⟨text, -, rfl⟩ := List.mem_map.1 member
  rfl

/-- Behind a body at the outer level, the figure of the body is saved. -/
theorem readsBound_closing_procedure {inner : List Statement}
    (level : ∀ statement ∈ inner, statement.nested = false)
    (figure : "fig" ∈ inner.flatMap Statement.binds)
    (distinct : ((openingStatements .procedure ++ inner).flatMap Statement.binds).Nodup) :
    Statement.ReadsBound (openingStatements .procedure ++ inner) [saving] := by
  have reads : saving.reads = ["fig"] := by decide +kernel
  have none : saving.binds = [] := by decide +kernel
  apply Statement.readsBound_singleton reads none
  · intro other member
    have outer : other.nested = false := by
      rcases List.mem_append.1 member with front | inside
      · exact nested_of_mem_openingStatements front
      · exact level other inside
    rw [Statement.sees, outer]
    rfl
  · rw [List.flatMap_append]
    exact List.mem_append_right _ figure
  · exact distinct

/-- Behind the function, its figure is returned, called for and saved. What the function binds is
not seen there. -/
theorem readsBound_closing_function {inner : List Statement}
    (level : ∀ statement ∈ inner, statement.nested = false → statement.binds = [])
    (figure : "fig" ∈ inner.flatMap Statement.binds)
    (distinct : ((openingStatements .function ++ inner).flatMap Statement.binds).Nodup) :
    Statement.ReadsBound (openingStatements .function ++ inner)
      (returnStatements .function ++ closingStatements .function ++ [saving]) := by
  have reads : (Statement.mk true "return fig").reads = ["fig"] := by decide +kernel
  have none : (Statement.mk true "return fig").binds = [] := by decide +kernel
  have bound : "fig" ∈ (openingStatements .function ++ inner).flatMap Statement.binds := by
    rw [List.flatMap_append]
    exact List.mem_append_right _ figure
  have outer : ∀ reader ∈ closingStatements .function ++ [saving], reader.nested = false := by
    decide
  have returned : Statement.ReadsBound (openingStatements .function ++ inner)
      (returnStatements .function) :=
    Statement.readsBound_singleton reads none (fun _ _ => rfl) bound distinct
  have called : Statement.ReadsBound
      (openingStatements .function ++ inner ++ returnStatements .function)
      (closingStatements .function) := by
    apply Statement.readsBound_of_hidden
    · intro reader last
      exact Statement.namesSeen_eq_nil (outer reader (List.mem_append_left _ last)) level
    · decide +kernel
    · decide +kernel
  have saved : Statement.ReadsBound
      (openingStatements .function ++ inner ++
        (returnStatements .function ++ closingStatements .function)) [saving] := by
    apply Statement.readsBound_of_hidden
    · intro reader last
      exact Statement.namesSeen_eq_nil (outer reader (List.mem_append_right _ last)) level
    · decide +kernel
    · decide +kernel
  exact (returned.append called).append saved

/-- The names that every script uses for itself. -/
def fixedNames : List String := ["np", "plt", "draw_figure", "fig", "axes"]

/-- What a script binds in front of the axes part is fixed. -/
theorem mem_fixedNames_of_opening {shape : ScriptShape} {name : String}
    (bound : name ∈ (openingStatements shape).flatMap Statement.binds ++ ["fig", "axes"]) :
    name ∈ fixedNames := by
  revert name
  cases shape <;> decide +kernel

/-- What a script binds behind its body is fixed. -/
theorem mem_fixedNames_of_closing {shape : ScriptShape} {statement : Statement}
    (member : statement ∈ returnStatements shape ++ closingStatements shape ++ [saving])
    {name : String} (bound : name ∈ statement.binds) : name ∈ fixedNames := by
  revert statement name
  cases shape <;> decide +kernel

/-- The variables of a script: the names that its axes part and its data part bind. -/
def assignedNames (lines : List String) : List String :=
  (live (part .axes lines) ++ live (part .data lines)).flatMap binds

/-- Every name of a script means one thing. -/
structure WellScoped (lines : List String) (statements : List Statement) : Prop where
  /-- Every variable is bound by one statement. -/
  once : ∀ name ∈ assignedNames lines,
    statements.countP (fun statement => name ∈ statement.binds) = 1
  /-- No variable comes twice. -/
  distinct : (assignedNames lines).Nodup
  /-- Variables are legal identifiers and no reserved words. -/
  legal : ∀ name ∈ assignedNames lines, isIdentifier name = true ∧ isReserved name = false
  /-- Variables are not among the names that every script uses. -/
  apart : ∀ name ∈ assignedNames lines, name ∉ fixedNames
  /-- A statement binds variables and names that every script uses, and no others. -/
  known : ∀ statement ∈ statements, ∀ name ∈ statement.binds,
    name ∈ assignedNames lines ∨ name ∈ fixedNames
  /-- A statement of the plot part draws two series on axes, which earlier statements of the data
  part and of the axes part bind. -/
  drawn : ∀ before reader after, statements = before ++ reader :: after →
    reader.text ∈ part .plot lines → ∃ axes x y style,
      reader.text = drawingText axes x y style ∧
      (∃ binder ∈ before, binder.text ∈ part .axes lines ∧ axes ∈ binder.binds) ∧
      (∃ binder ∈ before, binder.text ∈ part .data lines ∧ x ∈ binder.binds) ∧
      ∃ binder ∈ before, binder.text ∈ part .data lines ∧ y ∈ binder.binds
  /-- Every name that a statement reads is bound by one statement before it that it sees. -/
  closed : Statement.ReadsBound [] statements

end Script

end ChartScript
