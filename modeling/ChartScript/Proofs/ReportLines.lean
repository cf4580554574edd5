import ChartScript.Proofs.Arising
import ChartScript.Proofs.CommandOutcome
import ChartScript.Proofs.NestedEvents
import ChartScript.Proofs.OneLine
import ChartScript.Proofs.PlainScript

/-!
# The lines of a report

A report is shown with a line feed between its causes. A cause tells a place and a message, and some
texts of the description enter these as they are: a key that is not declared, a name that is not
safe, a tag or a label that is not known, and a character that no unique identifier has. They may
hold line feeds, and then the cause takes more than one line. Nothing else can: a text of the wrong
kind is shown with its line feeds escaped, and the names of a chart that was read hold none.

So a report has one line for each cause exactly when no cause repeats a text with a line feed.
-/

namespace ChartScript

open Text

namespace Uuid

variable {text inner : List Char} {c : Char} {place : Nat}

/-- What stands between braces is in the text. -/
theorem subset_of_unbraced? (found : unbraced? text = some inner) : inner ⊆ text := by
  unfold unbraced? at found
  split at found
  · split at found <;> cases found
    exact List.subset_cons_of_subset _ (List.dropLast_subset _)
  · cases found

/-- What stands behind a resource lead is in the text. -/
theorem subset_of_unnamed? (found : unnamed? text = some inner) : inner ⊆ text := by
  rw [unnamed?] at found
  split at found <;> cases found
  exact List.drop_subset _ _

/-- What is looked at is in the text. -/
theorem subset_unwrap (text : List Char) : (unwrap text).1 ⊆ text := by
  unfold unwrap
  extract_lets size wrapped
  cases found : wrapped with
  | none => exact List.Subset.refl text
  | some inner =>
    simp only [wrapped] at found
    split_ifs at found
    · exact subset_of_unbraced? found
    · exact subset_of_unnamed? found

/-- Groups of the wrong lengths are no fault of a character. -/
theorem groupFault?_ne {promised lengths : List Nat} {group : Nat} :
    groupFault? group promised lengths ≠ some (.character c place) := by
  induction promised generalizing group lengths with
  | nil => simp [groupFault?]
  | cons expected promised ih =>
    cases lengths with
    | nil => simp [groupFault?]
    | cons found lengths =>
      rw [groupFault?]
      split
      · exact ih
      · simp

/-- A character that is found at fault is one of the text that was examined. -/
theorem mem_of_faultOf {plain : Bool} {start size : Nat}
    (found : faultOf text plain start size = .character c place) : c ∈ text := by
  rw [faultOf] at found
  split at found
  · next foreign at' first =>
    cases found
    rw [firstForeign?] at first
    split at first
    · cases first
    · next rest split =>
      cases first
      exact (List.dropWhile_sublist _).mem (split ▸ List.mem_cons_self)
  · extract_lets lengths at found
    split_ifs at found
    cases broken : groupFault? 0 (groupLengths.take 4) lengths with
    | none => simp [broken] at found
    | some fault =>
      rw [broken, Option.getD_some] at found
      rw [found] at broken
      exact absurd broken groupFault?_ne

/-- A character that is found at fault is one of the text that was looked at. -/
theorem mem_of_fault {grouped : Bool} (found : fault text grouped = .character c place) :
    c ∈ text := by
  unfold fault at found
  extract_lets size at found
  split_ifs at found
  · exact mem_of_faultOf found
  · split at found
    · next inner wrapped => exact subset_of_unbraced? wrapped (mem_of_faultOf found)
    · split at found
      · next inner wrapped => exact subset_of_unnamed? wrapped (mem_of_faultOf found)
      · exact mem_of_faultOf found

/-- A character that is found at fault is one of the text. -/
theorem mem_of_read {words : String} (misspelled : read words = .error (.character c place)) :
    c ∈ words.toList := by
  rw [read] at misspelled
  split at misspelled
  next looked grouped wrapped =>
  split at misspelled
  · cases misspelled
  · have found : fault looked grouped = .character c place := Except.error.inj misspelled
    have inside := subset_unwrap words.toList
    rw [wrapped] at inside
    exact inside (mem_of_fault found)

end Uuid

/-- A text of a value that the line of a failure repeats as it stands there. -/
inductive Json.Repeats (value : Json) : Failure → String → Prop where
  /-- A key that is not declared, at the end of its place. -/
  | key {parent : List Location.Step} {members : Members} {key : String}
      (object : value.at? parent = some (.object members)) (there : key ∈ members.keys) :
      Repeats value ⟨⟨parent ++ [.key key]⟩, .undeclared⟩ key
  /-- A name that is not safe. -/
  | name {place : Location} (space : Namespace) {raw : String}
      (leads : value.at? place.steps = some (.string raw)) :
      Repeats value ⟨place, .refusedName space raw⟩ raw
  /-- A tag that is not known. -/
  | tag {place : Location} {tag found : String} (known : List String)
      (tells : value.at? (place.steps ++ [.key tag]) = some (.string found)) :
      Repeats value ⟨place, .unknownTag tag found known⟩ found
  /-- A text that is no label. -/
  | label {place : Location} {found : String} (labels : List String)
      (leads : value.at? place.steps = some (.string found)) :
      Repeats value ⟨place, .unknownChoice found labels⟩ found
  /-- The only key of an object, if it is no label. -/
  | onlyKey {place : Location} {found : String} {inner : Json} (labels : List String)
      (leads : value.at? place.steps = some (.object [(found, inner)])) :
      Repeats value ⟨place, .unknownChoice found labels⟩ found
  /-- A character of a text that spells no unique identifier. -/
  | character {place : Location} {words : String} {c : Char} (i : Nat)
      (leads : value.at? place.steps = some (.string words)) (there : c ∈ words.toList) :
      Repeats value ⟨place, .uuid (.character c i)⟩ c.toString

namespace Json

variable {value inner : Json} {failure : Failure} {words : String}

/-- What is repeated of a value one step below is repeated of the whole. -/
theorem Repeats.under {step : Location.Step} (repeats : inner.Repeats failure words)
    (leads : value.at? [step] = some inner) :
    value.Repeats (failure.under ⟨[step]⟩) words := by
  have further (path : List Location.Step) : value.at? (step :: path) = inner.at? path :=
    at?_append_of_eq_some leads path
  cases repeats with
  | key object there => exact .key ((further _).trans object) there
  | name space leads => exact .name space ((further _).trans leads)
  | tag known tells => exact .tag known ((further _).trans tells)
  | label labels leads => exact .label labels ((further _).trans leads)
  | onlyKey labels leads => exact .onlyKey labels ((further _).trans leads)
  | character i leads there => exact .character i ((further _).trans leads) there

/-- A line feed in what is repeated is one in the line. -/
theorem Repeats.isOneLine (repeats : value.Repeats failure words)
    (single : IsOneLine failure.cause.line) : IsOneLine words := by
  obtain ⟨keys, message⟩ := Failure.isOneLine_line.1 single
  cases repeats with
  | key object there => exact keys _ (List.mem_append_right _ (List.mem_singleton_self _))
  | name space leads =>
    unfold Problem.message at message
    simp only [isOneLine_append, Problem.isOneLine_named] at message
    obtain ⟨⟨⟨⟨⟨⟨-, own⟩, -⟩, -⟩, -⟩, -⟩, -⟩ := message
    exact own
  | tag known tells =>
    unfold Problem.message at message
    simp only [isOneLine_append, Problem.isOneLine_named] at message
    obtain ⟨⟨⟨⟨⟨-, own⟩, -⟩, -⟩, -⟩, -⟩ := message
    exact own
  | label labels leads | onlyKey labels leads =>
    unfold Problem.message at message
    simp only [isOneLine_append, Problem.isOneLine_backQuoted] at message
    obtain ⟨⟨⟨-, own⟩, -⟩, -⟩ := message
    exact own
  | character i leads there =>
    unfold Problem.message Uuid.Fault.message at message
    simp only [isOneLine_append] at message
    obtain ⟨-, ⟨⟨-, own⟩, -⟩, -⟩ := message
    exact own

/-- What readers find is told on one line, if what is repeated of the value is. -/
theorem Misread.isOneLine_message {problem : Problem} (misread : value.Misread IsOneLine problem)
    (clear : ∀ words, value.Repeats ⟨.root, problem⟩ words → IsOneLine words) :
    IsOneLine problem.message := by
  apply Problem.isOneLine_message
  cases misread with
  | mismatch value found expected | notPositive value | manyKeys value =>
    exact List.forall_mem_nil _
  | label found labels => exact List.forall_mem_cons.2 ⟨clear found (.label _ rfl), labels⟩
  | onlyKey found inner labels =>
    exact List.forall_mem_cons.2 ⟨clear found (.onlyKey _ rfl), labels⟩
  | @uuid words fault misspelled =>
    cases fault with
    | character c i =>
      have there := Uuid.mem_of_read misspelled
      exact List.forall_mem_singleton.2 (clear _ (.character i rfl there))
    | length found | groupCount found | groupLength group expected found =>
      exact List.forall_mem_nil _
  | name space raw => exact List.forall_mem_singleton.2 (clear raw (.name space rfl))

/-- A failure that arises in a value has a line of its own, if what it repeats of the value is on
one line. -/
theorem Arises.isOneLine_line (arises : value.Arises IsOneLine (Misread IsOneLine) failure)
    (clear : ∀ words, value.Repeats failure words → IsOneLine words) :
    IsOneLine failure.cause.line := by
  have whole : Location.EachKey IsOneLine Location.root.steps := by
    simp [Location.EachKey, Location.root]
  induction arises with
  | read misread => exact Failure.isOneLine_line.2 ⟨whole, misread.isOneLine_message clear⟩
  | notList value | notDictionary value =>
    exact Failure.isOneLine_line.2 ⟨whole, .of_chars (by decide)⟩
  | untagged value word =>
    refine Failure.isOneLine_line.2 ⟨whole, Problem.isOneLine_message ?_⟩
    exact List.forall_mem_singleton.2 word
  | unknownTag word words tells =>
    have own := clear _ (.tag _ tells)
    refine Failure.isOneLine_line.2 ⟨whole, Problem.isOneLine_message ?_⟩
    exact List.forall_mem_cons.2 ⟨own, List.forall_mem_cons.2 ⟨word, words⟩⟩
  | missing word absent =>
    refine Failure.isOneLine_line.2 ⟨?_, .of_chars (by decide)⟩
    simpa [Location.EachKey, Location.key, Location.root] using word
  | @undeclared members key there =>
    have repeated : (object members).Repeats ⟨Location.root.key key, .undeclared⟩ key :=
      .key rfl there
    have own := clear key repeated
    refine Failure.isOneLine_line.2 ⟨?_, .of_chars (by decide)⟩
    simpa [Location.EachKey, Location.key, Location.root] using own
  | inside word leads deeper ih =>
    have inner := ih fun words repeats => clear words (repeats.under leads)
    obtain ⟨keys, message⟩ := Failure.isOneLine_line.1 inner
    refine Failure.isOneLine_line.2 ⟨?_, message⟩
    intro name member
    rcases List.mem_cons.1 member with here | further
    · exact word name here.symm
    · exact keys name further

end Json

namespace Chart

variable {chart : Chart} {failure : Failure}

/-- The words of a chart description are on one line. -/
theorem isOneLine_of_mem_words : ∀ word ∈ words, IsOneLine word := by
  simp only [words, List.forall_mem_cons]
  decide

/-- What is wrong with a description arises in it, over words of one line. -/
theorem arises_of_mem_failures {value : Json} (member : failure ∈ failures value) :
    value.Arises IsOneLine (Json.Misread IsOneLine) failure := by
  have lineStyles : ∀ label ∈ ClosedSet.labels LineStyle, IsOneLine label := by decide
  have indentStyles : ∀ label ∈ ClosedSet.labels IndentStyle, IsOneLine label := by decide
  have finds : schema.EachLeaf (FindsOnly (Json.Misread IsOneLine)) :=
    eachLeaf_schema_of Schema.misread_readText Schema.misread_readFloat Schema.misread_readBoolean
      Schema.misread_readUuid Schema.misread_readPositive Schema.misread_readName
      (fun _ _ refused => (Schema.misread_readChoice lineStyles refused).1)
      (fun _ _ refused => (Schema.misread_readChoice indentStyles refused).1)
  rw [failures_eq] at member
  exact schema.arises_of_mem (eachWord_schema isOneLine_of_mem_words) finds failure member

/-- What enters the wording of names that share a code is on one line. -/
theorem isOneLine_of_mem_repeatedFailures {space : Namespace} {names : List (Identifier space)}
    (member : failure ∈ repeatedFailures names) :
    ∀ text ∈ failure.problem.entered, IsOneLine text := by
  rw [repeatedFailures] at member
  split at member
  · cases member
  · rw [List.mem_singleton.1 member]
    exact List.forall_mem_map.2 fun name _ => name.isOneLine_raw

/-- What enters a wording about a whole chart is on one line: its names are safe. -/
theorem isOneLine_of_mem_entered (member : failure ∈ chart.inconsistencies) :
    ∀ text ∈ failure.problem.entered, IsOneLine text := by
  simp only [inconsistencies, List.mem_append] at member
  rcases member with
    ((((((axes | plots) | series) | unfit) | cell) | invocation) | drawing) | placed
  · exact isOneLine_of_mem_repeatedFailures axes
  · exact isOneLine_of_mem_repeatedFailures plots
  · exact isOneLine_of_mem_repeatedFailures series
  · rw [Figure.shapeFailures] at unfit
    split at unfit
    · cases unfit
    · rw [List.mem_singleton.1 unfit]
      exact List.forall_mem_nil _
  · rw [cellFailures, List.mem_filterMap] at cell
    obtain ⟨⟨cell, name⟩, -, fails⟩ := cell
    dsimp only at fails
    split at fails <;> cases fails
    exact List.forall_mem_singleton.2 name.isOneLine_raw
  · rw [invocationFailures, List.mem_flatMap] at invocation
    obtain ⟨⟨axes, i⟩, -, inside⟩ := invocation
    obtain ⟨⟨plot, j⟩, -, fails⟩ := List.mem_filterMap.1 inside
    dsimp only at fails
    split at fails <;> cases fails
    exact List.forall_mem_cons.2
      ⟨plot.isOneLine_raw, List.forall_mem_singleton.2 axes.name.isOneLine_raw⟩
  · rw [drawingFailures, List.mem_flatMap] at drawing
    obtain ⟨⟨plot, i⟩, -, inside⟩ := drawing
    obtain ⟨⟨field, series⟩, -, fails⟩ := List.mem_filterMap.1 inside
    dsimp only at fails
    split at fails <;> cases fails
    exact List.forall_mem_cons.2
      ⟨series.isOneLine_raw, List.forall_mem_singleton.2 plot.name.isOneLine_raw⟩
  · rw [Figure.placementFailures_eq, List.mem_filterMap] at placed
    obtain ⟨⟨cell, name⟩, -, fails⟩ := placed
    dsimp only at fails
    split at fails
    · split at fails <;> cases fails
      exact List.forall_mem_singleton.2 name.isOneLine_raw
    · cases fails

/-- What is wrong with a whole chart has a line of its own. -/
theorem isOneLine_line_of_mem (member : failure ∈ chart.inconsistencies) :
    IsOneLine failure.cause.line := by
  have words : ∀ name ∈ partKeys, IsOneLine name := by decide
  have message := Problem.isOneLine_message (isOneLine_of_mem_entered member)
  refine Failure.isOneLine_line.2 ⟨?_, message⟩
  exact fun name there => words name (mem_partKeys_of_mem_inconsistencies member name there)

end Chart

/-- A failure of a text that is turned down has a line of its own, if the texts of the description
that it repeats are on one line. -/
theorem ConsistentChart.isOneLine_line_of_mem {text : String} {report : Report}
    (refused : (ofText text).value = .error report) {failure : Failure}
    (member : failure ∈ report.failures)
    (clear : ∀ value words, Json.read text = .ok value → value.Repeats failure words →
      IsOneLine words) : IsOneLine failure.cause.line := by
  obtain misread | ⟨chart, -, refused⟩ := ofText_value_eq_error_iff.1 refused
  · cases document : Json.read text with
    | error fault =>
      rw [Chart.ofText_value_of_unreadable document] at misread
      cases misread
      have whole : Location.EachKey IsOneLine Location.root.steps := by
        simp [Location.EachKey, Location.root]
      rw [List.mem_singleton.1 member]
      exact Failure.isOneLine_line.2 ⟨whole, fault.isOneLine_message⟩
    | ok value =>
      rw [Chart.ofText_of_read document, Chart.value_construct] at misread
      have listed : failure ∈ Chart.failures value := by
        rw [Chart.failures, misread]
        exact member
      exact (Chart.arises_of_mem_failures listed).isOneLine_line fun words =>
        clear value words document
  · rw [Chart.value_confirm, Chart.check_eq_error_iff] at refused
    obtain ⟨-, rfl⟩ := refused
    exact Chart.isOneLine_line_of_mem member

namespace Report

variable {report : Report}

/-- The text of a report with failures falls apart into the lines of its causes. -/
theorem lines_text (some : report.failures ≠ []) :
    lines report.text = report.causes.flatMap fun cause => lines cause.line := by
  have rows : report.causes.map Cause.line ≠ [] := by
    simpa [causes] using some
  rw [text, lines_joined rows, List.flatMap_map]

/-- The lines of a report are those of its causes, one for each, exactly when each cause is on one
line. -/
theorem lines_text_eq_iff (some : report.failures ≠ []) :
    lines report.text = report.causes.map Cause.line ↔
      ∀ failure ∈ report.failures, IsOneLine failure.cause.line := by
  rw [lines_text some]
  constructor
  · intro same failure member
    have listed : failure.cause.line ∈ report.causes.map Cause.line :=
      List.mem_map_of_mem (List.mem_map_of_mem member)
    rw [← same] at listed
    obtain ⟨cause, -, inside⟩ := List.mem_flatMap.1 listed
    obtain ⟨piece, found, row⟩ := List.mem_map.1 inside
    rw [← row]
    exact .of_chars (not_mem_of_mem_pieces found)
  · intro each
    have single : ∀ row ∈ report.causes.map Cause.line, '\n' ∉ row.toList :=
      List.forall_mem_map.2 (List.forall_mem_map.2 each)
    rw [← List.flatMap_map, flatMap_lines single]

end Report

/-- About a text that is turned down only details are told. -/
theorem ConsistentChart.level_of_mem_events {text : String} {report : Report}
    (refused : (ofText text).value = .error report) :
    ∀ event ∈ (ofText text).events, event.level = .debug := by
  have read : ∀ event ∈ (Chart.ofText text).events, event.level = .debug := by
    rw [Chart.ofText]
    cases Json.read text with
    | error fault => exact List.forall_mem_nil _
    | ok value =>
      dsimp only
      rw [Chart.construct]
      cases Chart.ofJson value <;> exact List.forall_mem_singleton.2 rfl
  obtain misread | ⟨chart, made, refused⟩ := ofText_value_eq_error_iff.1 refused
  · rw [ofText, Told.events_onward_of_error misread]
    exact read
  · rw [Chart.value_confirm] at refused
    rw [ofText, Told.events_onward_of_ok made, Chart.events_confirm_of_error refused]
    exact List.forall_mem_append.2 ⟨read, List.forall_mem_singleton.2 rfl⟩

namespace Command

/-- The standard filter leaves details out. -/
theorem LogFilter.log_standard {events : List Event} (quiet : ∀ event ∈ events, event.level = .debug) :
    standard.log events = "" := by
  have none : events.filter standard.admits = [] := by
    rw [List.filter_eq_nil_iff]
    intro event member admitted
    have urgent : decide (event.level.rank ≤ Level.warn.rank) = true := admitted
    rw [quiet event member] at urgent
    cases urgent
  rw [log, none]
  rfl

/-- A command that is to report in words shows a header and the lines of the report, behind the log.
By the standard filter nothing is logged before. -/
theorem stderr_of_error {State File : Type} {system : FileSystem State File} {filter : LogFilter}
    {command : Command} {stdin : Except Obstacle ByteArray} {state : State} {text : String}
    {report : Report} (reads : command.Reads system stdin state text)
    (inWords : command.format = .text)
    (refused : (ConsistentChart.ofText text).value = .error report) :
    ∃ log, (filter = .standard → log = "") ∧
      (runOn system filter command stdin state).1.stderr = log ++ unlines
        ((toString report.failures.length ++ " validation error(s)") :: lines report.text) := by
  refine ⟨filter.log (ConsistentChart.ofText text).events ++
    filter.log (report.causes.map Event.rejected), ?_, ?_⟩
  · rintro rfl
    have details : ∀ event ∈ report.causes.map Event.rejected, event.level = .debug :=
      List.forall_mem_map.2 fun cause _ => rfl
    rw [LogFilter.log_standard (ConsistentChart.level_of_mem_events refused),
      LogFilter.log_standard details]
    rfl
  · have nothing : unlines [] = "" := rfl
    rw [runOn_of_error reads refused, inWords, rejection]
    dsimp only
    rw [unlines_cons, unlines_cons, unlines_cons, unlines_lines, nothing, String.append_empty]

end Command

/-- The text of a report in lines, and what a command shows of it. -/
structure Report.ToldInLines (text : String) (report : Report) : Prop where
  /-- The text falls apart into the lines of the causes, in their order. -/
  parts : lines report.text = report.causes.flatMap fun cause => lines cause.line
  /-- A cause has a line of its own exactly when every text of the description that it repeats is on
  one line. -/
  single : ∀ failure ∈ report.failures, lines failure.cause.line = [failure.cause.line] ↔
    ∀ value words, Json.read text = .ok value → value.Repeats failure words → IsOneLine words
  /-- The lines of the report are the causes, one for each, exactly when no cause repeats a text
  with a line feed. -/
  whole : lines report.text = report.causes.map Cause.line ↔
    ∀ failure ∈ report.failures, ∀ value words, Json.read text = .ok value →
      value.Repeats failure words → IsOneLine words
  /-- It is so for a text that is no document. -/
  unreadable : ∀ fault, Json.read text = .error fault →
    lines report.text = report.causes.map Cause.line
  /-- It is so for a chart that is turned down as a whole. -/
  constructed : ∀ chart, (Chart.ofText text).value = .ok chart →
    lines report.text = report.causes.map Cause.line
  /-- On every file system, a command that reports in words shows the number of causes and these
  lines, behind the log. By the standard filter nothing is logged before. -/
  shown : ∀ (State File : Type) (system : Command.FileSystem State File)
    (filter : Command.LogFilter) (command : Command)
    (stdin : Except Command.Obstacle ByteArray) (state : State),
    command.Reads system stdin state text → command.format = .text →
    ∃ log, (filter = .standard → log = "") ∧
      (Command.runOn system filter command stdin state).1.stderr = log ++ unlines
        ((toString report.causes.length ++ " validation error(s)") :: lines report.text)

/-- The report of a text that is turned down is told in the lines of its causes. A line feed in the
description opens a further line only through a text that a cause repeats as it stands there. -/
theorem Report.told_in_lines {text : String} {report : Report}
    (rejected : (Chart.ofText text).value = .error report ∨
      (ConsistentChart.ofText text).value = .error report) : ToldInLines text report := by
  have refused : (ConsistentChart.ofText text).value = .error report := by
    rcases rejected with misread | refused
    · exact ConsistentChart.ofText_value_eq_error_iff.2 (.inl misread)
    · exact refused
  have some := ConsistentChart.failures_ne_nil_of_ofText_error refused
  have own (failure : Failure) (member : failure ∈ report.failures) :
      IsOneLine failure.cause.line ↔ ∀ value words, Json.read text = .ok value →
        value.Repeats failure words → IsOneLine words := by
    constructor
    · exact fun single value words _ repeats => repeats.isOneLine single
    · exact ConsistentChart.isOneLine_line_of_mem refused member
  have whole : lines report.text = report.causes.map Cause.line ↔
      ∀ failure ∈ report.failures, ∀ value words, Json.read text = .ok value →
        value.Repeats failure words → IsOneLine words :=
    (Report.lines_text_eq_iff some).trans (forall₂_congr own)
  constructor
  case parts => exact Report.lines_text some
  case single =>
    intro failure member
    exact lines_eq_singleton_iff.trans (own failure member)
  case whole => exact whole
  case unreadable =>
    intro fault unreadable
    apply whole.2
    intro failure member value words document
    rw [unreadable] at document
    cases document
  case constructed =>
    intro chart made
    obtain misread | ⟨other, -, refused⟩ :=
      ConsistentChart.ofText_value_eq_error_iff.1 refused
    · rw [made] at misread
      cases misread
    · rw [Chart.value_confirm, Chart.check_eq_error_iff] at refused
      obtain ⟨-, rfl⟩ := refused
      exact (Report.lines_text_eq_iff some).2 fun failure member =>
        Chart.isOneLine_line_of_mem member
  case shown =>
    intro State File system filter command stdin state reads inWords
    rw [Report.length_causes]
    exact Command.stderr_of_error reads inWords refused

/-- A text whose only key goes on like a cause and then like the start of another. -/
def Chart.forgedText : String :=
  "\x7b\"a: Extra inputs are not permitted\\nrequest.b\":0\x7d"

/-- The report of the text, with six causes. -/
def Chart.forgedReport : Report :=
  ⟨[⟨Location.root.key "request_id", .missing⟩, ⟨Location.root.key "figure", .missing⟩,
    ⟨Location.root.key "axes", .missing⟩, ⟨Location.root.key "plot", .missing⟩,
    ⟨Location.root.key "data", .missing⟩,
    ⟨Location.root.key "a: Extra inputs are not permitted\nrequest.b", .undeclared⟩]⟩

/-- The lines of the report, as if there were seven causes. -/
def Chart.forgedLines : List String :=
  ["request.request_id: Field required", "request.figure: Field required",
    "request.axes: Field required", "request.plot: Field required", "request.data: Field required",
    "request.a: Extra inputs are not permitted", "request.b: Extra inputs are not permitted"]

/-- The text is turned down with the report. -/
theorem Chart.ofText_forgedText : (ofText forgedText).value = .error forgedReport := by
  have found : (Json.read forgedText).toOption.map failures = some forgedReport.failures := by
    decide +kernel
  obtain ⟨value, document, faults⟩ := Option.map_eq_some_iff.1 found
  rw [ofText_of_read (eq_ok_of_toOption document), value_construct]
  rw [failures] at faults
  cases read : ofJson value with
  | ok chart =>
    rw [read] at faults
    cases faults
  | error report =>
    rw [read] at faults
    exact congrArg Except.error (congrArg Report.mk faults)

/-- The report has a line too many: the key opens one that reads like a cause. -/
theorem Report.lines_forgedReport :
    (Chart.ofText Chart.forgedText).value = .error Chart.forgedReport ∧
      (ConsistentChart.ofText Chart.forgedText).value = .error Chart.forgedReport ∧
      Chart.forgedReport.causes.length = 6 ∧
      lines Chart.forgedReport.text = Chart.forgedLines ∧
      lines Chart.forgedReport.text ≠ Chart.forgedReport.causes.map Cause.line := by
  have misread := Chart.ofText_forgedText
  have joined : Chart.forgedReport.text = "\n".intercalate Chart.forgedLines := by
    decide +kernel
  have single : ∀ row ∈ Chart.forgedLines, IsOneLine row := by
    simp only [Chart.forgedLines, List.forall_mem_cons]
    exact ⟨.of_chars (by decide), .of_chars (by decide), .of_chars (by decide),
      .of_chars (by decide), .of_chars (by decide), .of_chars (by decide), .of_chars (by decide),
      List.forall_mem_nil _⟩
  have some : Chart.forgedLines ≠ [] := List.cons_ne_nil _ _
  have told : lines Chart.forgedReport.text = Chart.forgedLines := by
    rw [joined, lines_joined some, flatMap_lines single]
  refine ⟨misread, ConsistentChart.ofText_value_eq_error_iff.2 (.inl misread), rfl, told, ?_⟩
  rw [told]
  intro same
  cases congrArg List.length same

/-- The report of the text is told in the lines of its causes, the last of which takes two. -/
theorem Report.told_in_lines_forgedText :
    (Chart.ofText Chart.forgedText).value = .error Chart.forgedReport ∧
      ToldInLines Chart.forgedText Chart.forgedReport :=
  ⟨Chart.ofText_forgedText, told_in_lines (.inl Chart.ofText_forgedText)⟩

end ChartScript
