import ChartScript.Command.Run
import ChartScript.Proofs.Accepted
import ChartScript.Proofs.Emission
import ChartScript.Proofs.LawfulDirectory

/-!
# What a command leaves behind

A command whose input is no text, or whose script cannot be written, ends in failure; one whose
description is turned down reports that; any other succeeds. Both commands turn the same
descriptions down, with the same response. Nothing is written before a description was accepted and
rendered, so a command that does not succeed leaves all files as they were, and one that succeeds
changes no file but the one it was asked to write, which then holds what would have been printed.

All this holds on every file system whose writes take effect where their paths lead and nowhere
else. When a system refuses to read or to write is left open.

A command that was asked to write prints nothing, but a path may lead to standard output. What is
written there is shown there.
-/

namespace ChartScript.Command

/-- The path that a command is asked to write its script to. -/
def output : Command → Option String
  | .generate _ output .. => output
  | .validate .. => none

/-- The style that a command asks for. -/
def options : Command → ScriptOptions
  | .generate _ _ shape style _ => ⟨shape, style⟩
  | .validate .. => .none

/-- The bytes of an input are a text exactly when they are the text in UTF-8. -/
theorem decodeInput_eq_ok_iff {input : Except Obstacle ByteArray} {text : String} :
    decodeInput input = .ok text ↔ input = .ok text.toUTF8 := by
  have spelled (bytes : ByteArray) : String.fromUTF8? bytes = some text ↔ bytes = text.toUTF8 := by
    rw [String.fromUTF8?]
    split
    · next valid =>
      rw [Option.some.injEq]
      constructor
      · rintro rfl
        rfl
      · rintro rfl
        rfl
    · next invalid =>
      constructor
      · rintro ⟨⟩
      · rintro rfl
        exact absurd text.isValidUTF8 invalid
  cases input with
  | error obstacle => simp [decodeInput]
  | ok bytes =>
    rw [decodeInput, Except.ok.injEq, ← spelled]
    cases String.fromUTF8? bytes <;> simp

/-- The text that a report has on standard output. -/
def ReportFormat.printed (format : ReportFormat) (report : Report) : String :=
  match format with
  | .text => ""
  | .json => report.json ++ "\n"

section

variable {State File : Type} (system : FileSystem State File)

/-- The input of a command can be read, as a text. -/
def Reads (command : Command) (stdin : Except Obstacle ByteArray) (state : State) (text : String) :
    Prop :=
  command.input system stdin state = .ok text.toUTF8

/-- How a run of a command ends: its response, and the state after it. -/
inductive Ends (filter : LogFilter) (command : Command) (stdin : Except Obstacle ByteArray)
    (state : State) : Response × State → Prop where
  /-- The input cannot be read as text. -/
  | unread (unreadable : ∀ text, ¬ command.Reads system stdin state text) (log : String) :
      Ends filter command stdin state (⟨failureCode, "", log⟩, state)
  /-- The description is turned down. -/
  | rejected {text : String} {report : Report} (reads : command.Reads system stdin state text)
      (refused : (ConsistentChart.ofText text).value = .error report) :
      Ends filter command stdin state (rejection filter command.format
        (filter.log (ConsistentChart.ofText text).events) report, state)
  /-- The description is valid, which is all that was asked. -/
  | valid {text : String} {checked : ConsistentChart}
      (reads : command.Reads system stdin state text)
      (accepted : (ConsistentChart.ofText text).value = .ok checked)
      (asks : ∃ file format, command = .validate file format) (words log : String) :
      Ends filter command stdin state (⟨0, words, log⟩, state)
  /-- The script is printed. -/
  | printed {text : String} {script : Script} (reads : command.Reads system stdin state text)
      (rendered : (Script.render command.options text).value = .ok script)
      (asks : ∃ file shape style format, command = .generate file none shape style format)
      (log : String) :
      Ends filter command stdin state (⟨0, script.source, log⟩, state)
  /-- The script is written. -/
  | saved {text path : String} {script : Script} {after : State}
      (reads : command.Reads system stdin state text)
      (rendered : (Script.render command.options text).value = .ok script)
      (asks : command.output = some path)
      (writes : system.write state path script.source.toUTF8 = .ok after) (log : String) :
      Ends filter command stdin state
        (Response.shown ⟨0, "", log⟩ script.source (system.stream state path), after)
  /-- The script cannot be written. -/
  | unsaved {text path : String} {script : Script} {obstacle : Obstacle}
      (reads : command.Reads system stdin state text)
      (rendered : (Script.render command.options text).value = .ok script)
      (asks : command.output = some path)
      (hinders : system.write state path script.source.toUTF8 = .error obstacle) (log : String) :
      Ends filter command stdin state (⟨failureCode, "", log⟩, state)

/-- A run that writes a script to a path leaves behind what another run prints. -/
structure WritesPrinted (state : State) (path printed : String) (result : Response × State) :
    Prop where
  /-- The bytes that are printed are written under the path. -/
  written : system.write state path printed.toUTF8 = .ok result.2
  /-- No file is new or changed but the one that the path leads to. -/
  changed : ∀ file, system.content result.2 file ≠ system.content state file →
    system.file state path = some file
  /-- That file holds the bytes. -/
  holds : ∀ file, system.file state path = some file →
    system.content result.2 file = some printed.toUTF8
  /-- Nothing is printed, unless the path leads to standard output. -/
  silent : system.stream state path ≠ some .output → result.1.stdout = ""
  /-- There the bytes are shown. -/
  shows : system.stream state path = some .output → result.1.stdout = printed

/-- What every command does on a file system in a state, given what is read from standard input. -/
structure RunsWhole (filter : LogFilter) (stdin : Except Obstacle ByteArray) (state : State) :
    Prop where
  /-- A command fails exactly if its input cannot be read as text, or if a description is rendered
  and its script cannot be written. -/
  fails : ∀ command, (runOn system filter command stdin state).1.code = 2 ↔
    (∀ text, ¬ command.Reads system stdin state text) ∨
      ∃ text script path obstacle, command.Reads system stdin state text ∧
        (Script.render command.options text).value = .ok script ∧ command.output = some path ∧
        system.write state path script.source.toUTF8 = .error obstacle
  /-- A command rejects exactly the descriptions that can be read and are turned down. -/
  rejects : ∀ command, (runOn system filter command stdin state).1.code = 1 ↔
    ∃ text report, command.Reads system stdin state text ∧
      (ConsistentChart.ofText text).value = .error report
  /-- Otherwise it succeeds. -/
  succeeds : ∀ command, (runOn system filter command stdin state).1.code ≠ 2 →
    (runOn system filter command stdin state).1.code ≠ 1 →
      (runOn system filter command stdin state).1.code = 0
  /-- A command that does not succeed leaves everything as it was. -/
  keeps : ∀ command, (runOn system filter command stdin state).1.code ≠ 0 →
    (runOn system filter command stdin state).2 = state
  /-- A command that fails prints nothing. -/
  silent : ∀ command, (runOn system filter command stdin state).1.code = 2 →
    (runOn system filter command stdin state).1.stdout = ""
  /-- A command that rejects prints the report as JSON and a line feed, if that was asked for. -/
  reports : ∀ command text report, command.Reads system stdin state text →
    (ConsistentChart.ofText text).value = .error report →
      (runOn system filter command stdin state).1.stdout = command.format.printed report
  /-- Both commands reject the same input, with the same response, whatever script was asked for. -/
  agrees : ∀ file output shape style format,
    ((runOn system filter (.generate file output shape style format) stdin state).1.code = 1 ↔
        (runOn system filter (.validate file format) stdin state).1.code = 1) ∧
      ((runOn system filter (.validate file format) stdin state).1.code = 1 →
        runOn system filter (.generate file output shape style format) stdin state =
          runOn system filter (.validate file format) stdin state)
  /-- A command that is not asked to write leaves everything as it was. -/
  leaves : ∀ command, command.output = none →
    (runOn system filter command stdin state).2 = state
  /-- A command that succeeds in writing writes what it prints when it is not asked to write. -/
  writes : ∀ file path shape style format,
    (runOn system filter (.generate file (some path) shape style format) stdin state).1.code = 0 →
    ∃ printed,
      runOn system filter (.generate file none shape style format) stdin state =
          (printed, state) ∧
        printed.code = 0 ∧ WritesPrinted system state path printed.stdout
          (runOn system filter (.generate file (some path) shape style format) stdin state)

end

/-- What a command does with the text of a description that is turned down. -/
theorem process_of_error {filter : LogFilter} (command : Command) {text : String} {report : Report}
    (refused : (ConsistentChart.ofText text).value = .error report) :
    process filter command text = .finish (rejection filter command.format
      (filter.log (ConsistentChart.ofText text).events) report) := by
  cases command with
  | generate file output shape style format =>
    simp only [process, Script.render_value, refused, Script.events_render_of_error refused]
    rfl
  | validate file format =>
    simp only [process, refused]
    rfl

theorem code_rejection (filter : LogFilter) (format : ReportFormat) (log : String)
    (report : Report) : (rejection filter format log report).code = 1 := by
  cases format <;> rfl

theorem stdout_rejection (filter : LogFilter) (format : ReportFormat) (log : String)
    (report : Report) :
    (rejection filter format log report).stdout = format.printed report := by
  cases format <;> rfl

theorem Response.code_shown (response : Response) (content : String) (stream : Option Stream) :
    (response.shown content stream).code = response.code := by
  rcases stream with _ | _ | _ <;> rfl

/-- A response that prints nothing shows a text if the text went to standard output. -/
theorem Response.stdout_shown (code : Nat) (log content : String) (stream : Option Stream) :
    (shown ⟨code, "", log⟩ content stream).stdout =
      if stream = some .output then content else "" := by
  rcases stream with _ | _ | _ <;> simp [shown]

section

variable {State File : Type} {system : FileSystem State File} {filter : LogFilter}
  {command : Command} {stdin : Except Obstacle ByteArray} {state : State} {text : String}

/-- An input is one text at most. -/
theorem Reads.unique {other : String} (reads : command.Reads system stdin state text)
    (reads' : command.Reads system stdin state other) : text = other := by
  have first := decodeInput_eq_ok_iff.2 reads
  have second := decodeInput_eq_ok_iff.2 reads'
  exact Except.ok.inj (first.symm.trans second)

/-- Every run ends in one of these ways. -/
theorem runOn_ends (system : FileSystem State File) (filter : LogFilter) (command : Command)
    (stdin : Except Obstacle ByteArray) (state : State) :
    Ends system filter command stdin state (runOn system filter command stdin state) := by
  rw [runOn]
  cases decoded : decodeInput (command.input system stdin state) with
  | error obstacle =>
    have unreadable (text : String) : ¬ command.Reads system stdin state text := by
      intro reads
      rw [decodeInput_eq_ok_iff.2 reads] at decoded
      cases decoded
    simp only [respond, decoded]
    exact .unread unreadable _
  | ok text =>
    have reads : command.Reads system stdin state text := decodeInput_eq_ok_iff.1 decoded
    simp only [respond, decoded]
    cases described : (ConsistentChart.ofText text).value with
    | error report =>
      rw [process_of_error command described]
      exact .rejected reads described
    | ok checked =>
      cases command with
      | validate file format =>
        simp only [process, described]
        cases format <;> exact .valid reads described ⟨file, _, rfl⟩ _ _
      | generate file output shape style format =>
        have rendered : (Script.render ⟨shape, style⟩ text).value =
            .ok (checked.script ⟨shape, style⟩) :=
          Script.render_value_eq_ok_iff.2 ⟨checked, described, rfl⟩
        generalize checked.script ⟨shape, style⟩ = script at rendered
        simp only [process, rendered]
        cases output with
        | none => exact .printed reads rendered ⟨file, shape, style, format, rfl⟩ _
        | some path =>
          dsimp only
          cases writes : system.write state path script.source.toUTF8 with
          | error obstacle => exact .unsaved reads rendered rfl writes _
          | ok after => exact .saved reads rendered rfl writes _

/-- A run of a command whose input is turned down is a rejection. -/
theorem runOn_of_error {report : Report} (reads : command.Reads system stdin state text)
    (refused : (ConsistentChart.ofText text).value = .error report) :
    runOn system filter command stdin state = (rejection filter command.format
      (filter.log (ConsistentChart.ofText text).events) report, state) := by
  rw [runOn]
  simp only [respond, decodeInput_eq_ok_iff.2 reads, process_of_error command refused]

/-- A command fails exactly if its input cannot be read or its script cannot be written. -/
theorem code_eq_two_iff :
    (runOn system filter command stdin state).1.code = 2 ↔
      (∀ text, ¬ command.Reads system stdin state text) ∨
        ∃ text script path obstacle, command.Reads system stdin state text ∧
          (Script.render command.options text).value = .ok script ∧
          command.output = some path ∧
          system.write state path script.source.toUTF8 = .error obstacle := by
  have ends := runOn_ends system filter command stdin state
  generalize runOn system filter command stdin state = result at ends ⊢
  cases ends with
  | unread unreadable => exact iff_of_true rfl (.inl unreadable)
  | unsaved reads rendered asks hinders =>
    exact iff_of_true rfl (.inr ⟨_, _, _, _, reads, rendered, asks, hinders⟩)
  | rejected reads refused =>
    refine iff_of_false (by rw [code_rejection]; decide) ?_
    rintro (unreadable | ⟨_, _, _, _, reads', rendered, -⟩)
    · exact unreadable _ reads
    · obtain rfl := reads.unique reads'
      obtain ⟨_, accepted, -⟩ := Script.render_value_eq_ok_iff.1 rendered
      rw [refused] at accepted
      cases accepted
  | valid reads accepted asks =>
    obtain ⟨file, format, rfl⟩ := asks
    refine iff_of_false (by rintro ⟨⟩) ?_
    rintro (unreadable | ⟨_, _, _, _, -, -, ⟨⟩, -⟩)
    exact unreadable _ reads
  | printed reads rendered asks =>
    obtain ⟨file, shape, style, format, rfl⟩ := asks
    refine iff_of_false (by rintro ⟨⟩) ?_
    rintro (unreadable | ⟨_, _, _, _, -, -, ⟨⟩, -⟩)
    exact unreadable _ reads
  | saved reads rendered asks writes =>
    refine iff_of_false (by rw [Response.code_shown]; rintro ⟨⟩) ?_
    rintro (unreadable | ⟨_, _, _, _, reads', rendered', asks', hinders⟩)
    · exact unreadable _ reads
    · obtain rfl := reads.unique reads'
      obtain rfl := Option.some.inj (asks.symm.trans asks')
      obtain rfl := Except.ok.inj (rendered.symm.trans rendered')
      rw [writes] at hinders
      cases hinders

/-- A command rejects exactly what can be read and is turned down. -/
theorem code_eq_one_iff :
    (runOn system filter command stdin state).1.code = 1 ↔
      ∃ text report, command.Reads system stdin state text ∧
        (ConsistentChart.ofText text).value = .error report := by
  constructor
  · intro code
    have ends := runOn_ends system filter command stdin state
    generalize runOn system filter command stdin state = result at ends code
    cases ends with
    | rejected reads refused => exact ⟨_, _, reads, refused⟩
    | saved =>
      rw [Response.code_shown] at code
      cases code
    | unread | valid | printed | unsaved => cases code
  · rintro ⟨text, report, reads, refused⟩
    rw [runOn_of_error reads refused, code_rejection]

/-- A command that does not fail and does not reject succeeds. -/
theorem code_eq_zero (worked : (runOn system filter command stdin state).1.code ≠ 2)
    (accepted : (runOn system filter command stdin state).1.code ≠ 1) :
    (runOn system filter command stdin state).1.code = 0 := by
  have ends := runOn_ends system filter command stdin state
  generalize runOn system filter command stdin state = result at ends worked accepted ⊢
  cases ends with
  | unread | unsaved => exact absurd rfl worked
  | rejected =>
    rw [code_rejection] at accepted
    exact absurd rfl accepted
  | valid | printed => rfl
  | saved => rw [Response.code_shown]

/-- A command that writes nothing leaves everything as it was. -/
theorem state_runOn
    (quiet : (runOn system filter command stdin state).1.code ≠ 0 ∨ command.output = none) :
    (runOn system filter command stdin state).2 = state := by
  have ends := runOn_ends system filter command stdin state
  generalize runOn system filter command stdin state = result at ends quiet ⊢
  cases ends with
  | saved reads rendered asks =>
    rw [Response.code_shown, asks] at quiet
    rcases quiet with failed | ⟨⟨⟩⟩
    exact absurd rfl failed
  | unread | rejected | valid | printed | unsaved => rfl

/-- A command that fails prints nothing. -/
theorem stdout_of_code_two (failed : (runOn system filter command stdin state).1.code = 2) :
    (runOn system filter command stdin state).1.stdout = "" := by
  have ends := runOn_ends system filter command stdin state
  generalize runOn system filter command stdin state = result at ends failed ⊢
  cases ends with
  | unread | unsaved => rfl
  | rejected =>
    rw [code_rejection] at failed
    cases failed
  | saved =>
    rw [Response.code_shown] at failed
    cases failed
  | valid | printed => cases failed

section

variable {script : Script} {file path : String} {shape : Option ScriptShape}
  {style : Option IndentStyle} {format : ReportFormat}

/-- A script that is rendered is printed by a command that is not asked to write it. -/
theorem exists_printed
    (reads : (generate file none shape style format).Reads system stdin state text)
    (rendered : (Script.render ⟨shape, style⟩ text).value = .ok script) :
    ∃ log, runOn system filter (.generate file none shape style format) stdin state =
      (⟨0, script.source, log⟩, state) := by
  rw [runOn]
  simp only [respond, decodeInput_eq_ok_iff.2 reads, process, rendered]
  exact ⟨_, rfl⟩

/-- A script that is rendered is shown where a command writes it, which itself prints nothing. -/
theorem exists_saved {after : State}
    (reads : (generate file (some path) shape style format).Reads system stdin state text)
    (rendered : (Script.render ⟨shape, style⟩ text).value = .ok script)
    (writes : system.write state path script.source.toUTF8 = .ok after) :
    ∃ log, runOn system filter (.generate file (some path) shape style format) stdin state =
      (Response.shown ⟨0, "", log⟩ script.source (system.stream state path), after) := by
  rw [runOn]
  simp only [respond, decodeInput_eq_ok_iff.2 reads, process, rendered, writes]
  exact ⟨_, rfl⟩

/-- A run that succeeds in writing writes what a run prints that is not asked to write. -/
theorem writesPrinted_runOn (lawful : system.IsLawful)
    (succeeds : (runOn system filter (.generate file (some path) shape style format) stdin
      state).1.code = 0) :
    ∃ printed,
      runOn system filter (.generate file none shape style format) stdin state =
          (printed, state) ∧
        printed.code = 0 ∧ WritesPrinted system state path printed.stdout
          (runOn system filter (.generate file (some path) shape style format) stdin state) := by
  have ends := runOn_ends system filter (.generate file (some path) shape style format) stdin state
  generalize runOn system filter (.generate file (some path) shape style format) stdin state =
    result at ends succeeds ⊢
  cases ends with
  | unread | unsaved => cases succeeds
  | rejected =>
    rw [code_rejection] at succeeds
    cases succeeds
  | valid _ _ asks =>
    obtain ⟨_, _, ⟨⟩⟩ := asks
  | printed _ _ asks =>
    obtain ⟨_, _, _, _, ⟨⟩⟩ := asks
  | @saved text _ script after reads rendered asks writes log =>
    cases asks
    obtain ⟨log', printed⟩ := exists_printed reads rendered
    refine ⟨_, printed, rfl, writes, ?_, ?_, ?_, ?_⟩
    · intro file changed
      by_contra elsewhere
      exact changed (lawful.keeps writes elsewhere)
    · exact fun file => lawful.replaces writes
    · intro elsewhere
      rw [Response.stdout_shown, if_neg elsewhere]
    · intro output
      rw [Response.stdout_shown, if_pos output]

end

/-- On a file system whose writes take effect where their paths lead and nowhere else, every command
runs as a whole, whatever state the system is in and whatever is read from standard input. -/
theorem runsWhole (lawful : system.IsLawful) (filter : LogFilter)
    (stdin : Except Obstacle ByteArray) (state : State) :
    RunsWhole system filter stdin state where
  fails _ := code_eq_two_iff
  rejects _ := code_eq_one_iff
  succeeds _ := code_eq_zero
  keeps _ failed := state_runOn (.inl failed)
  silent _ := stdout_of_code_two
  reports command text report reads refused := by
    rw [runOn_of_error reads refused]
    exact stdout_rejection _ _ _ _
  agrees file output shape style format := by
    -- Reading looks at the file only, so both commands read the same.
    have same (text : String) :
        (generate file output shape style format).Reads system stdin state text ↔
          (validate file format).Reads system stdin state text := Iff.rfl
    constructor
    · simp only [code_eq_one_iff, same]
    · intro rejected
      obtain ⟨text, report, reads, refused⟩ := code_eq_one_iff.1 rejected
      rw [runOn_of_error reads refused, runOn_of_error ((same text).2 reads) refused]
      rfl
  leaves _ asks := state_runOn (.inr asks)
  writes _ _ _ _ _ := writesPrinted_runOn lawful

end

/-- A lone hyphen reads what stands on standard input. -/
theorem reads_hyphen {State File : Type} (system : FileSystem State File) {output : Option String}
    {shape : Option ScriptShape} {style : Option IndentStyle} {format : ReportFormat}
    (text : String) (state : State) :
    (generate "-" output shape style format).Reads system (.ok text.toUTF8) state text := by
  have hyphen : (Path.ofText "-").isStandardInput = true := by decide +kernel
  exact if_pos hyphen

/-- Commands run as a whole in an empty directory, where a file can be made for the script of the
small text. -/
theorem runsWhole_smallText :
    (Directory.system Script.smallText.toUTF8).IsLawful ∧
      RunsWhole (Directory.system Script.smallText.toUTF8) .standard
        (.ok Script.smallText.toUTF8) ⟨[]⟩ ∧
      (run .standard (.generate "-" (some "figure.py") none none .text)
        Script.smallText.toUTF8 ⟨[]⟩).1.code = 0 ∧
      (run .standard (.generate "-" (some "figure.py") none none .text)
        Script.smallText.toUTF8 ⟨[]⟩).2.files =
          [("figure.py", Script.smallScript.source.toUTF8)] := by
  have leads : (Directory.mk []).target "figure.py" = .ok (.name .here "figure.py" false) :=
    eq_ok_of_toOption (by decide +kernel)
  have writes : (Directory.mk []).write "figure.py" Script.smallScript.source.toUTF8 =
      .ok ⟨[("figure.py", Script.smallScript.source.toUTF8)]⟩ := by
    rw [Directory.write, leads]
    rfl
  obtain ⟨log, saved⟩ :
      ∃ log, run .standard (.generate "-" (some "figure.py") none none .text)
        Script.smallText.toUTF8 ⟨[]⟩ =
          (Response.shown ⟨0, "", log⟩ Script.smallScript.source
            ((Directory.mk []).stream? "figure.py"),
              ⟨[("figure.py", Script.smallScript.source.toUTF8)]⟩) :=
    exists_saved (reads_hyphen _ _ _) Script.render_smallText writes
  refine ⟨Directory.isLawful _, runsWhole (Directory.isLawful _) _ _ _, ?_⟩
  rw [saved, Response.code_shown]
  exact ⟨rfl, rfl⟩

/-- A script that is written to standard output as a device is shown there, although the command
was asked to write it and prints nothing itself. -/
theorem run_shows_script :
    (run .standard (.generate "-" (some "/dev/stdout") none none .text)
        Script.smallText.toUTF8 ⟨[]⟩).1.code = 0 ∧
      (run .standard (.generate "-" (some "/dev/stdout") none none .text)
        Script.smallText.toUTF8 ⟨[]⟩).1.stdout = Script.smallScript.source ∧
      Script.smallScript.source ≠ "" := by
  have leads : (Directory.mk []).target "/dev/stdout" =
      .ok (.name (.standard Device.directory) "stdout" false) :=
    eq_ok_of_toOption (by decide +kernel)
  have writes : (Directory.mk []).write "/dev/stdout" Script.smallScript.source.toUTF8 =
      .ok ⟨[]⟩ := by
    rw [Directory.write, leads]
    rfl
  have shows : (Directory.mk []).stream? "/dev/stdout" = some .output := by
    rw [Directory.stream?, leads]
    rfl
  obtain ⟨log, saved⟩ :
      ∃ log, run .standard (.generate "-" (some "/dev/stdout") none none .text)
        Script.smallText.toUTF8 ⟨[]⟩ =
          (Response.shown ⟨0, "", log⟩ Script.smallScript.source
            ((Directory.mk []).stream? "/dev/stdout"), ⟨[]⟩) :=
    exists_saved (reads_hyphen _ _ _) Script.render_smallText writes
  rw [saved, shows]
  exact ⟨rfl, rfl, by decide +kernel⟩

end ChartScript.Command
