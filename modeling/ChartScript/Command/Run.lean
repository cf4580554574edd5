import ChartScript.Command.Arguments
import ChartScript.Command.Directory
import ChartScript.Command.LogFilter
import ChartScript.Description

/-!
# Running a command

What a command does with its input, as data: the text for each stream, the exit code, and the file
it asks to be written. A command reads its whole input first and asks for a file only when all
else went well, so a command that fails changes nothing.
-/

namespace ChartScript.Command

/-- What a command leaves behind. -/
structure Response where
  /-- The exit code. -/
  code : Nat
  /-- The text on standard output. -/
  stdout : String
  /-- The text on standard error. -/
  stderr : String
  deriving DecidableEq

/-- The exit code of a description that was turned down. -/
def invalidCode : Nat := 1

/-- The exit code of a command that could not do its work, or was not understood. -/
def failureCode : Nat := 2

/-- The version of the program. -/
def version : String := "0.1.0"

/-- The name and version of the program. -/
def versionLine : String := "figgen " ++ version

/-- How the program is used. -/
def usage : String :=
  "Usage: figgen <generate|validate> <FILE> [--output PATH] [--shape procedure|function] " ++
    "[--indent space|tab] [--format text|json]"

/-- The path of a command's input. -/
def file : Command → String
  | .generate file .. => file
  | .validate file _ => file

/-- How a command reports failures. -/
def format : Command → ReportFormat
  | .generate _ _ _ _ format => format
  | .validate _ format => format

/-- The input is standard input. -/
def readsStdin (command : Command) : Bool := (Path.ofText command.file).isStandardInput

/-- The name of the input in messages. -/
def inputName (command : Command) : String :=
  if command.readsStdin then "stdin" else command.file

/-- What happens after the input was dealt with. -/
inductive Step where
  /-- Nothing more. -/
  | finish (response : Response)
  /-- A file is written; the log so far. -/
  | save (path : String) (content : String) (log : String)

/-- The response to an obstacle. -/
def failure (filter : LogFilter) (log words : String) : Response :=
  ⟨failureCode, "", log ++ filter.log [.failed words]⟩

/-- The response to a description that was turned down. -/
def rejection (filter : LogFilter) (format : ReportFormat) (log : String) (report : Report) :
    Response :=
  let log := log ++ filter.log (report.causes.map Event.rejected)
  match format with
  | .text =>
    ⟨invalidCode, "", log ++ Text.unlines
      [toString report.failures.length ++ " validation error(s)", report.text]⟩
  | .json => ⟨invalidCode, report.json ++ "\n", log⟩

/-- The bytes of the input as text. -/
def decodeInput (input : Except Obstacle ByteArray) : Except Obstacle String :=
  match input with
  | .error obstacle => .error obstacle
  | .ok bytes =>
    match String.fromUTF8? bytes with
    | some text => .ok text
    | none => .error .notText

/-- What a command does with the text of its input. -/
def process (filter : LogFilter) (command : Command) (text : String) : Step :=
  match command with
  | .generate _ output shape style format =>
    let told := Script.render ⟨shape, style⟩ text
    let log := filter.log told.events
    match told.value, output with
    | .error (.invalid report), _ => .finish (rejection filter format log report)
    | .error refusal, _ => .finish (failure filter log refusal.message)
    | .ok script, some path => .save path script.source log
    | .ok script, none => .finish ⟨0, script.source, log⟩
  | .validate _ format =>
    let told := ConsistentChart.ofText text
    let log := filter.log told.events
    match told.value, format with
    | .error report, _ => .finish (rejection filter format log report)
    | .ok _, .json => .finish ⟨0, "[]\n", log⟩
    | .ok checked, .text =>
      .finish ⟨0, "Request " ++ checked.chart.id.toText ++ " is valid\n", log⟩

/-- What a command does with its input. -/
def respond (filter : LogFilter) (command : Command) (input : Except Obstacle ByteArray) : Step :=
  match decodeInput input with
  | .ok text => process filter command text
  | .error obstacle =>
    .finish (failure filter ""
      ("Failed to read request from " ++ command.inputName ++ ": " ++ obstacle.message))

/-- The response once the file was written, or was not. -/
def saved (filter : LogFilter) (path log : String) (result : Except Obstacle Unit) : Response :=
  match result with
  | .ok () => ⟨0, "", log⟩
  | .error obstacle =>
    failure filter log ("Failed to write code to " ++ path ++ ": " ++ obstacle.message)

/-- A response after a text was written to a standard stream, or elsewhere: the streams show what
is written to them. -/
def Response.shown (response : Response) (content : String) : Option Stream → Response
  | some .output => { response with stdout := response.stdout ++ content }
  | some .errors => { response with stderr := response.stderr ++ content }
  | none => response

section

variable {State File : Type} (system : FileSystem State File)

/-- The bytes of a command's input: those on standard input, or those under a path. -/
def input (command : Command) (stdin : Except Obstacle ByteArray) (state : State) :
    Except Obstacle ByteArray :=
  if command.readsStdin then stdin else system.read state command.file

/-- Runs a command on a file system. -/
def runOn (filter : LogFilter) (command : Command) (stdin : Except Obstacle ByteArray)
    (state : State) : Response × State :=
  match respond filter command (input system command stdin state) with
  | .finish response => (response, state)
  | .save path content log =>
    match system.write state path content.toUTF8 with
    | .ok after => ((saved filter path log (.ok ())).shown content (system.stream state path), after)
    | .error obstacle => (saved filter path log (.error obstacle), state)

end

/-- Runs a command in a directory. -/
def run (filter : LogFilter) (command : Command) (stdin : ByteArray) (directory : Directory) :
    Response × Directory :=
  runOn (Directory.system stdin) filter command (.ok stdin) directory

/-- The response to a request that names no command. -/
def Request.answer : Request → Option Response
  | .version => some ⟨0, versionLine ++ "\n", ""⟩
  | .help => some ⟨0, usage ++ "\n", ""⟩
  | .run _ => none

end ChartScript.Command
