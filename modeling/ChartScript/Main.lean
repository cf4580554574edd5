import ChartScript.Command.Run

/-!
# The command line

The outer layer: it reads the arguments, the input and the environment, and carries out what
`ChartScript.Command` decides.
-/

open ChartScript ChartScript.Command

/-- The obstacle that a system error stands for. -/
def obstacleOf (error : IO.Error) : Obstacle :=
  match error with
  | .noFileOrDirectory .. => .absent
  | .inappropriateType _ code _ => if code = 20 then .notDirectory else .isDirectory
  | .invalidArgument _ 36 _ => .tooLong
  | .resourceExhausted _ 28 _ => .noSpace
  | _ => .other (toString error)

/-- The bytes of the input of a command. -/
def readInput (command : Command) : IO (Except Obstacle ByteArray) := do
  try
    if command.readsStdin then return .ok (← (← IO.getStdin).readBinToEnd)
    else return .ok (← IO.FS.readBinFile command.file)
  catch error => return .error (obstacleOf error)

/-- Writes a response to the streams and returns its exit code. -/
def deliver (response : Response) : IO UInt32 := do
  IO.print response.stdout
  IO.eprint response.stderr
  return response.code.toUInt32

/-- Runs the command that the arguments ask for. -/
def main (arguments : List String) : IO UInt32 := do
  match parseArguments arguments with
  | none =>
    IO.eprintln usage
    return failureCode.toUInt32
  | some request =>
    match request, request.answer with
    | _, some response => deliver response
    | .run command, none =>
      let filter := LogFilter.ofSetting (← IO.getEnv "RUST_LOG")
      match respond filter command (← readInput command) with
      | .finish response => deliver response
      | .save path content log =>
        let result ←
          try
            IO.FS.writeFile path content
            pure (.ok ())
          catch error => pure (.error (obstacleOf error))
        deliver (saved filter path log result)
    | _, none => return 0
