/-!
# File systems

What a command sees of the system it runs on: bytes are read and written under paths, and a path
can lead to a standard stream. Which paths there are, what stands under them and when the system
refuses is the system's own affair, so a file system is a parameter here, with states and files of
any kind. Reading and writing are atomic: reading changes nothing, and a write that fails leaves
the state as it was.

What is relied on is said by the laws. A write puts the bytes in the file that its path leads to
and leaves all other files alone; nothing is assumed about a path that leads to no file.
-/

namespace ChartScript.Command

/-- Why a file cannot be read or written. -/
inductive Obstacle where
  /-- There is nothing under the path. -/
  | absent
  /-- The path leads through a file. -/
  | notDirectory
  /-- The path names a directory. -/
  | isDirectory
  /-- The path or a name in it has too many bytes. -/
  | tooLong
  /-- There is no space for the text. -/
  | noSpace
  /-- The bytes are no text. -/
  | notText
  /-- Something else, in the system's words. -/
  | other (words : String)
  deriving DecidableEq, Repr

/-- The wording of an obstacle. -/
def Obstacle.message : Obstacle → String
  | .absent => "No such file or directory (os error 2)"
  | .notDirectory => "Not a directory (os error 20)"
  | .isDirectory => "Is a directory (os error 21)"
  | .tooLong => "File name too long (os error 36)"
  | .noSpace => "No space left on device (os error 28)"
  | .notText => "stream did not contain valid UTF-8"
  | .other words => words

/-- A standard stream that takes text. -/
inductive Stream where
  /-- Standard output. -/
  | output
  /-- Standard error. -/
  | errors
  deriving DecidableEq, Repr

/-- A file system. -/
structure FileSystem (State File : Type) where
  /-- The bytes under a path. -/
  read : State → String → Except Obstacle ByteArray
  /-- The state after bytes were written under a path. -/
  write : State → String → ByteArray → Except Obstacle State
  /-- The standard stream that a path leads to. What is written there is shown there. -/
  stream : State → String → Option Stream
  /-- The file that a path leads to. It need not be there yet. -/
  file : State → String → Option File
  /-- The bytes in a file that is there. -/
  content : State → File → Option ByteArray

/-- A write takes effect in the file that its path leads to, and there only. -/
structure FileSystem.IsLawful {State File : Type} (system : FileSystem State File) : Prop where
  /-- The file is made if it was not there, and holds the bytes that were written and no others. -/
  replaces : ∀ {state after : State} {path : String} {bytes : ByteArray} {file : File},
    system.write state path bytes = .ok after → system.file state path = some file →
      system.content after file = some bytes
  /-- Every other file is as it was. -/
  keeps : ∀ {state after : State} {path : String} {bytes : ByteArray} {file : File},
    system.write state path bytes = .ok after → system.file state path ≠ some file →
      system.content after file = system.content state file

end ChartScript.Command
