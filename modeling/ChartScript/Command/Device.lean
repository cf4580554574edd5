import ChartScript.Command.FileSystem

/-!
# Devices

Names that every system has beside its files: a place where all text is lost, one that is always
full, and the three standard streams. They are reached by a path through the directory of devices.
-/

namespace ChartScript.Command

/-- A device. -/
inductive Device where
  /-- Takes every text and keeps none. -/
  | null
  /-- Has no space for a text. -/
  | full
  /-- Standard input. -/
  | input
  /-- Standard output. -/
  | output
  /-- Standard error. -/
  | errors
  deriving DecidableEq, Repr

namespace Device

/-- The directory of the devices. -/
def directory : String := "dev"

/-- The names in the directory of the devices. -/
def names : List (String × Device) :=
  [("null", .null), ("full", .full), ("stdin", .input), ("stdout", .output), ("stderr", .errors)]

/-- The device of a name. -/
def ofName? (name : String) : Option Device := names.lookup name

/-- What is read from a device, given what stands on standard input. -/
def content (stdin : ByteArray) : Device → ByteArray
  | .input => stdin
  | _ => .empty

/-- The standard stream that a device stands for. -/
def stream? : Device → Option Stream
  | .output => some .output
  | .errors => some .errors
  | _ => none

end Device

end ChartScript.Command
