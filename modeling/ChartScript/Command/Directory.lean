import ChartScript.Command.Device
import ChartScript.Command.FileSystem
import ChartScript.Command.Path

/-!
# A directory of files

A small file system on which a command can be run: a directory without others below it. A path that
names a file of the directory reaches it; the directory itself and those above it are directories.
From the top a path reaches the directories that every system has, and in one of them the devices.
Everything else is not there. What a command writes outside the directory is no part of it and
leaves it as it is.

This is one system among many, in which every file of the directory can be read and written. No
general statement about commands rests on it.
-/

namespace ChartScript.Command

/-- The files of a directory, each name once. -/
structure Directory where
  /-- The names and the bytes. -/
  files : List (String × ByteArray)

namespace Directory

/-- The most bytes of a path. -/
def longestPath : Nat := 4095

/-- The most bytes of a name. -/
def longestName : Nat := 255

/-- The directories at the top of every system. -/
def standardNames : List String :=
  ["bin", "boot", Device.directory, "etc", "home", "lib", "media", "mnt", "opt", "proc", "root",
    "run", "sbin", "srv", "sys", "tmp", "usr", "var"]

/-- A directory that a path can pass. -/
inductive Place where
  /-- The directory of the files. -/
  | here
  /-- A directory above it. -/
  | above
  /-- The top of all directories. -/
  | top
  /-- A directory at the top. -/
  | standard (name : String)
  deriving DecidableEq, Repr

/-- The directory above a place. -/
def Place.up : Place → Place
  | .here | .above => .above
  | .top | .standard _ => .top

/-- What a name stands for. -/
inductive Entry where
  /-- A file with these bytes. -/
  | file (bytes : ByteArray)
  /-- A device. -/
  | device (device : Device)
  /-- A directory. -/
  | directory (place : Place)

/-- Where a path leads. -/
inductive Target where
  /-- To a directory, by dots or by nothing at the end. -/
  | directory
  /-- To a name in a directory; `slashed` tells that a slash follows the name. -/
  | name (place : Place) (name : String) (slashed : Bool)
  deriving DecidableEq

/-- What a name stands for in a place, if it stands for anything. -/
def find? (directory : Directory) (place : Place) (name : String) :
    Except Obstacle (Option Entry) :=
  if longestName < name.utf8ByteSize then .error .tooLong
  else
    match place with
    | .here => .ok ((directory.files.lookup name).map .file)
    | .above => .ok none
    | .top =>
      .ok (if standardNames.contains name then some (.directory (.standard name)) else none)
    | .standard parent =>
      .ok (if parent = Device.directory then (Device.ofName? name).map .device else none)

/-- The directory to which a part leads that is not the last one. -/
def enter (directory : Directory) (place : Place) (part : String) : Except Obstacle Place :=
  if part = Path.stay then .ok place
  else if part = Path.up then .ok place.up
  else
    match directory.find? place part with
    | .ok (some (.directory place)) => .ok place
    | .ok (some _) => .error .notDirectory
    | .ok none => .error .absent
    | .error obstacle => .error obstacle

/-- Where the parts of a path lead from a place. -/
def follow (directory : Directory) (slashed : Bool) : Place → List String → Except Obstacle Target
  | _, [] => .ok .directory
  | place, [part] =>
    if part = Path.stay ∨ part = Path.up then .ok .directory else .ok (.name place part slashed)
  | place, part :: next :: more =>
    match directory.enter place part with
    | .ok place => directory.follow slashed place (next :: more)
    | .error obstacle => .error obstacle

/-- Where a path leads. -/
def target (directory : Directory) (text : String) : Except Obstacle Target :=
  if longestPath < text.utf8ByteSize then .error .tooLong
  else
    let path := Path.ofText text
    directory.follow path.slashed (if path.rooted then .top else .here) path.parts

/-- The bytes under a path, given those on standard input. -/
def read (directory : Directory) (stdin : ByteArray) (path : String) :
    Except Obstacle ByteArray :=
  match directory.target path with
  | .error obstacle => .error obstacle
  | .ok .directory => .error .isDirectory
  | .ok (.name place name slashed) =>
    match directory.find? place name with
    | .error obstacle => .error obstacle
    | .ok none => .error .absent
    | .ok (some (.directory _)) => .error .isDirectory
    | .ok (some (.file bytes)) => if slashed then .error .notDirectory else .ok bytes
    | .ok (some (.device device)) =>
      if slashed then .error .notDirectory else .ok (device.content stdin)

/-- The files with one put in or replaced. -/
def put (name : String) (bytes : ByteArray) :
    List (String × ByteArray) → List (String × ByteArray)
  | [] => [(name, bytes)]
  | (other, old) :: rest =>
    if other = name then (name, bytes) :: rest else (other, old) :: put name bytes rest

/-- Writes a file under a path. A slash at the end is refused whether or not there is a file of
that name, as no write makes a directory. A device takes the bytes and leaves the directory as it
is. -/
def write (directory : Directory) (path : String) (bytes : ByteArray) :
    Except Obstacle Directory :=
  match directory.target path with
  | .error obstacle => .error obstacle
  | .ok .directory => .error .isDirectory
  | .ok (.name place name slashed) =>
    if slashed then .error .isDirectory
    else
      match directory.find? place name with
      | .error obstacle => .error obstacle
      | .ok (some (.directory _)) => .error .isDirectory
      | .ok (some (.device .full)) => .error .noSpace
      | .ok (some (.device _)) => .ok directory
      | .ok _ => .ok (if place = .here then ⟨put name bytes directory.files⟩ else directory)

/-- The standard stream that a path leads to. -/
def stream? (directory : Directory) (path : String) : Option Stream :=
  match directory.target path with
  | .ok (.name place name false) =>
    match directory.find? place name with
    | .ok (some (.device device)) => device.stream?
    | _ => none
  | _ => none

/-- The file of the directory that a path leads to. -/
def file? (directory : Directory) (path : String) : Option String :=
  match directory.target path with
  | .ok (.name .here name false) => some name
  | _ => none

/-- Directories as the states of a file system, whose files are told by their names. What stands on
standard input can be read as a device. -/
def system (stdin : ByteArray) : FileSystem Directory String where
  read directory path := directory.read stdin path
  write := write
  stream := stream?
  file := file?
  content directory name := directory.files.lookup name

/-- The files of a directory that another does not have in the same state. -/
def changesFrom (after before : Directory) : List (String × ByteArray) :=
  after.files.filter fun (name, bytes) =>
    match before.files.lookup name with
    | some old => old.toList != bytes.toList
    | none => true

end Directory

end ChartScript.Command
