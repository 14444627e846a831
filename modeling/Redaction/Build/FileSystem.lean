import Redaction.Error
import Redaction.Ordered
import Redaction.Wire.Varint

/-!
# A tree of files

A tree of directories and files, seen from one directory at its root. A location is a list of names,
in which `..` leads one level up; it is found by walking down the tree, and only directories can be
walked through. Entries are kept under their plain locations, those without `..`, in the order of
these.

Hard and symbolic links, permissions and a full disk are outside of the model: each plain location
has an entry of its own, and the faults are those that come from the tree and from a location.

An operation that a fault stops leaves what it has done up to there, so that each operation answers
with a tree in any case (`Effect`).
-/

namespace Redaction.Build

/-- A location below the root. -/
abbrev Location := List String

/-- What is at a location. -/
inductive Entry where
  | directory
  | file (content : Wire.Bytes)
deriving DecidableEq

/-- A tree of files, as the table of all entries but the root. -/
structure FileSystem where
  entries : List (Location × Entry) := []
deriving DecidableEq, Inhabited

namespace FileSystem

/-! ### Locations -/

/-- A plain location after one more name. -/
def follow (here : Location) (name : String) : Location :=
  if name = ".." then here.dropLast else here ++ [name]

/-- **The plain form of a location.** -/
def plain (l : Location) : Location := l.foldl follow []

/-- The location that a path writes; an empty name and `.` stand for the directory they are in. -/
def locationOf (path : String) : Location :=
  ((path.toList.splitOn '/').map String.ofList).filter fun name => name ≠ "" ∧ name ≠ "."

/-- The entry at a plain location; the root is a directory. -/
def entryAt? (fs : FileSystem) (l : Location) : Option Entry :=
  if l.isEmpty then some .directory else fs.entries.lookup l

/-- The entry at the end of a walk. -/
def walk? (fs : FileSystem) : Location → List String → Option Entry
  | here, [] => fs.entryAt? here
  | here, name :: rest =>
    match fs.entryAt? here with
    | some .directory => walk? fs (follow here name) rest
    | _ => none

/-- **The entry at a location.** -/
def entry? (fs : FileSystem) (l : Location) : Option Entry := fs.walk? [] l

/-- The content of the file at a location. -/
def content? (fs : FileSystem) (l : Location) : Option Wire.Bytes :=
  match fs.entry? l with
  | some (.file content) => some content
  | _ => none

/-- The tree with an entry in place of what was at a location. -/
def put (fs : FileSystem) (l : Location) (e : Entry) : FileSystem :=
  ⟨Ordered.insert (plain l) e fs.entries⟩

/-! ### Limits of names and paths -/

/-- The number of bytes in the path that writes a location. -/
def pathSize (l : Location) : Nat := (String.intercalate "/" l).utf8ByteSize

/-- The system takes names of at most 255 bytes. -/
def isLongName (name : String) : Bool := 255 < name.utf8ByteSize

/-- Why a path is refused as a whole, before any of its names is looked up. -/
def pathFault? (l : Location) : Option FileFault :=
  if l.any fun name => name.toList.contains '\x00' then some .nulInName
  else if 4095 < pathSize l then some .nameTooLong
  else none

/-! ### Operations -/

/-- How an operation ends: with the tree it leaves, and the fault that stopped it, if one did. -/
structure Effect where
  fs : FileSystem
  fault : Option FileFault := none

/-- An operation after another one, if that was not stopped. -/
def Effect.andThen (e : Effect) (next : FileSystem → Effect) : Effect :=
  if e.fault.isSome then e else next e.fs

/-- Creates the directories on the way from one location down a list of names. A file in the way is
one that exists where a directory is being created: at the last name, and at every name once the way
had to be built (`built`); above, it is no directory to look names up in. -/
def createBelow (above : Location) (built : Bool) : List String → FileSystem → Effect
  | [], fs => { fs }
  | name :: rest, fs =>
    let here := above ++ [name]
    if isLongName name then ⟨fs, some .nameTooLong⟩
    else
      match fs.entry? here with
      | some .directory => createBelow here built rest fs
      | some (.file _) =>
        ⟨fs, some (if built || rest.isEmpty then .alreadyExists else .notDirectory)⟩
      | none => createBelow here true rest (fs.put here .directory)

/-- **Creates a directory** and those around it, as far as they are missing. -/
def createDirectories (fs : FileSystem) (l : Location) : Effect :=
  match pathFault? l with
  | some fault => ⟨fs, some fault⟩
  | none => createBelow [] false l fs

/-- **Writes a file** into a directory that exists. -/
def writeTo (fs : FileSystem) (l : Location) (content : Wire.Bytes) : Effect :=
  match pathFault? l with
  | some fault => ⟨fs, some fault⟩
  | none =>
    if l.any isLongName then ⟨fs, some .nameTooLong⟩
    else if fs.entry? l = some .directory then ⟨fs, some .isDirectory⟩
    else { fs := fs.put l (.file content) }

/-- The location of the directory that a file is in. -/
def parent (l : Location) : Location := l.dropLast

/-- **Writes a file into its directory**, which is created if it is missing. -/
def createFile (fs : FileSystem) (l : Location) (content : Wire.Bytes) : Effect :=
  (fs.createDirectories (parent l)).andThen fun next => next.writeTo l content

/-- All files below a location with their paths from there. -/
def filesBelow (fs : FileSystem) (l : Location) : List (Location × Wire.Bytes) :=
  fs.entries.filterMap fun (here, e) =>
    match e with
    | .file content =>
      if (plain l).isPrefixOf here then some (here.drop (plain l).length, content) else none
    | .directory => none

end FileSystem

end Redaction.Build
