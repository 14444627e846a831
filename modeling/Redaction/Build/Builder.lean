import Redaction.Assembly
import Redaction.Build.FileSystem
import Redaction.Descriptor.Codec

/-!
# Generating from a build

A builder collects descriptors and options and then generates: in memory, or into a directory. All
files are generated before the first is written, so that an error of the generator leaves the
directory as it was; a file that cannot be written leaves those before it, and the directories that
were created for it. A file that has its content already is not written again, which keeps its time
of change.
-/

namespace Redaction.Build

/-- What is to be generated, and how. -/
structure Builder where
  files : List FileDescriptor := []
  /-- The files to generate output for; all, if not given. -/
  requested : Option (List String) := none
  /-- The path of the output directory, if it is not left to the environment. -/
  outDir : Option String := none
  options : Options

namespace Builder

/-! ### Configuration -/

/-- A builder without files. -/
def initial (e : Environment) : Except Failure Builder := do
  return { options := ← Options.initial e }

def withFiles (b : Builder) (files : List FileDescriptor) : Builder :=
  { b with files := b.files ++ files }

/-- The builder with the files of an encoded set. -/
def withDescriptorSet (b : Builder) (bytes : Wire.Bytes) : Except Failure Builder :=
  match Codec.fileSet.decode bytes with
  | .ok set => .ok (b.withFiles set.file)
  | .error e => .error (.refused (.decode e))

def generateOnly (b : Builder) (names : List String) : Builder := { b with requested := some names }

def withOutDir (b : Builder) (path : String) : Builder := { b with outDir := some path }

/-- The builder with one option set. -/
def withOption (e : Environment) (key value : String) (b : Builder) : Except Failure Builder := do
  return { b with options := ← Options.set e key (some value) b.options }

def strictMasks (b : Builder) (strict : Bool) : Builder :=
  { b with options := { b.options with strict } }

/-! ### Generation -/

/-- The names of the files to generate output for. -/
def requestedNames (b : Builder) : List String :=
  b.requested.getD (b.files.filterMap (·.name))

/-- **The generated files** in memory. -/
def outputs (b : Builder) : Except Failure (List OutputFile) :=
  generateFiles b.files b.requestedNames b.options

/-- How a run that writes files ends. -/
structure Outcome where
  fs : FileSystem
  /-- The paths of all files of the run, in order. -/
  paths : List String
  /-- The paths of those that were really written. -/
  changed : List String
  failure : Option Failure

/-- A path continued by another; a path from the root stands for itself. -/
def joinPath (dir path : String) : String :=
  if dir.isEmpty ∨ path.toList.head? = some '/' then path
  else if dir.toList.getLast? = some '/' then dir ++ path
  else dir ++ "/" ++ path

/-- Writes files one after the other, until one cannot be written. -/
def writeAll (dir : String) : List OutputFile → Outcome → Outcome
  | [], done => done
  | f :: rest, done =>
    let path := joinPath dir f.name
    let l := FileSystem.locationOf path
    let content := Wire.textBytes f.content
    if done.fs.content? l = some content then
      writeAll dir rest { done with paths := done.paths ++ [path] }
    else
      match done.fs.createFile l content with
      | ⟨fs, none⟩ =>
        writeAll dir rest
          { done with fs, paths := done.paths ++ [path], changed := done.changed ++ [path] }
      | ⟨fs, some fault⟩ => { done with fs, failure := some (.refused (.file fault)) }

/-- **Generates and writes the files.** Without an output directory of its own the builder takes the
one that the environment gives. -/
def generate (b : Builder) (givenDir : Option String) (fs : FileSystem) : Outcome :=
  match b.outDir.or givenDir with
  | none => ⟨fs, [], [], some (.refused (.invalidParameter "out_dir" .noOutputDirectory))⟩
  | some dir =>
    match b.outputs with
    | .error failure => ⟨fs, [], [], some failure⟩
    | .ok outputs => writeAll dir outputs ⟨fs, [], [], none⟩

end Builder

end Redaction.Build
