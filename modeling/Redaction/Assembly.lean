import Redaction.Code.Emission
import Redaction.Code.Printer
import Redaction.Options.Settings
import Redaction.Schema.Load

/-!
# Assembling output files

Each requested file that declares a message in need of redaction gets one output file, with the
implementations of these messages in the order of declaration. Files are put together for a request
of the compiler (`respond`): if anything fails, the response holds the error and no file.
-/

namespace Redaction

open Code

/-- A generated file. -/
structure OutputFile where
  /-- The path below the output directory. -/
  name : String
  content : String
deriving DecidableEq, Inhabited

/-! ### Names and contents -/

/-- The ending of schema files. -/
def schemaSuffix : List Char := ".proto".toList

/-- The ending of generated files. -/
def outputSuffix : List Char := ".redact.rs".toList

/-- **The name of the output for a schema file:** its own, with the ending of generated files. -/
def outputName (file : String) : String :=
  let cs := file.toList
  let stem := if schemaSuffix.isSuffixOf cs then cs.take (cs.length - schemaSuffix.length) else cs
  String.ofList (stem ++ outputSuffix)

/-- The two lines at the head of a generated file. -/
def header (source : String) : String :=
  "// @generated by protoc-gen-rust-redact 0.1.0. DO NOT EDIT.\n// source: " ++ source ++ "\n"

/-- **The content of a generated file:** the head, and each implementation behind an empty line. -/
def fileContent (source : String) (impls : List String) : String :=
  header source ++ String.join (impls.map fun text => "\n" ++ text ++ "\n")

/-! ### Files -/

/-- The messages of a file that get an implementation. -/
def implemented (s : Schema) (required : Requirement) (file : Schema.File) : List Schema.Message :=
  (file.messages.filter required.requires).filterMap s.message?

/-- The text of the implementation for a message. -/
def implText (required : Requirement) (o : Options) (m : Schema.Message) :
    Except Failure String := do
  return (← emit required o.strict m).text o.runtime o.log

/-- The output for one file; none if it has no message to implement. -/
def fileOutput (s : Schema) (required : Requirement) (o : Options) (file : Schema.File) :
    Except Failure (Option OutputFile) := do
  let impls ← (implemented s required file).mapM (implText required o)
  return if impls.isEmpty then none else some ⟨outputName file.name, fileContent file.name impls⟩

/-- The outputs for the requested files of a schema. -/
def schemaOutputs (s : Schema) (o : Options) : Except Failure (List OutputFile) := do
  let required := Requirement.ofSchema s
  return (← (s.files.filter (·.generate)).mapM (fileOutput s required o)).filterMap id

/-- **The generated files** for descriptors; output is requested for those that are named. -/
def generateFiles (files : List FileDescriptor) (requested : List String) (o : Options) :
    Except Failure (List OutputFile) := do
  let s ← (Schema.ofFiles files requested).mapError .refused
  schemaOutputs s o

/-! ### Requests -/

/-- The feature that tells the compiler to pass on fields declared `optional`. -/
def optionalFields : UInt64 := 1

/-- The response for the files of a run. -/
def Response.ofOutputs (outputs : List OutputFile) : Response :=
  { supportedFeatures := some optionalFields
    file := outputs.map fun f => { name := some f.name, content := some f.content } }

/-- The response for an error. -/
def Response.ofError (e : Error) : Response :=
  { error := some e.message, supportedFeatures := some optionalFields }

/-- The files that a request asks for. -/
def requestOutputs (e : Environment) (r : Request) : Except Failure (List OutputFile) := do
  let o ← Options.ofParameter e r.parameter
  generateFiles r.protoFile r.fileToGenerate o

/-- **The response to a request,** unless a name has no identifier. -/
def respond (e : Environment) (r : Request) : Except Failure Response :=
  match requestOutputs e r with
  | .ok outputs => .ok (.ofOutputs outputs)
  | .error (.refused error) => .ok (.ofError error)
  | .error .unnameable => .error .unnameable

end Redaction
