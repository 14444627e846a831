import Redaction.Build.Builder
import Redaction.Sample.Files
import Redaction.Text.Quoted

/-!
# Building the sample

The build of the sample schema: its code is generated into the output directory, with logging by the
library that the consuming package has. An error is reported by its cause and all that it holds.
-/

namespace Redaction.Sample

open Build

/-- What the build prints before it starts. -/
def announcement : String := "cargo:rerun-if-changed=build.rs\n"

/-- The builder of the sample. -/
def builder (e : Environment) : Except Failure Builder := do
  let b ← Builder.initial e
  ((b.withFiles wellKnownFiles).withFiles ownFiles).withOption e "slog_crate" "auto"

/-- **Generates the sample** into a directory. -/
def build (e : Environment) (outDir : Option String) (fs : FileSystem) : Builder.Outcome :=
  match builder e with
  | .error failure => ⟨fs, [], [], some failure⟩
  | .ok b => b.generate outDir fs

/-- The kind of a fault in reports. -/
def faultKind : FileFault → String
  | .alreadyExists => "AlreadyExists"
  | .notDirectory => "NotADirectory"
  | .isDirectory => "IsADirectory"
  | .nameTooLong => "InvalidFilename"
  | .nulInName => "InvalidInput"

/-- The report of a fault; one of the operating system has a number. -/
def faultReport (fault : FileFault) : String :=
  let description :=
    "kind: " ++ faultKind fault ++ ", message: " ++ Text.Quoted.quoted fault.text ++ " \x7d"
  match fault.code? with
  | some code => "Os \x7b code: " ++ toString code ++ ", " ++ description
  | none => "Error \x7b " ++ description

/-- The report of an error: its cause and what it holds. The sample itself is in order, so that only
options and files can fail; any other error is reported in words. -/
def report : Error → String
  | .invalidParameter key fault =>
    "InvalidParameter \x7b key: " ++ Text.Quoted.quoted key ++ ", reason: " ++
      Text.Quoted.quoted fault.reason ++ " \x7d"
  | .file fault => "Io(" ++ faultReport fault ++ ")"
  | e => e.message

end Redaction.Sample
