import Redaction.Wire.Error

/-!
# Why nothing is generated

Every error ends a run: the generator hands back the complete output or none. An error names its
cause; `Error.message` is its wording.

One failure has no wording: generated code needs an identifier and the schema offers a name of which
none can be made (`Failure.unnameable`). It is no answer to the request but the end of the program.
-/

namespace Redaction

/-- Why an option is refused. -/
inductive ParameterFault where
  | valueRequired
  | notBoolean (value : String)
  | unknownOption
  | notPath (value : String)
  | noLogCrate
  | noOutputDirectory
deriving DecidableEq

/-- The wording of a refused option. -/
def ParameterFault.reason : ParameterFault → String
  | valueRequired => "a value is required"
  | notBoolean value => "expected `true` or `false`, got `" ++ value ++ "`"
  | unknownOption => "unknown option"
  | notPath value => "`" ++ value ++ "` is not a valid Rust path"
  | noLogCrate =>
    "no direct `slog` dependency was found. Set PROTOREDACT_SLOG_CRATE to a path " ++
      "(e.g., `my_log::slog`) or pass the path explicitly."
  | noOutputDirectory => "OUT_DIR is not set; call `out_dir` outside build scripts"

/-- Why a file or a directory cannot be written. -/
inductive FileFault where
  | alreadyExists
  | notDirectory
  | isDirectory
  /-- A name, or a whole path, has more bytes than the system allows. -/
  | nameTooLong
  /-- A NUL ends a path for the system, so that it is refused before the system sees it. -/
  | nulInName
deriving DecidableEq

/-- The number of a fault in the operating system, if it comes from there. -/
def FileFault.code? : FileFault → Option Nat
  | alreadyExists => some 17
  | notDirectory => some 20
  | isDirectory => some 21
  | nameTooLong => some 36
  | nulInName => none

/-- The words for a fault. -/
def FileFault.text : FileFault → String
  | alreadyExists => "File exists"
  | notDirectory => "Not a directory"
  | isDirectory => "Is a directory"
  | nameTooLong => "File name too long"
  | nulInName => "file name contained an unexpected NUL byte"

/-- The words for a fault and its number. -/
def FileFault.reason (fault : FileFault) : String :=
  match fault.code? with
  | some code => fault.text ++ " (os error " ++ toString code ++ ")"
  | none => fault.text

/-- **The errors of the generator.** -/
inductive Error where
  /-- A field refers to a type that no file declares. -/
  | unresolvedType (field typeName : String)
  /-- Two declarations have one full name. -/
  | duplicateType (name : String)
  /-- The type number of a field is none. -/
  | unsupportedFieldType (field : String) (number : Int32)
  /-- The entry of a map has no key or no value. -/
  | malformedMapEntry (entry : String)
  /-- A field belongs to a oneof that its message does not declare. -/
  | unknownOneof (field : String) (index : Nat)
  /-- A descriptor has not set what every descriptor sets. -/
  | missingDescriptorField (name : String)
  /-- A mask override does not apply to its field, and masks are strict. -/
  | maskOverride (field key category : String)
  | invalidParameter (key : String) (fault : ParameterFault)
  | decode (e : Wire.Error)
  | file (fault : FileFault)
deriving DecidableEq

/-- **The wording of an error.** -/
def Error.message : Error → String
  | unresolvedType field typeName =>
    "field `" ++ field ++ "` references `" ++ typeName ++
      "`, which is not part of the compilation unit"
  | duplicateType name => "type `" ++ name ++ "` is declared more than once in the compilation unit"
  | unsupportedFieldType field number =>
    "field `" ++ field ++ "` has unsupported type number " ++ toString number.toInt
  | malformedMapEntry entry =>
    "map entry `" ++ entry ++ "` must declare a key (1) and a value (2) field"
  | unknownOneof field index =>
    "field `" ++ field ++ "` belongs to oneof #" ++ toString index ++
      ", which its message does not declare"
  | missingDescriptorField name => "descriptor is missing `" ++ name ++ "`"
  | maskOverride field key category =>
    "field `" ++ field ++ "` declares `" ++ key ++ "`, which does not apply to " ++ category ++
      " fields"
  | invalidParameter key fault =>
    "invalid generator parameter `" ++ key ++ "`: " ++ fault.reason
  | decode e => "failed to decode descriptors: " ++ e.message
  | file fault => "io error: " ++ fault.reason

/-- What keeps a run from its result. -/
inductive Failure where
  | refused (e : Error)
  /-- No identifier can be made of a name that needs one. -/
  | unnameable
deriving DecidableEq

end Redaction
