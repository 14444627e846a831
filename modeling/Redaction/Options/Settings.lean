import Redaction.Options.Manifest
import Redaction.Text.Blank

/-!
# Options of the generator

Three options: by which path generated code reaches the runtime library, by which path it reaches
the logging library if it is to log at all, and whether masks are strict. They come as keys and
values, one by one (`Options.set`) or in a parameter text (`Options.ofParameter`), on top of
defaults that the environment gives (`Options.initial`). What texts are paths is the matter of a
reader that the environment has, and of which nothing is supposed.

A value that is refused leaves the options as they were.
-/

namespace Redaction

open Code

/-- What the options depend on besides the request. -/
structure Environment where
  /-- The path to use when the runtime library is not found. -/
  runtimeCrate : Option String := none
  /-- The path to use when the logging library is looked for and not found. -/
  logCrate : Option String := none
  /-- Whether the consuming package is being built for a test of its own. -/
  inTest : Bool := false
  /-- The manifest of the consuming package, if it can be read. -/
  manifest : Option Manifest := none
  /-- The reader of paths. That of the language knows more generic arguments than the usual one. -/
  readPath? : String → Option Path := Path.ofText?

namespace Environment

/-- How a package is reached, if the manifest has it. -/
def find? (e : Environment) (package : String) : Option FoundCrate :=
  (e.manifest.filter (·.isValid)).bind (·.find? e.inTest package)

/-- The runtime library when neither the manifest nor the environment names it. -/
def usualRuntime : Path := .ofCrate "protoredact"

/-- **The path of the runtime library.** -/
def runtimePath (e : Environment) : Except Failure Path :=
  match e.find? "protoredact" with
  | some found => found.path
  | none => .ok ((e.runtimeCrate.bind e.readPath?).getD usualRuntime)

end Environment

/-- The options of a run. -/
structure Options where
  runtime : Path
  log : Option Path
  strict : Bool
deriving DecidableEq

namespace Options

/-- The options before any is set. -/
def initial (e : Environment) : Except Failure Options := do
  return ⟨← e.runtimePath, none, false⟩

/-! ### Single options -/

/-- Refuses an option. -/
def invalid {α : Type} (key : String) (fault : ParameterFault) : Except Failure α :=
  .error (.refused (.invalidParameter key fault))

/-- The value of an option that must have one. -/
def required (key : String) : Option String → Except Failure String
  | some value => if value.isEmpty then invalid key .valueRequired else .ok value
  | none => invalid key .valueRequired

/-- The path that the value of an option writes. -/
def readPath (e : Environment) (key value : String) : Except Failure Path :=
  match e.readPath? value with
  | some path => .ok path
  | none => invalid key (.notPath value)

/-- **The logging library as found:** the dependency of the consuming package, else the path that
the environment gives. -/
def detectLog (e : Environment) : Except Failure Path :=
  match e.find? "slog" with
  | some found => found.path
  | none =>
    match e.logCrate with
    | some value => readPath e "PROTOREDACT_SLOG_CRATE" value
    | none => invalid "slog_crate" .noLogCrate

/-- **Sets one option.** -/
def set (e : Environment) (key : String) (value : Option String) (o : Options) :
    Except Failure Options := do
  match key with
  | "runtime_crate" =>
    let value ← required key value
    return { o with runtime := ← readPath e key value }
  | "slog_crate" =>
    let value ← required key value
    let path ← if value = "auto" then detectLog e else readPath e key value
    return { o with log := some path }
  | "strict_masks" =>
    match value with
    | none | some "true" => return { o with strict := true }
    | some "false" => return { o with strict := false }
    | some other => invalid key (.notBoolean other)
  | _ => invalid key .unknownOption

/-- Sets options one after the other, until one is refused. -/
def setAll (e : Environment) : List (String × Option String) → Options → Except Failure Options
  | [], o => .ok o
  | (key, value) :: rest, o => do setAll e rest (← set e key value o)

/-! ### Parameters -/

/-- A key and, behind the first equals sign, its value; blanks around both fall away. -/
def readPair (pair : List Char) : String × Option String :=
  let text (cs : List Char) : String := String.ofList (Text.trim cs)
  match pair.dropWhile (· != '=') with
  | [] => (text pair, none)
  | _ :: value => (text (pair.takeWhile (· != '=')), some (text value))

/-- The keys and values of a parameter, which commas separate; empty pieces do not count. -/
def readParameter (parameter : String) : List (String × Option String) :=
  (((parameter.toList.splitOn ',').map Text.trim).filter (!·.isEmpty)).map readPair

/-- **The options of a parameter,** on top of the defaults. -/
def ofParameter (e : Environment) (parameter : Option String) : Except Failure Options := do
  setAll e ((parameter.map readParameter).getD []) (← initial e)

end Options

end Redaction
