import Redaction.Descriptor.Codec
import Redaction.Log.Narration

/-!
# The command line

The program that a compiler calls: it reads a request, writes the response, and tells what happens
to a log. It takes no arguments but those that ask for its help or its version; the first argument
decides.
-/

namespace Redaction.CommandLine

/-- What the arguments ask for. -/
inductive Action where
  | answer
  | showHelp
  | showVersion
  | reject
deriving DecidableEq

/-- The text about the program. -/
def helpText : String :=
  "protoc plugin and build-script generator for protobuf field redaction\n\n" ++
    "Usage: protoc-gen-rust-redact\n\n" ++
    "Options:\n  -h, --help     Print help\n  -V, --version  Print version\n"

/-- The name of the program and its version. -/
def versionText : String := "protoc-gen-rust-redact 0.1.0\n"

/-- **What some arguments ask for.** Short options may stand together in one argument, of which the
first letter decides. -/
def actionOf (args : List String) : Action :=
  match args with
  | [] | ["--"] => .answer
  | "--help" :: _ => .showHelp
  | "--version" :: _ => .showVersion
  | arg :: _ =>
    match arg.toList with
    | '-' :: 'h' :: _ => .showHelp
    | '-' :: 'V' :: _ => .showVersion
    | _ => .reject

/-- How the program ends. -/
structure Outcome where
  exitCode : Nat
  stdout : Wire.Bytes := []
  /-- What the program reports when it ends with an error. -/
  report : Option String := none
  events : List Log.Event := []

/-- The report of a request that cannot be read. -/
def unreadable (e : Wire.Error) : String :=
  "Error: failed to decode the code generator request\n\nCaused by:\n    " ++ e.message ++ "\n"

/-- Answers the request that some bytes write. -/
def answer (e : Environment) (stdin : Wire.Bytes) : Outcome :=
  match Codec.request.decode stdin with
  | .error error => { exitCode := 1, report := some (unreadable error) }
  | .ok request =>
    let events := Log.requestEvents e request
    match respond e request with
    | .ok response => { exitCode := 0, stdout := Codec.response.encode response, events }
    | .error _ => { exitCode := 101, events }

/-- **The program.** -/
def run (e : Environment) (args : List String) (stdin : Wire.Bytes) : Outcome :=
  match actionOf args with
  | .answer => answer e stdin
  | .showHelp => { exitCode := 0, stdout := Wire.textBytes helpText }
  | .showVersion => { exitCode := 0, stdout := Wire.textBytes versionText }
  | .reject => { exitCode := 2 }

end Redaction.CommandLine
