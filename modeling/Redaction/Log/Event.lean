import Redaction.Error
import Redaction.Schema.TypeName
import Redaction.Text.Quoted
import Redaction.Text.Terminal

/-!
# Events

What a run tells about itself. An event has a level and a line; a log shows the events at or above
the level that it is set to.
-/

namespace Redaction.Log

/-- How much an event matters. -/
inductive Level where
  | trace
  | debug
  | info
  | error
deriving DecidableEq

/-- Which events a log shows. -/
inductive Filter where
  | trace
  | debug
  | info
  | warn
  | error
  | off
deriving DecidableEq

namespace Level

def name : Level → String
  | trace => "TRACE"
  | debug => "DEBUG"
  | info => "INFO"
  | error => "ERROR"

/-- Levels in increasing order. -/
def rank : Level → Nat
  | trace => 0
  | debug => 1
  | info => 2
  | error => 4

end Level

namespace Filter

/-- The rank from which on events are shown. -/
def rank : Filter → Nat
  | trace => 0
  | debug => 1
  | info => 2
  | warn => 3
  | error => 4
  | off => 5

/-- The filter of a name; any other text shows errors. -/
def ofName : String → Filter
  | "trace" => trace
  | "debug" => debug
  | "info" => info
  | "warn" => warn
  | "off" => off
  | _ => error

/-- **Whether events of a level are shown.** -/
def shows (f : Filter) (l : Level) : Bool := f.rank ≤ l.rank

end Filter

/-- Something that happens in a run. -/
inductive Event where
  | received (files requested : Nat)
  | optionSet (key : String) (value : Option String)
  | loaded (files messages : Nat)
  | marked (message : TypeName) (pass : Nat)
  | settled (passes required : Nat)
  | overrideIgnored (field key category : String)
  | emitted (message : TypeName) (fields : Nat)
  | nothingRequired (file : String)
  | generated (file package : String) (impls : Nat)
  | failed (e : Error)

namespace Event

def level : Event → Level
  | marked _ _ | emitted _ _ => .trace
  | received _ _ | optionSet _ _ | loaded _ _ | settled _ _ | overrideIgnored _ _ _
  | nothingRequired _ => .debug
  | generated _ _ _ => .info
  | failed _ => .error

/-- An optional text in a line. -/
def optionText : Option String → String
  | none => "None"
  | some s => "Some(" ++ Text.Quoted.quoted s ++ ")"

/-- A named value in a line. -/
def item (name value : String) : String := " " ++ name ++ "=" ++ value

/-- The name of a message as the subject of a line. -/
def subject (message : TypeName) : String := " " ++ Text.Terminal.shown message.text

/-- What an event says. -/
def text : Event → String
  | received files requested =>
    "received code generator request" ++ item "files" (toString files) ++
      item "requested" (toString requested)
  | optionSet key value =>
    "applied generator option" ++ item "key" (Text.Quoted.quoted key) ++
      item "value" (optionText value)
  | loaded files messages =>
    "loaded compilation unit" ++ item "files" (toString files) ++
      item "messages" (toString messages)
  | marked message pass =>
    "requires redaction through a field" ++ subject message ++ item "pass" (toString pass)
  | settled passes required =>
    "propagated redaction requirements" ++ item "passes" (toString passes) ++
      item "required" (toString required)
  | overrideIgnored field key category =>
    "ignoring mask override that does not apply to the field" ++ item "field" field ++
      item "key" (Text.Quoted.quoted key) ++ item "category" (Text.Quoted.quoted category)
  | emitted message fields =>
    "emitted redaction impl" ++ subject message ++ item "fields" (toString fields)
  | nothingRequired file => "no message requires redaction" ++ item "file" file
  | generated file package impls =>
    "generated redaction impls" ++ item "file" file ++ item "package" package ++
      item "impls" (toString impls)
  | failed e => "redaction code generation failed" ++ item "error" e.message

/-- **The line of an event.** -/
def line (e : Event) : String := e.level.name ++ " " ++ e.text

end Event

end Redaction.Log
