import Redaction.Schema.Category
import Redaction.Text.LetterCase

/-!
# The schema

What the generator knows of the declarations: every file with its messages, and every message with
its fields. References are resolved and the entry messages of maps have become part of the map
fields that use them.
-/

namespace Redaction.Schema

/-- A field of a message. -/
structure Field where
  name : String
  /-- The name of the message, a dot, and the name of the field; for error messages. -/
  fullName : String
  /-- The key of the field in a rendered message. -/
  jsonName : String
  category : Category
  cardinality : Cardinality
  /-- Whether a singular scalar tells unset from default. -/
  explicitPresence : Bool
  /-- The place of the field's oneof among those of its message. -/
  oneof : Option Nat
  rules : Option Rules
deriving DecidableEq

namespace Field

/-- **Whether the field is redacted.** -/
def isRedacted (f : Field) : Bool := f.rules.any (·.redact)

/-- The message type that the field leads to. -/
def target? (f : Field) : Option TypeName := f.category.target?

end Field

/-- A message type. -/
structure Message where
  id : TypeName
  /-- The file that declares it. -/
  file : String
  /-- The names of the messages around it, the outermost first, and its own. -/
  path : List String
  fields : List Field
  /-- The message types declared directly inside it. -/
  nested : List TypeName
  /-- The names of its oneofs. -/
  oneofs : List String
deriving DecidableEq

/-- A file, with its messages in the order of declaration, outer before nested. -/
structure File where
  name : String
  package : String
  /-- Whether output is requested for the file. -/
  generate : Bool
  messages : List TypeName
deriving DecidableEq

end Redaction.Schema

namespace Redaction

/-- **All files and messages of a run,** the messages ordered by name. -/
structure Schema where
  files : List Schema.File := []
  messages : List (TypeName × Schema.Message) := []
deriving DecidableEq

namespace Schema

/-- The message type of a name. -/
def message? (s : Schema) (type : TypeName) : Option Message := s.messages.lookup type

/-! ### Output keys -/

/-- The key of a field name, given whether an underscore has just been dropped. -/
def keyChars : Bool → List Char → List Char
  | _, [] => []
  | raised, c :: cs =>
    if c = '_' then keyChars true cs
    else (if raised then Text.upper c else [c]) ++ keyChars false cs

/-- **The output key of a field name:** an underscore falls away and raises what is behind it. -/
def outputKey (name : String) : String := String.ofList (keyChars false name.toList)

end Schema

end Redaction
