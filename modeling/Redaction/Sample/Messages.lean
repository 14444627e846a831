import Redaction.Code.Emission
import Redaction.Code.Evaluation
import Redaction.Sample.Files
import Redaction.Schema.Layout
import Redaction.Wire.Decode

/-!
# Messages of the sample schema

The generated code of the sample schema at work: messages are read from bytes by the layouts that
the schema declares, and shown by the implementations that are generated for it.
-/

namespace Redaction.Sample

open Code Wire

/-- The index of the sample's declarations. -/
def index : Schema.Index := (Schema.Index.ofFiles files).toOption.getD []

/-- The loaded sample. -/
def schema : Schema := (Schema.ofFiles files []).toOption.getD {}

/-- The messages of the sample that need redaction. -/
def required : Requirement := .ofSchema schema

/-- The layouts of the sample's messages. -/
def layouts : List (TypeName × Layout TypeName) := Schema.layouts index files

/-- The layout of a message type; a type that the sample does not declare has no fields. -/
def layout (type : TypeName) : Layout TypeName := (layouts.lookup type).getD ⟨none, []⟩

/-- The implementations that are generated for the sample. -/
def impls : List (TypeName × Impl) :=
  (schema.messages.filter fun m => required.requires m.1).filterMap fun m =>
    (emit required false m.2).toOption.map (m.1, ·)

/-- **The generated code of the sample.** No message of it shows another in its plain form. -/
def program : Program :=
  { layout := layout, impl? := fun type => impls.lookup type, plain := fun _ _ => .null }

/-- A message of a type before anything is read. -/
def emptyMessage (type : TypeName) : List Slot := (layout type).emptySlots

/-- Merges bytes into a message. -/
def merge (type : TypeName) (slots : List Slot) (bytes : Bytes) : Except Wire.Error (List Slot) :=
  mergeInto layout (layout type) slots bytes

/-- **The redacted form of a message in a build,** unless rendering it ends the program. -/
def redact? (o : Render.Overflow) (type : TypeName) (slots : List Slot) : Option Json :=
  (program.inBuild o).redact? type slots

/-- **The redacted form of a message** where overflow wraps, so that rendering never ends the
program. -/
def redact (type : TypeName) (slots : List Slot) : Json := (redact? .wraps type slots).getD .null

/-- The redacted form of a message that may be missing: what is missing is an empty object. -/
def redactOptional (type : TypeName) (slots : Option (List Slot)) : Json :=
  (slots.map (redact type)).getD (.object [])

end Redaction.Sample
