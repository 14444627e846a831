import Redaction.Ordered
import Redaction.Schema.Types

/-!
# Which messages need redaction

A message needs redaction when it has a redacted field, or a field that leads to a message which
needs it. `Requirement.ofSchema` starts from the messages with a redacted field and goes over all
messages, in the order of their names, until a pass marks none. A mark counts at once: messages that
come later in the same pass see it.

Every pass but the last marks a message of the schema, so there are at most as many passes as there
are messages, and one more.
-/

namespace Redaction

/-- The message types that need redaction, ordered by name. -/
structure Requirement where
  types : List TypeName
deriving DecidableEq, Inhabited

namespace Requirement

open Schema

/-- **Whether a message type needs redaction.** -/
def requires (r : Requirement) (type : TypeName) : Bool := r.types.contains type

/-- Whether a message has a redacted field. -/
def ownsRedacted (m : Message) : Bool := m.fields.any (·.isRedacted)

/-- Whether a field of a message leads to a type that is marked. -/
def reaches (marked : List TypeName) (m : Message) : Bool :=
  m.fields.any fun f => f.target?.any marked.contains

/-- Marks a message that is not marked and leads to one that is. -/
def mark (marked : List TypeName) (m : Message) : List TypeName :=
  if marked.contains m.id then marked
  else if reaches marked m then Ordered.add m.id marked
  else marked

/-- One pass over all messages. -/
def pass (messages : List Message) (marked : List TypeName) : List TypeName :=
  messages.foldl mark marked

/-- Passes until one marks nothing, at most `n` of them; also how many there were. -/
def settle (messages : List Message) : Nat → List TypeName → List TypeName × Nat
  | 0, marked => (marked, 0)
  | n + 1, marked =>
    let next := pass messages marked
    if next = marked then (marked, 1)
    else
      let (settled, passes) := settle messages n next
      (settled, passes + 1)

/-- The messages of a schema, ordered by name. -/
def messagesOf (s : Schema) : List Message := s.messages.map (·.2)

/-- The messages that are marked before the first pass. -/
def owners (messages : List Message) : List TypeName := (messages.filter ownsRedacted).map (·.id)

/-- The marks after the last pass, and the number of passes. -/
def run (s : Schema) : List TypeName × Nat :=
  settle (messagesOf s) ((messagesOf s).length + 1) (owners (messagesOf s))

/-- **The message types of a schema that need redaction.** -/
def ofSchema (s : Schema) : Requirement := ⟨(run s).1⟩

end Requirement

end Redaction
