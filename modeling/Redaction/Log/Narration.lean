import Redaction.Assembly
import Redaction.Log.Event

/-!
# The events of a run

What happens while a request is answered, in order. Each function below follows one function of the
generator and tells its events; where that one fails, the events end (`upTo`). The generator itself
knows nothing of events.
-/

namespace Redaction.Log

open Code Schema

/-- The events of a step over a list, up to the first member at which the step fails. -/
def upTo {α β : Type} (step : α → Except Failure β) (events : α → List Event) :
    List α → List Event
  | [] => []
  | a :: as =>
    match step a with
    | .ok _ => events a ++ upTo step events as
    | .error _ => events a

/-! ### Options -/

/-- The options that are set, up to the first that is refused. -/
def optionEvents (e : Environment) : List (String × Option String) → Options → List Event
  | [], _ => []
  | (key, value) :: rest, o =>
    match Options.set e key value o with
    | .ok o => .optionSet key value :: optionEvents e rest o
    | .error _ => []

/-! ### Requirements -/

/-- The messages that a pass marks, in order. -/
def marksOf : List Message → List TypeName → List TypeName
  | [], _ => []
  | m :: ms, marked =>
    let next := Requirement.mark marked m
    if next = marked then marksOf ms marked else m.id :: marksOf ms next

/-- The marks of all passes, of which at most `n` follow. -/
def passEvents (messages : List Message) : Nat → Nat → List TypeName → List Event
  | 0, _, _ => []
  | n + 1, pass, marked =>
    let next := Requirement.pass messages marked
    (marksOf messages marked).map (.marked · pass) ++
      if next = marked then [] else passEvents messages n (pass + 1) next

/-- The events of finding the messages that need redaction. -/
def requirementEvents (s : Schema) : List Event :=
  let messages := Requirement.messagesOf s
  let (types, passes) := Requirement.run s
  passEvents messages (messages.length + 1) 1 (Requirement.owners messages) ++
    [.settled passes types.length]

/-! ### Implementations -/

/-- An override that is ignored; strict masks ignore none. -/
def maskEvents (strict : Bool) (f : Field) : List Event :=
  match strict, f.inapplicable? with
  | false, some o => [.overrideIgnored f.fullName o.key f.form.name]
  | _, _ => []

/-- The events of a member of a oneof; without a variant its mask is not looked at. -/
def armEvents (strict : Bool) (f : Field) : List Event :=
  if (camelIdentifier? f.name).isSome then maskEvents strict f else []

/-- The events of the statement for the oneof at a place. -/
def oneofEvents (required : Requirement) (strict : Bool) (m : Message) (index : Nat) : List Event :=
  match m.oneofs[index]? with
  | none => []
  | some oneof =>
    if (oneofPath? m oneof).isSome ∧ (snakeIdentifier? oneof).isSome then
      upTo (armOf required strict) (armEvents strict) (m.fields.filter (·.oneof == some index))
    else []

/-- The events of the statements for some fields of a message. -/
def statementEvents (required : Requirement) (strict : Bool) (m : Message) :
    List Nat → List Field → List Event
  | _, [] => []
  | seen, f :: fs =>
    match f.oneof with
    | some index =>
      if seen.contains index then statementEvents required strict m seen fs
      else
        oneofEvents required strict m index ++
          match oneofStatement required strict m index with
          | .ok _ => statementEvents required strict m (index :: seen) fs
          | .error _ => []
    | none =>
      maskEvents strict f ++
        match fieldExpr required strict f with
        | .ok _ => statementEvents required strict m seen fs
        | .error _ => []

/-- The events of the implementation for a message. -/
def implEvents (required : Requirement) (strict : Bool) (m : Message) : List Event :=
  match messagePath? m with
  | none => []
  | some _ =>
    statementEvents required strict m [] m.fields ++
      match emit required strict m with
      | .ok _ => [.emitted m.id m.fields.length]
      | .error _ => []

/-! ### Files -/

/-- The last event of a file. -/
def fileEvent (file : Schema.File) (impls : Nat) : Event :=
  if impls = 0 then .nothingRequired file.name else .generated file.name file.package impls

/-- The events of the output for a file. -/
def fileEvents (s : Schema) (required : Requirement) (o : Options) (file : Schema.File) :
    List Event :=
  let messages := implemented s required file
  upTo (emit required o.strict) (implEvents required o.strict) messages ++
    match fileOutput s required o file with
    | .ok _ => [fileEvent file messages.length]
    | .error _ => []

/-- The events of the outputs for a schema. -/
def schemaEvents (s : Schema) (o : Options) : List Event :=
  let required := Requirement.ofSchema s
  .loaded s.files.length s.messages.length :: requirementEvents s ++
    upTo (fileOutput s required o) (fileEvents s required o) (s.files.filter (·.generate))

/-- The events of generating files. -/
def generateEvents (files : List FileDescriptor) (requested : List String) (o : Options) :
    List Event :=
  match Schema.ofFiles files requested with
  | .ok s => schemaEvents s o
  | .error _ => []

/-! ### Requests -/

/-- The events of the options and the files of a request. -/
def workEvents (e : Environment) (r : Request) : List Event :=
  match Options.initial e with
  | .error _ => []
  | .ok initial =>
    optionEvents e ((r.parameter.map Options.readParameter).getD []) initial ++
      match Options.ofParameter e r.parameter with
      | .ok o => generateEvents r.protoFile r.fileToGenerate o
      | .error _ => []

/-- **The events of answering a request.** -/
def requestEvents (e : Environment) (r : Request) : List Event :=
  .received r.protoFile.length r.fileToGenerate.length :: workEvents e r ++
    match requestOutputs e r with
    | .error (.refused error) => [.failed error]
    | _ => []

end Redaction.Log
