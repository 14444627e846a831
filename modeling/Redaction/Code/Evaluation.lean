import Redaction.Code.Impl
import Redaction.Render.Messages

/-!
# What generated code does

The meaning of implementations: the JSON that the code of a message type builds from a message. A
`Program` gives the layouts and the implementations of all types, so that the code of one type can
call that of another; the calls follow the message, which is smaller each time.

The fields of a message are seen as `View`s: what is in them is reached only by rendering it, which
is all that generated code does with it.

There is no JSON where rendering ends the program, as that of a duration does in a build that checks
for overflow.
-/

namespace Redaction.Code

open Render (Overflow)
open Wire

/-- The message types that code is generated for. -/
structure Program where
  layout : TypeName → Layout TypeName
  impl? : TypeName → Option Impl
  /-- The plain form of a message that needs no redaction. -/
  plain : TypeName → List Slot → Json
  /-- What the build does where arithmetic overflows. -/
  overflow : Overflow := .wraps

/-! ### Values -/

/-- A constant as JSON. -/
def Constant.json : Constant → Json
  | null => .null
  | bool b => .bool b
  | text s => .text s
  | integer _ n => .integer n
  | single x => Render.single x
  | double x => Render.double x
  | emptyArray => .array []
  | emptyObject => .object []

/-- A scalar as JSON. A renderer is applied to scalars of its own form only: code that applies it to
another does not compile. -/
def Renderer.scalarJson : Renderer → Datum → Json
  | text, .text s => .text s
  | bytes, .blob b => Render.bytes b
  | integer, .integer n => .integer n
  | single, .float x => Render.single x
  | double, .double x => Render.double x
  | bool, .bool b => .bool b
  | _, _ => .null

/-- What a wrapper holds, as JSON. -/
def Renderer.wrappedJson (r : Renderer) : List Slot → Json
  | [.single (.datum d)] => r.scalarJson d
  | _ => .null

/-- A well-known message as JSON, if the build renders it. -/
def Helper.json? (o : Overflow) (slots : List Slot) : Helper → Option Json
  | timestamp => some (Render.Timestamp.ofSlots slots).json
  | duration => (Render.Duration.ofSlots slots).json? o
  | empty => some Render.empty
  | struct => some (Render.Dynamic.ofStruct slots).json
  | value => some (Render.Dynamic.ofValue (.message slots)).json
  | listValue => some (Render.Dynamic.ofList slots).json
  | fieldMask => some (Render.fieldMask (Render.pathsOf slots))
  | any => some (Render.packed (Render.typeUrlOf slots))

/-! ### Statements -/

/-- How a value shows under each renderer, if it does. -/
abbrev Shown := Renderer → Option Json

/-- What generated code sees of a field. -/
inductive View where
  | absent
  | single (v : Shown)
  | repeated (vs : List Shown)
  | map (entries : List (Render.MapKey × Shown))
  | member (number : Nat) (v : Shown)

/-- The fields of a message with what is seen of them. -/
abbrev Views := List (Wire.Field TypeName × View)

/-- What is seen of the field with a name. -/
def viewOf (views : Views) (name : String) : View :=
  ((views.find? (·.1.name == name)).map (·.2)).getD .absent

/-- **The value of an expression,** if it has one; `bound` is what a pattern has bound. -/
def Expr.eval (views : Views) (bound : Shown) : Expr → Option Json
  | constant c => some c.json
  | render r (.field name) =>
    match viewOf views name with
    | .single v => v r
    | _ => some .null
  | render r .bound => bound r
  | items name r =>
    match viewOf views name with
    | .repeated vs => Option.map .array (vs.mapM (· r))
    | _ => some (.array [])
  | entries name r =>
    match viewOf views name with
    | .map es => Option.map Render.map (es.mapM fun e => (e.2 r).map (e.1, ·))
    | _ => some (.object [])
  | optional name r =>
    match viewOf views name with
    | .single v => v r
    | _ => some .null

/-- The variant of a oneof field that a number stands for. -/
def variantOf (f : Wire.Field TypeName) (number : Nat) : Option String :=
  match f.shape with
  | .oneof members => (members.find? (·.number == number)).map (·.name)
  | _ => none

/-- The alternative for the variant that is set. -/
def armFor (views : Views) (name : String) (arms : List Arm) : Option (Arm × Shown) :=
  match views.find? (·.1.name == name) with
  | some (f, .member number v) =>
    (variantOf f number).bind fun variant =>
      (arms.find? (·.variant == variant)).map (·, v)
  | _ => none

/-- **The object after a statement,** if nothing ends the program in it. -/
def Statement.run (views : Views) (object : List (String × Json)) :
    Statement → Option (List (String × Json))
  | insert key value =>
    (value.eval views fun _ => some .null).map (Json.insertMember key · object)
  | choose name _ arms =>
    match armFor views name arms with
    | some (arm, v) => (arm.value.eval views v).map (Json.insertMember arm.key · object)
    | none => some object

/-- The object that a body builds. -/
def runBody (views : Views) (body : List Statement) : Option Json :=
  Option.map .object (body.foldlM (Statement.run views) [])

/-! ### Messages -/

/-- The key of a map entry. -/
def mapKey : Datum → Render.MapKey
  | .text s => .text s
  | .bool b => .bool b
  | d => .integer d.toInt

namespace Program

mutual
/-- How a value shows. -/
def present (p : Program) : Value → Shown
  | .datum d => fun r => some (r.scalarJson d)
  | .message slots =>
    let seen := views p slots
    fun r =>
      match r with
      | .redact type =>
        match p.impl? type with
        | some i => runBody ((p.layout type).fields.zip seen) i.body
        | none => some .null
      | .plain type => some (p.plain type slots)
      | .helper h => h.json? p.overflow slots
      | _ => some (r.wrappedJson slots)

/-- What is seen of a field. -/
def view (p : Program) : Slot → View
  | .absent => .absent
  | .single v => .single (present p v)
  | .repeated vs => .repeated (presentAll p vs)
  | .map es => .map (presentEntries p es)
  | .member number v => .member number (present p v)

def views (p : Program) : List Slot → List View
  | [] => []
  | s :: ss => view p s :: views p ss

def presentAll (p : Program) : List Value → List Shown
  | [] => []
  | v :: vs => present p v :: presentAll p vs

def presentEntries (p : Program) : List (Datum × Value) → List (Render.MapKey × Shown)
  | [] => []
  | (k, v) :: es => (mapKey k, present p v) :: presentEntries p es
end

/-- **The redacted form of a message,** if its rendering does not end the program. -/
def redact? (p : Program) (type : TypeName) (slots : List Slot) : Option Json :=
  present p (.message slots) (.redact type)

/-- The same program in a build that does the given about overflow. -/
def inBuild (p : Program) (o : Overflow) : Program := { p with overflow := o }

end Program

end Redaction.Code
