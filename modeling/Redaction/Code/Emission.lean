import Redaction.Code.Impl
import Redaction.Mask
import Redaction.Requirement

/-!
# Implementations for messages

Which implementation a message gets. A field outside of a oneof adds one member; the members of a
oneof are alternatives of one statement, which stands where the first of them is declared. A
redacted field shows its mask and needs no name in the code. Any other field is rendered by its
type: a message by its own implementation if it needs redaction, and by its plain form if not;
well-known types have helpers of their own.

The implementation fails if strict masks refuse an override, if a field belongs to no oneof of its
message, or if a name that the code needs has no identifier.
-/

namespace Redaction.Code

open Schema

/-! ### Renderers -/

/-- What renders a scalar. -/
def Renderer.ofKind : ScalarKind → Renderer
  | .string => text
  | .bytes => bytes
  | .int _ | .enumeration => integer
  | .float .single => single
  | .float .double => double
  | .bool => bool

/-- What renders a well-known type; a wrapper is rendered as the scalar it wraps. -/
def Renderer.ofWellKnown : WellKnown → Renderer
  | .timestamp => helper .timestamp
  | .duration => helper .duration
  | .empty => helper .empty
  | .struct => helper .struct
  | .value => helper .value
  | .listValue => helper .listValue
  | .fieldMask => helper .fieldMask
  | .any => helper .any
  | .wrapper kind => ofKind kind

/-- **What renders an element** that is not redacted. -/
def Renderer.ofElement (required : Requirement) : ElementType → Renderer
  | .scalar kind => ofKind kind
  | .message type =>
    match WellKnown.ofName? type with
    | some known => ofWellKnown known
    | none => if required.requires type then redact type else plain type

/-- The constant that shows a mask. -/
def Constant.ofMask : Mask → Constant
  | .text s => text s
  | .signed n => integer .i64 n.toInt
  | .unsigned n => integer .u64 n.toNat
  | .enum n => integer .i32 n.toInt
  | .single x => single x
  | .double x => double x
  | .bool b => bool b
  | .null => null
  | .emptyList => emptyArray
  | .emptyMap => emptyObject

/-! ### Names -/

/-- The result, or the failure of a name without an identifier. -/
def named {α : Type} : Option α → Except Failure α
  | some a => .ok a
  | none => .error .unnameable

/-- The path of a type: its enclosing messages are modules. -/
def typePath? (parents : List String) (name : String) : Option (List String) := do
  let modules ← parents.mapM snakeIdentifier?
  let last ← camelIdentifier? name
  return modules ++ [last]

/-- **The path of a message type,** relative to the module of its package. -/
def messagePath? (m : Message) : Option (List String) :=
  typePath? m.path.dropLast (m.path.getLast?.getD "")

/-- The path of the type of a oneof. -/
def oneofPath? (m : Message) (oneof : String) : Option (List String) := typePath? m.path oneof

/-! ### Fields -/

/-- The mask of a redacted field. -/
def resolveMask (strict : Bool) (f : Field) : Except Failure (Option Mask) :=
  (f.resolve strict).mapError .refused

/-- The value that a field outside of a oneof adds to the object. -/
def fieldExpr (required : Requirement) (strict : Bool) (f : Field) : Except Failure Expr := do
  match ← resolveMask strict f with
  | some mask => return .constant (.ofMask mask)
  | none =>
    let place ← named (snakeIdentifier? f.name)
    let renderer := Renderer.ofElement required f.category.element
    match f.cardinality with
    | .repeated => return .items place renderer
    | .map => return .entries place renderer
    | .singular =>
      match f.category.element with
      | .message _ => return .optional place renderer
      | .scalar _ =>
        if f.explicitPresence then return .optional place renderer
        else return .render renderer (.field place)

/-- The alternative for a member of a oneof. -/
def armOf (required : Requirement) (strict : Bool) (f : Field) : Except Failure Arm := do
  let variant ← named (camelIdentifier? f.name)
  match ← resolveMask strict f with
  | some mask => return ⟨variant, false, f.jsonName, .constant (.ofMask mask)⟩
  | none =>
    return ⟨variant, true, f.jsonName,
      .render (.ofElement required f.category.element) .bound⟩

/-- The statement for the oneof at a place. -/
def oneofStatement (required : Requirement) (strict : Bool) (m : Message) (index : Nat) :
    Except Failure Statement := do
  let members := m.fields.filter (·.oneof == some index)
  match m.oneofs[index]? with
  | none =>
    let first := (members.head?.map (·.fullName)).getD m.id.text
    throw (.refused (.unknownOneof first index))
  | some oneof =>
    let enumPath ← named (oneofPath? m oneof)
    let place ← named (snakeIdentifier? oneof)
    let arms ← members.mapM (armOf required strict)
    return .choose place enumPath arms

/-- The statements for some fields of a message, of whose oneofs those in `seen` have theirs. -/
def statements (required : Requirement) (strict : Bool) (m : Message) :
    List Nat → List Field → Except Failure (List Statement)
  | _, [] => .ok []
  | seen, f :: fs =>
    match f.oneof with
    | some index =>
      if seen.contains index then statements required strict m seen fs
      else do
        let s ← oneofStatement required strict m index
        return s :: (← statements required strict m (index :: seen) fs)
    | none => do
      let value ← fieldExpr required strict f
      return .insert f.jsonName value :: (← statements required strict m seen fs)

/-- **The implementation for a message type.** -/
def emit (required : Requirement) (strict : Bool) (m : Message) : Except Failure Impl := do
  let target ← named (messagePath? m)
  let body ← statements required strict m [] m.fields
  return ⟨target, body⟩

end Redaction.Code
