import Redaction.Error
import Redaction.Schema.Types

/-!
# The index of declarations

Every message and every enum is declared under a full name, and no two under the same. The index
holds the declarations of all files; references to types are looked up in it.
-/

namespace Redaction.Schema

/-- What a full name stands for. -/
inductive Declaration where
  | message (m : MessageDescriptor)
  | enumeration

/-- The declarations of all files under their full names. -/
abbrev Index := List (String × Declaration)

namespace Index

/-! ### Collecting the declarations -/

mutual
/-- A message, its enums and what is declared inside it, outer before nested. -/
def ofMessage (package : String) (path : List String) : MessageDescriptor → Index
  | ⟨name, field, nested, enum, options, oneof⟩ =>
    let path := path ++ [name.getD ""]
    (qualify package path, .message ⟨name, field, nested, enum, options, oneof⟩) ::
      enum.map (fun e => (qualify package (path ++ [e.name.getD ""]), .enumeration)) ++
      ofMessages package path nested

/-- The declarations of messages that stand side by side. -/
def ofMessages (package : String) (path : List String) : List MessageDescriptor → Index
  | [] => []
  | m :: ms => ofMessage package path m ++ ofMessages package path ms
end

/-- The declarations of a file, its enums first. -/
def ofFile (f : FileDescriptor) : Index :=
  let package := f.package.getD ""
  f.enum.map (fun e => (qualify package [e.name.getD ""], .enumeration)) ++
    ofMessages package [] f.message

/-- The first name of a list that has come before, or is among `seen`. -/
def firstRepeated (seen : List String) : List String → Option String
  | [] => none
  | name :: names => if name ∈ seen then some name else firstRepeated (name :: seen) names

/-- **The index of all files;** refused if a name is declared twice. -/
def ofFiles (files : List FileDescriptor) : Except Error Index :=
  let index := files.flatMap ofFile
  match firstRepeated [] (index.map (·.1)) with
  | some name => .error (.duplicateType name)
  | none => .ok index

/-! ### Looking up references -/

/-- The message declared under a name. -/
def message? (index : Index) (name : String) : Option MessageDescriptor :=
  match index.lookup name with
  | some (.message m) => some m
  | _ => none

/-- Whether an enum is declared under a name. -/
def hasEnum (index : Index) (name : String) : Bool :=
  match index.lookup name with
  | some .enumeration => true
  | _ => false

/-- The message type that a field refers to, which must be declared. -/
def resolveMessage (index : Index) (fullName : String) (f : FieldDescriptor) :
    Except Error TypeName :=
  let type := TypeName.ofReference (f.typeName.getD "")
  if (index.message? type.text).isSome then .ok type
  else .error (.unresolvedType fullName (f.typeName.getD ""))

/-- The enum that a field refers to must be declared; leading dots of the reference are dropped. -/
def resolveEnum (index : Index) (fullName : String) (f : FieldDescriptor) : Except Error Unit :=
  let reference := f.typeName.getD ""
  if index.hasEnum (String.ofList (reference.toList.dropWhile (· == '.'))) then .ok ()
  else .error (.unresolvedType fullName reference)

end Index

end Redaction.Schema
