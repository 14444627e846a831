import Redaction.Code.Literal
import Redaction.Schema.Category

/-!
# Generated implementations

What is generated for a message: an implementation that builds a JSON object, statement by
statement. The trees below are that implementation as data; `Code/Printer` writes them as code and
`Code/Evaluation` says what the code does with a message.

A value is reached by the name of a field, or by the name that a pattern has bound (`Access`). How
it is turned into JSON is named by a `Renderer`; those for messages carry the message type, which
the written code leaves to type inference.
-/

namespace Redaction.Code

open Number

/-- How a value is reached. -/
inductive Access where
  /-- A field of the message itself. -/
  | field (name : String)
  /-- The value that a pattern or a closure has bound. -/
  | bound
deriving DecidableEq

/-- A helper for a well-known type that is not a wrapper. -/
inductive Helper where
  | timestamp
  | duration
  | empty
  | struct
  | value
  | listValue
  | fieldMask
  | any
deriving DecidableEq

/-- What turns a value into JSON. -/
inductive Renderer where
  | text
  | bytes
  | integer
  | single
  | double
  | bool
  | helper (h : Helper)
  /-- The generated implementation of the message type. -/
  | redact (type : TypeName)
  /-- The plain form of the message type. -/
  | plain (type : TypeName)
deriving DecidableEq

/-- The type of an integer literal. -/
inductive IntegerType where
  | i64
  | u64
  | i32
deriving DecidableEq

/-- A fixed JSON value. -/
inductive Constant where
  | null
  | bool (b : Bool)
  | text (s : String)
  | integer (type : IntegerType) (n : Int)
  | single (x : Single)
  | double (x : Double)
  | emptyArray
  | emptyObject
deriving DecidableEq

/-- An expression of type JSON. -/
inductive Expr where
  | constant (c : Constant)
  | render (r : Renderer) (access : Access)
  /-- The array of the rendered items of a field. -/
  | items (field : String) (r : Renderer)
  /-- The object of the rendered entries of a field. -/
  | entries (field : String) (r : Renderer)
  /-- The rendered value of a field if it is set, and null if not. -/
  | optional (field : String) (r : Renderer)
deriving DecidableEq

/-- One alternative of a oneof: its variant, and the member that it adds to the object. -/
structure Arm where
  variant : String
  /-- Whether the pattern binds the value of the variant. -/
  binds : Bool
  key : String
  value : Expr
deriving DecidableEq

/-- A statement that adds to the object. -/
inductive Statement where
  | insert (key : String) (value : Expr)
  /-- One alternative for each variant of a oneof, and nothing when it is unset. -/
  | choose (field : String) (enumPath : List String) (arms : List Arm)
deriving DecidableEq

/-- **The implementation for one message type.** -/
structure Impl where
  /-- The path of the type, relative to the module of its package. -/
  target : List String
  body : List Statement
deriving DecidableEq

end Redaction.Code
