import Redaction.Code.Impl

/-!
# Writing implementations

The tokens of generated code. Everything that the code needs of the runtime library is reached
through one path. If the path of a logging library is given too, a second implementation follows,
which logs the redacted form of the message.
-/

namespace Redaction.Code

open Token

/-! ### Expressions -/

/-- An item of the runtime library. -/
def runtimeItem (runtime : Path) (names : List String) : List Token :=
  runtime.tokens ++ [word "::"] ++ joined names

/-- A function of the runtime library, applied. -/
def runtimeCall (runtime : Path) (names : List String) (arg : List Token) : List Token :=
  runtimeItem runtime names ++ [parens arg]

/-- The place of a field. -/
def fieldTokens (name : String) : List Token := words ["self", ".", name]

/-- A reference to a value. -/
def Access.reference : Access → List Token
  | field name => word "&" :: fieldTokens name
  | bound => [word "value"]

/-- A value itself. -/
def Access.copy : Access → List Token
  | field name => fieldTokens name
  | bound => words ["*", "value"]

/-- The runtime function of a helper. -/
def Helper.function : Helper → String
  | timestamp => "timestamp_value"
  | duration => "duration_value"
  | empty => "empty_value"
  | struct => "struct_value"
  | value => "dynamic_value"
  | listValue => "list_value"
  | fieldMask => "field_mask_value"
  | any => "any_value"

/-- A renderer applied to a value. -/
def Renderer.tokens (runtime : Path) (a : Access) : Renderer → List Token
  | text => runtimeCall runtime ["string_value"] a.reference
  | bytes => runtimeCall runtime ["bytes_value"] a.reference
  | integer => runtimeCall runtime ["Value", "from"] a.copy
  | single => runtimeCall runtime ["f32_value"] a.copy
  | double => runtimeCall runtime ["f64_value"] a.copy
  | bool => runtimeCall runtime ["Value", "Bool"] a.copy
  | helper h => runtimeCall runtime [h.function] a.reference
  | redact _ => runtimeCall runtime ["Redact", "redacted_value"] a.reference
  | plain _ => runtimeCall runtime ["plain_value"] a.reference

/-- The suffix of an integer type. -/
def IntegerType.suffix : IntegerType → String
  | i64 => "i64"
  | u64 => "u64"
  | i32 => "i32"

/-- The tokens of the null value. -/
def nullTokens (runtime : Path) : List Token := runtimeItem runtime ["Value", "Null"]

/-- An empty object. -/
def emptyMapTokens (runtime : Path) : List Token := runtimeCall runtime ["Map", "new"] []

/-- A fixed value. There are no literals for infinities and NaNs, which JSON has not either. -/
def Constant.tokens (runtime : Path) : Constant → List Token
  | null => nullTokens runtime
  | bool b => runtimeCall runtime ["Value", "Bool"] [word (if b then "true" else "false")]
  | text s => runtimeCall runtime ["Value", "from"] (Literal.text s)
  | integer type n => runtimeCall runtime ["Value", "from"] (Literal.integer n type.suffix)
  | single x =>
    match x.decode with
    | some s => runtimeCall runtime ["f32_value"] (Literal.float Number.single s "f32")
    | none => nullTokens runtime
  | double x =>
    match x.decode with
    | some s => runtimeCall runtime ["f64_value"] (Literal.float Number.double s "f64")
    | none => nullTokens runtime
  | emptyArray =>
    runtimeCall runtime ["Value", "Array"]
      (words ["::", "std", "::", "vec", "::", "Vec", "::", "new"] ++ [parens []])
  | emptyObject => runtimeCall runtime ["Value", "Object"] (emptyMapTokens runtime)

/-- The pattern of a set value. -/
def somePattern (inner : List Token) : List Token :=
  words ["::", "core", "::", "option", "::", "Option", "::", "Some"] ++ [parens inner]

/-- The pattern of an unset value. -/
def nonePattern : List Token := words ["::", "core", "::", "option", "::", "Option", "::", "None"]

/-- The call that walks over a field and maps each element by a closure. -/
def mapCall (field : String) (closure : List Token) : List Token :=
  fieldTokens field ++ [word ".", word "iter", parens [], word ".", word "map", parens closure]

def Expr.tokens (runtime : Path) : Expr → List Token
  | constant c => c.tokens runtime
  | render r a => r.tokens runtime a
  | items field r =>
    runtimeCall runtime ["Value", "Array"]
      (mapCall field (words ["|", "value", "|"] ++ r.tokens runtime .bound) ++
        [word ".", word "collect", parens []])
  | entries field r =>
    let pair := [parens (words ["key", ",", "value"])]
    runtimeCall runtime ["map_value"]
      (mapCall field ([word "|"] ++ pair ++ [word "|"] ++
        [parens (words ["key", ","] ++ r.tokens runtime .bound)]))
  | optional field r =>
    words ["match", "&"] ++ fieldTokens field ++
      [braces (somePattern [word "value"] ++ [word "=>"] ++ r.tokens runtime .bound ++ [word ","] ++
        nonePattern ++ [word "=>"] ++ nullTokens runtime ++ [word ","])]

/-! ### Statements -/

/-- The statement that adds a member to the object. -/
def insertTokens (runtime : Path) (key : String) (value : Expr) : List Token :=
  words ["object", ".", "insert"] ++
    [parens (Literal.text key ++ words [".", "into"] ++ [parens [], word ","] ++
      value.tokens runtime), word ";"]

def Arm.tokens (runtime : Path) (enumPath : List String) (a : Arm) : List Token :=
  somePattern (joined (enumPath ++ [a.variant]) ++
      [parens [word (if a.binds then "value" else "_")]]) ++
    [word "=>", braces (insertTokens runtime a.key a.value)]

def Statement.tokens (runtime : Path) : Statement → List Token
  | insert key value => insertTokens runtime key value
  | choose field enumPath arms =>
    words ["match", "&"] ++ fieldTokens field ++
      [braces (arms.flatMap (Arm.tokens runtime enumPath) ++ nonePattern ++
        [word "=>", braces []])]

/-! ### Implementations -/

/-- The binding of the object, which changes if there are statements. -/
def bindingTokens (unchanged : Bool) : List Token :=
  words (if unchanged then ["let", "object", "="] else ["let", "mut", "object", "="])

/-- The function that builds the object. -/
def functionTokens (runtime : Path) (body : List Statement) : List Token :=
  let value := runtimeItem runtime ["Value"]
  words ["fn", "redacted_value"] ++ [parens (words ["&", "self"]), word "->"] ++ value ++
    [braces (bindingTokens body.isEmpty ++ emptyMapTokens runtime ++ [word ";"] ++
      body.flatMap (Statement.tokens runtime) ++
      runtimeCall runtime ["Value", "Object"] [word "object"])]

/-- The function that logs the redacted form. -/
def logFunctionTokens (runtime log : Path) : List Token :=
  let item (name : String) : List Token := log.tokens ++ words ["::", name]
  words ["fn", "serialize"] ++
    [parens (words ["&", "self", ",", "record", ":", "&"] ++ item "Record" ++
      words ["<", "'_", ">", ",", "key", ":"] ++ item "Key" ++
      words [",", "serializer", ":", "&", "mut", "dyn"] ++ item "Serializer" ++ [word ","]),
      word "->"] ++ item "Result" ++
    [braces (words ["let", "redacted", "="] ++
      runtimeCall runtime ["slog", "IntoRedactedJson", "redacted_json"] [word "self"] ++
      [word ";"] ++ log.tokens ++ words ["::", "Value", "::", "serialize"] ++
      [parens (words ["&", "redacted", ",", "record", ",", "key", ",", "serializer"])])]

/-- **The tokens of an implementation,** and of the one for logs if there is a path to log by. -/
def Impl.tokens (runtime : Path) (log : Option Path) (i : Impl) : List Token :=
  [word "impl"] ++ runtimeItem runtime ["Redact"] ++ [word "for"] ++ joined i.target ++
    [braces (functionTokens runtime i.body)] ++
    match log with
    | none => []
    | some log =>
      [word "impl"] ++ log.tokens ++ words ["::", "Value", "for"] ++ joined i.target ++
        [braces (logFunctionTokens runtime log)]

/-- The text of an implementation. -/
def Impl.text (runtime : Path) (log : Option Path) (i : Impl) : String :=
  Token.text (i.tokens runtime log)

end Redaction.Code
