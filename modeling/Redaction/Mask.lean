import Redaction.Error
import Redaction.Schema.Types

/-!
# Masks

What takes the place of a redacted field. A repeated field, a map and a message have the one empty
mask of their form; a scalar has the mask of its kind, which an override of that kind's type
replaces, narrowed to the width of the field.

An override that does not apply to its field is ignored, or refused when masks are strict
(`resolve`). `Field.mask` is what strictness does not touch: the mask with inapplicable overrides
ignored.
-/

namespace Redaction

open Number

/-- A mask, already narrowed to its field. -/
inductive Mask where
  | text (s : String)
  | signed (n : Int64)
  | unsigned (n : UInt64)
  | single (x : Single)
  | double (x : Double)
  | bool (b : Bool)
  | enum (n : Int32)
  | null
  | emptyList
  | emptyMap
deriving DecidableEq

/-! ### Narrowing -/

/-- **An override narrowed to an integer width:** its two's complement keeps the low bits. -/
def IntWidth.narrow : IntWidth → Int64 → Mask
  | signed32, n => .signed n.toInt32.toInt64
  | signed64, n => .signed n
  | unsigned32, n => .unsigned n.toUInt64.toUInt32.toUInt64
  | unsigned64, n => .unsigned n.toUInt64

/-- An override narrowed to a floating-point width: the nearest number. -/
def FloatWidth.narrow : FloatWidth → Double → Mask
  | single, x => .single x.narrow
  | double, x => .double x

/-! ### Masks of scalars -/

/-- The mask of a kind without an override. -/
def ScalarKind.defaultMask : ScalarKind → Mask
  | string => .text "*"
  | bytes => .text ""
  | int width => width.narrow 0
  | float width => width.narrow .zero
  | bool => .bool false
  | enumeration => .enum 0

/-- The mask that an override gives to a kind, if it applies to it. -/
def ScalarKind.overridden? : ScalarKind → Override → Option Mask
  | string, .string mask => some (.text mask)
  | bytes, .bytes mask => some (.text mask)
  | int width, .int mask => some (width.narrow mask)
  | float width, .double mask => some (width.narrow mask)
  | bool, .bool mask => some (.bool mask)
  | enumeration, .enum mask => some (.enum mask)
  | _, _ => none

/-! ### Masks of fields -/

namespace Schema.Field

/-- What the field is to its mask: one of the three composite forms, or a scalar. -/
inductive Form where
  | repeated
  | map
  | message
  | scalar (kind : ScalarKind)
deriving DecidableEq

def form (f : Field) : Form :=
  match f.cardinality, f.category with
  | .repeated, _ => .repeated
  | .map, _ => .map
  | .singular, .map _ _ => .map
  | .singular, .message _ => .message
  | .singular, .scalar kind => .scalar kind

/-- The name of a form in messages. -/
def Form.name : Form → String
  | repeated => "repeated"
  | map => "map"
  | message => "message"
  | scalar kind => kind.name

/-- The mask of a form without an override. -/
def Form.defaultMask : Form → Mask
  | repeated => .emptyList
  | map => .emptyMap
  | message => .null
  | scalar kind => kind.defaultMask

/-- The mask that an override gives to a form, if it applies to it; composite forms take none. -/
def Form.overridden? : Form → Override → Option Mask
  | scalar kind, o => kind.overridden? o
  | _, _ => none

/-- The override that the field declares. -/
def override? (f : Field) : Option Override := f.rules.bind (·.mask)

/-- **The mask of the field,** were it redacted; an override that does not apply is ignored. -/
def mask (f : Field) : Mask :=
  ((f.override?).bind f.form.overridden?).getD f.form.defaultMask

/-- The override of a redacted field that does not apply to it. -/
def inapplicable? (f : Field) : Option Override :=
  if f.isRedacted then f.override?.filter fun o => (f.form.overridden? o).isNone else none

/-- **The mask of a redacted field,** none if it is not redacted. Strict masks refuse an override
that does not apply. -/
def resolve (strict : Bool) (f : Field) : Except Error (Option Mask) :=
  if !f.isRedacted then .ok none
  else
    match strict, f.inapplicable? with
    | true, some o => .error (.maskOverride f.fullName o.key f.form.name)
    | _, _ => .ok (some f.mask)

end Schema.Field

end Redaction
