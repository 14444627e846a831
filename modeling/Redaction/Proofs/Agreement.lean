import Redaction.Proofs.Documents

/-!
# Messages that agree up to redacted content

When two messages of a type may differ only in what redaction hides. The relation follows the rows
of the type: redacted fields are free, a redacted alternative of a oneof is set in both but its
value is free, and everything else is equal or agrees value by value. Maps agree if they have the
same keys and agree under each of them, in whatever order their entries are.

Well-known messages are equal (`Same` if they hold structs, whose fields have no order either), but
for a packed message, of which only the type counts.
-/

namespace Redaction.Document

open Schema Wire

/-! ### Sameness -/

/-- Tables have the same keys. -/
def SameKeys {α β : Type} (as bs : List (α × β)) : Prop :=
  ∀ k, k ∈ as.map (·.1) ↔ k ∈ bs.map (·.1)

mutual
/-- **The values are equal** up to the order of map entries. -/
inductive Same : Value → Value → Prop
  | datum (d : Datum) : Same (.datum d) (.datum d)
  | message {as bs : List Slot} : List.Forall₂ SameSlot as bs → Same (.message as) (.message bs)

/-- The slots are equal up to the order of map entries. -/
inductive SameSlot : Slot → Slot → Prop
  | absent : SameSlot .absent .absent
  | single {a b : Value} : Same a b → SameSlot (.single a) (.single b)
  | repeated {as bs : List Value} : List.Forall₂ Same as bs →
      SameSlot (.repeated as) (.repeated bs)
  | map {as bs : List (Datum × Value)} : SameKeys as bs →
      (∀ k a b, (k, a) ∈ as → (k, b) ∈ bs → Same a b) → SameSlot (.map as) (.map bs)
  | member {n : Nat} {a b : Value} : Same a b → SameSlot (.member n a) (.member n b)
end

/-! ### Agreement -/

/-- Whether a well-known message is JSON in the form of a message. -/
def isDynamic : WellKnown → Bool
  | .struct | .value | .listValue => true
  | _ => false

variable (rows : TypeName → List Row)

mutual
/-- **The values agree up to redacted content.** -/
inductive Agrees : ElementType → Value → Value → Prop
  | scalar {kind : ScalarKind} (d : Datum) : Agrees (.scalar kind) (.datum d) (.datum d)
  | wellKnown {type : TypeName} {known : WellKnown} (slots : List Slot) :
      WellKnown.ofName? type = some known →
      Agrees (.message type) (.message slots) (.message slots)
  | dynamic {type : TypeName} {known : WellKnown} {a b : Value} :
      WellKnown.ofName? type = some known → isDynamic known → Same a b →
      Agrees (.message type) a b
  | packed {type : TypeName} {as bs : List Slot} : WellKnown.ofName? type = some .any →
      as.head? = bs.head? → Agrees (.message type) (.message as) (.message bs)
  | message {type : TypeName} {as bs : List Slot} : WellKnown.ofName? type = none →
      RowsAgree (rows type) as bs → Agrees (.message type) (.message as) (.message bs)

/-- **The slots of two messages agree,** row by row. -/
inductive RowsAgree : List Row → List Slot → List Slot → Prop
  | nil : RowsAgree [] [] []
  | cons {row : Row} {rs : List Row} {a b : Slot} {as bs : List Slot} : RowAgrees row a b →
      RowsAgree rs as bs → RowsAgree (row :: rs) (a :: as) (b :: bs)

/-- The slots of a row agree: of a redacted field they are any, and of a redacted alternative any
with that alternative set. -/
inductive RowAgrees : Row → Slot → Slot → Prop
  | redacted {f : Schema.Field} (a b : Slot) : f.isRedacted → RowAgrees (.field f) a b
  | field {f : Schema.Field} {a b : Slot} : SlotAgrees f.category.element a b →
      RowAgrees (.field f) a b
  | unset {alternatives : List (Nat × Schema.Field)} :
      RowAgrees (.oneof alternatives) .absent .absent
  | hidden {alternatives : List (Nat × Schema.Field)} {n : Nat} {f : Schema.Field} (a b : Value) :
      alternatives.lookup n = some f → f.isRedacted →
      RowAgrees (.oneof alternatives) (.member n a) (.member n b)
  | shown {alternatives : List (Nat × Schema.Field)} {n : Nat} {f : Schema.Field} {a b : Value} :
      alternatives.lookup n = some f → Agrees f.category.element a b →
      RowAgrees (.oneof alternatives) (.member n a) (.member n b)

/-- The slots of a field that is not redacted agree. -/
inductive SlotAgrees : ElementType → Slot → Slot → Prop
  | unset {element : ElementType} : SlotAgrees element .absent .absent
  | single {element : ElementType} {a b : Value} : Agrees element a b →
      SlotAgrees element (.single a) (.single b)
  | repeated {element : ElementType} {as bs : List Value} : as.length = bs.length →
      (∀ (i : Nat) a b, as[i]? = some a → bs[i]? = some b → Agrees element a b) →
      SlotAgrees element (.repeated as) (.repeated bs)
  | map {element : ElementType} {as bs : List (Datum × Value)} : SameKeys as bs →
      (∀ k a b, (k, a) ∈ as → (k, b) ∈ bs → Agrees element a b) →
      SlotAgrees element (.map as) (.map bs)
end

end Redaction.Document
