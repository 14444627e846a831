import Mathlib.Data.List.Nodup
import Redaction.Proofs.Digits
import Redaction.Proofs.Documents
import Redaction.Proofs.Instances

/-!
# Map keys as texts

The keys of a map are scalars of one type, which become the keys of an object. Integers have
different texts if they are different (`integerText_injective`), and so have all keys of a type that
maps may have as keys (`keyText_injOn`). So the object has as many members as the map has entries.
-/

namespace Redaction.Number

theorem minus_notMem_digitsOf (n : Nat) : '-' ∉ digitsOf n := by
  intro h
  exact absurd (isDigit_of_mem_digitsOf h) (by decide)

/-- **Different integers have different texts.** -/
theorem integerText_injective {a b : Int} (h : integerText a = integerText b) : a = b := by
  unfold integerText at h
  split_ifs at h with ha hb hb
  · have := digitsOf_injective (List.cons.inj h).2
    omega
  · exact absurd (h ▸ List.mem_cons_self) (minus_notMem_digitsOf b.natAbs)
  · exact absurd (h ▸ List.mem_cons_self) (minus_notMem_digitsOf a.natAbs)
  · have := digitsOf_injective h
    omega

end Redaction.Number

namespace Redaction.Document

open Wire

/-- Whether maps may have keys of a scalar type. -/
def isKey : Scalar → Bool
  | .double | .float | .bytes => false
  | _ => true

/-- **Different keys of a type have different texts.** -/
theorem keyText_injOn {key : Scalar} (hkey : isKey key) {a b : Datum} (ha : key.admits a)
    (hb : key.admits b) (h : keyText a = keyText b) : a = b := by
  cases a with
  | double => rw [Scalar.admits, beq_iff_eq] at ha; subst ha; cases hkey
  | float => rw [Scalar.admits, beq_iff_eq] at ha; subst ha; cases hkey
  | blob => rw [Scalar.admits, beq_iff_eq] at ha; subst ha; cases hkey
  | text s =>
    rw [Scalar.admits, beq_iff_eq] at ha
    subst ha
    cases b with
    | text t => exact congrArg _ h
    | _ => cases hb
  | bool x =>
    rw [Scalar.admits, beq_iff_eq] at ha
    subst ha
    cases b with
    | bool y => cases x <;> cases y <;> first | rfl | exact absurd h (by decide)
    | _ => cases hb
  | integer n =>
    cases b with
    | integer m => exact congrArg _ (Number.integerText_injective (String.ofList_injective h))
    | _ =>
      rw [Scalar.admits, beq_iff_eq] at hb
      subst hb
      cases ha

/-- **The keys of a map have distinct texts.** -/
theorem nodup_keyText {key : Scalar} (hkey : isKey key) {es : List (Datum × Value)}
    (hes : ∀ e ∈ es, key.admits e.1) (h : (es.map (·.1)).Nodup) :
    (es.map fun e => keyText e.1).Nodup := by
  rw [show (es.map fun e => keyText e.1) = (es.map (·.1)).map keyText by rw [List.map_map]; rfl]
  refine h.map_on fun a ha b hb hab => ?_
  obtain ⟨x, hx, rfl⟩ := List.mem_map.mp ha
  obtain ⟨y, hy, rfl⟩ := List.mem_map.mp hb
  exact keyText_injOn hkey (hes x hx) (hes y hy) hab

end Redaction.Document
