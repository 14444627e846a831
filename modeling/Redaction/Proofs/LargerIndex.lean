import Redaction.Proofs.References

/-!
# Reading with a larger index

Fields are read with an index of declarations. An index that has more reads whatever the smaller one
can read, and reads it the same (`Index.Within.fileMessages`): a reference is followed only to what
the smaller index has, and there the larger one has the same.

What the smaller index cannot read, the larger may be able to, so the statements are about
computations that succeed (`Refines`).
-/

namespace Redaction.Schema

variable {index index' : Index} {name : String} {d : FieldDescriptor}

/-- **What the first index has under a name, the second has as well.** -/
def Index.Within (index index' : Index) : Prop :=
  ∀ name d, index.lookup name = some d → index'.lookup name = some d

namespace Index.Within

variable (h : index.Within index')
include h

/-! ### References -/

theorem message? {m : MessageDescriptor} (hm : index.message? name = some m) :
    index'.message? name = some m := by
  unfold Index.message? at hm ⊢
  split at hm
  · next d hd => rw [h _ _ hd]; exact hm
  · cases hm

theorem hasEnum (he : index.hasEnum name) : index'.hasEnum name := by
  unfold Index.hasEnum at he ⊢
  split at he
  · next hd => rw [h _ _ hd]
  · cases he

theorem resolveMessage :
    Refines (index.resolveMessage name d) (index'.resolveMessage name d) := by
  intro type ht
  unfold Index.resolveMessage at ht ⊢
  dsimp only at ht ⊢
  split_ifs at ht with hm
  obtain ⟨m, hm⟩ := Option.isSome_iff_exists.mp hm
  rw [h.message? hm]
  exact ht

theorem resolveEnum : Refines (index.resolveEnum name d) (index'.resolveEnum name d) := by
  intro u hu
  unfold Index.resolveEnum at hu ⊢
  dsimp only at hu ⊢
  split_ifs at hu with he
  rw [if_pos (h.hasEnum he)]

/-! ### Fields -/

theorem mapValue : Refines (mapValue index name d) (mapValue index' name d) := by
  refine .bind (.refl _) fun type _ => ?_
  split
  · exact .bind h.resolveMessage fun _ _ => .refl _
  · exact .bind h.resolveMessage fun _ _ => .refl _
  · exact .bind h.resolveEnum fun _ _ => .refl _
  · exact .refl _

theorem mapCategory {entryName : String} {entry : MessageDescriptor} :
    Refines (mapCategory index name entryName entry) (mapCategory index' name entryName entry) := by
  unfold Schema.mapCategory
  dsimp only
  split
  · split
    · refine .bind (.refl _) fun type _ => ?_
      split
      · exact .bind h.mapValue fun _ _ => .refl _
      · exact .refl _
    · exact .refl _
  · exact .refl _

theorem messageCategory :
    Refines (messageCategory index name d) (messageCategory index' name d) := by
  refine .bind h.resolveMessage fun type ht => ?_
  -- the reference has been resolved, so there is a message, and both indexes have the same
  obtain ⟨m, hm⟩ := Option.isSome_iff_exists.mp (resolves_resolveMessage ht type rfl)
  rw [hm, h.message? hm]
  dsimp only
  split_ifs
  · exact .bind h.mapCategory fun _ _ => .refl _
  · exact .refl _

theorem categoryOf : Refines (categoryOf index name d) (categoryOf index' name d) := by
  refine .bind (.refl _) fun type _ => ?_
  split
  · exact h.messageCategory
  · exact h.messageCategory
  · exact .bind h.resolveEnum fun _ _ => .refl _
  · exact .refl _

theorem field {owner : TypeName} {proto3 : Bool} :
    Refines (Field.ofDescriptor index owner proto3 d)
      (Field.ofDescriptor index' owner proto3 d) := by
  unfold Field.ofDescriptor
  split
  · exact .bind h.categoryOf fun _ _ => .refl _
  · exact .refl _

/-! ### Messages -/

theorem message {file : FileDescriptor} {path : List String} {m : MessageDescriptor} :
    Refines (Message.ofDescriptor index file path m) (Message.ofDescriptor index' file path m) :=
  .bind (.mapM fun _ _ => h.field) fun _ _ => .refl _

/-- **The messages of a file are read the same with a larger index.** -/
theorem fileMessages {file : FileDescriptor} :
    Refines (fileMessages index file) (fileMessages index' file) := .mapM fun _ _ => h.message

end Index.Within

end Redaction.Schema
