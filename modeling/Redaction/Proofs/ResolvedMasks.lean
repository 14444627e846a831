import Mathlib.Data.Int.ModEq
import Mathlib.Tactic.Linarith
import Redaction.Proofs.StrictMasks

/-!
# Resolved masks are values of their fields

What `Field.resolve` makes of a redacted field is said here without it (`IsMaskOf`): an override
gives a mask to the kinds that it is for (`Override.Gives`), and each kind has one without an
override (`ScalarKind.IsDefault`). An integer of 64 bits gives the integer of the field's width that
is congruent to it modulo a power of two, of which there is one (`IntWidth.Holds.eq_of_modEq`).

* `gives_overridden?`: an override that is for a kind gives it the mask that it is resolved to, and
  no other (`Override.Gives.eq`).
* `resolve_eq_isMaskOf`: a redacted field has one mask, of its own kind.
-/

namespace Redaction

open Schema Number

/-! ### Integers of a width -/

namespace IntWidth

variable {w : IntWidth} {n k : Int}

/-- How many bits an integer of the width has. -/
def bits : IntWidth → Nat
  | signed32 | unsigned32 => 32
  | signed64 | unsigned64 => 64

/-- The smallest integer of the width. -/
def lowest : IntWidth → Int
  | signed32 => -2 ^ 31
  | signed64 => -2 ^ 63
  | unsigned32 | unsigned64 => 0

def isSigned : IntWidth → Bool
  | signed32 | signed64 => true
  | unsigned32 | unsigned64 => false

/-- **The integers of the width:** as many as its bits can tell apart. -/
structure Holds (w : IntWidth) (n : Int) : Prop where
  le : w.lowest ≤ n
  lt : n < w.lowest + 2 ^ w.bits

/-- **No two integers of a width are congruent.** -/
theorem Holds.eq_of_modEq (hn : w.Holds n) (hk : w.Holds k) (h : n ≡ k [ZMOD 2 ^ w.bits]) :
    n = k := by
  have hlt : |k - n| < 2 ^ w.bits :=
    abs_lt.mpr ⟨by linarith [hk.le, hn.lt], by linarith [hn.le, hk.lt]⟩
  have hzero : k - n = 0 := Int.eq_zero_of_abs_lt_dvd h.dvd hlt
  omega

end IntWidth

/-- The integer that a mask is. -/
def Mask.integer? : Mask → Option Int
  | .signed n => some n.toInt
  | .unsigned n => some n.toNat
  | _ => none

/-! ### Masks of kinds -/

/-- **The masks that are values of a kind.** -/
inductive ScalarKind.HasMask : ScalarKind → Mask → Prop
  | string (s : String) : HasMask .string (.text s)
  | bytes (s : String) : HasMask .bytes (.text s)
  | signed {w : IntWidth} {n : Int64} : w.isSigned → w.Holds n.toInt → HasMask (.int w) (.signed n)
  | unsigned {w : IntWidth} {n : UInt64} :
      ¬ w.isSigned → w.Holds n.toNat → HasMask (.int w) (.unsigned n)
  | single (x : Single) : HasMask (.float .single) (.single x)
  | double (x : Double) : HasMask (.float .double) (.double x)
  | bool (b : Bool) : HasMask .bool (.bool b)
  | enumeration (n : Int32) : HasMask .enumeration (.enum n)

/-- **The mask of a kind without an override:** a star, or what is empty, zero or false. -/
inductive ScalarKind.IsDefault : ScalarKind → Mask → Prop
  | string : IsDefault .string (.text "*")
  | bytes : IsDefault .bytes (.text "")
  | signed {w : IntWidth} : w.isSigned → IsDefault (.int w) (.signed 0)
  | unsigned {w : IntWidth} : ¬ w.isSigned → IsDefault (.int w) (.unsigned 0)
  | single : IsDefault (.float .single) (.single ⟨0⟩)
  | double : IsDefault (.float .double) (.double ⟨0⟩)
  | bool : IsDefault .bool (.bool false)
  | enumeration : IsDefault .enumeration (.enum 0)

/-- **The mask that an override gives to a kind.** An integer is kept modulo the width. -/
inductive Override.Gives : Override → ScalarKind → Mask → Prop
  | string (s : String) : Gives (.string s) .string (.text s)
  | bytes (s : String) : Gives (.bytes s) .bytes (.text s)
  | signed {v n : Int64} {w : IntWidth} : w.isSigned → w.Holds n.toInt →
      n.toInt ≡ v.toInt [ZMOD 2 ^ w.bits] → Gives (.int v) (.int w) (.signed n)
  | unsigned {v : Int64} {n : UInt64} {w : IntWidth} : ¬ w.isSigned → w.Holds n.toNat →
      n.toNat ≡ v.toInt [ZMOD 2 ^ w.bits] → Gives (.int v) (.int w) (.unsigned n)
  | single (x : Double) : Gives (.double x) (.float .single) (.single x.narrow)
  | double (x : Double) : Gives (.double x) (.float .double) (.double x)
  | bool (b : Bool) : Gives (.bool b) .bool (.bool b)
  | enumeration (n : Int32) : Gives (.enum n) .enumeration (.enum n)

variable {kind : ScalarKind} {v : Override} {mask mask' : Mask} {w : IntWidth}

theorem Override.Gives.isFor (h : v.Gives kind mask) : v.IsFor kind := by
  cases h <;> constructor

theorem Override.Gives.hasMask (h : v.Gives kind mask) : kind.HasMask mask := by
  cases h with
  | signed hs hn => exact .signed hs hn
  | unsigned hs hn => exact .unsigned hs hn
  | _ => constructor

/-- **An override gives one mask to a kind.** -/
theorem Override.Gives.eq (h : v.Gives kind mask) (h' : v.Gives kind mask') : mask = mask' := by
  cases h with
  | signed hs hn hmod =>
    cases h' with
    | signed _ hn' hmod' =>
      rw [Int64.toInt_inj.mp (hn.eq_of_modEq hn' (hmod.trans hmod'.symm))]
    | unsigned hs' => exact absurd hs hs'
  | unsigned hs hn hmod =>
    cases h' with
    | signed hs' => exact absurd hs' hs
    | unsigned _ hn' hmod' =>
      rw [UInt64.toNat_inj.mp (Int.ofNat_inj.mp (hn.eq_of_modEq hn' (hmod.trans hmod'.symm)))]
  | _ => cases h'; rfl

theorem ScalarKind.IsDefault.eq (h : kind.IsDefault mask) (h' : kind.IsDefault mask') :
    mask = mask' := by
  cases h <;> cases h' <;> first | rfl | contradiction

/-! ### Narrowing -/

theorem toInt_toInt32_modEq (n : Int64) : n.toInt32.toInt ≡ n.toInt [ZMOD 2 ^ 32] := by
  rw [Int64.toInt_toInt32]
  exact Int.bmod_emod (m := 2 ^ 32)

/-- The integer without a sign that has the same bits. -/
theorem toNat_toUInt64_modEq (n : Int64) : n.toUInt64.toNat ≡ n.toInt [ZMOD 2 ^ 64] := by
  have hbits : n.toInt = (n.toUInt64.toNat : Int).bmod (2 ^ 64) :=
    BitVec.toInt_eq_toNat_bmod n.toBitVec
  rw [hbits]
  exact (Int.bmod_emod (m := 2 ^ 64)).symm

/-- **Narrowing keeps an integer modulo the width.** -/
theorem gives_narrow (w : IntWidth) (n : Int64) :
    (Override.int n).Gives (.int w) (w.narrow n) := by
  cases w with
  | signed32 =>
    refine .signed rfl ?_ ?_
    · rw [Int32.toInt_toInt64]
      exact ⟨Int32.le_toInt _, Int32.toInt_lt _⟩
    · rw [Int32.toInt_toInt64]
      exact toInt_toInt32_modEq n
  | signed64 => exact .signed rfl ⟨Int64.le_toInt n, Int64.toInt_lt n⟩ (.refl _)
  | unsigned32 =>
    have hlt := n.toUInt64.toUInt32.toNat_lt
    refine .unsigned (by decide) ?_ ?_
    · rw [UInt32.toNat_toUInt64]
      refine ⟨Int.natCast_nonneg _, ?_⟩
      simp only [IntWidth.lowest, IntWidth.bits]
      omega
    · rw [UInt32.toNat_toUInt64, UInt64.toNat_toUInt32, Int.natCast_emod]
      exact (Int.mod_modEq _ _).trans
        ((toNat_toUInt64_modEq n).of_dvd (by decide))
  | unsigned64 =>
    have hlt := n.toUInt64.toNat_lt
    refine .unsigned (by decide) ⟨Int.natCast_nonneg _, ?_⟩ (toNat_toUInt64_modEq n)
    simp only [IntWidth.lowest, IntWidth.bits]
    omega

/-- **The integer that an integer is narrowed to:** the one of the width that is congruent to it. It
is the same exactly if it is of the width, and narrowing it again changes nothing. -/
structure NarrowedTo (w : IntWidth) (v : Int64) (mask : Mask) (n : Int) : Prop where
  integer : mask.integer? = some n
  holds : w.Holds n
  modEq : n ≡ v.toInt [ZMOD 2 ^ w.bits]
  unique : ∀ k, w.Holds k → k ≡ v.toInt [ZMOD 2 ^ w.bits] → k = n
  unchanged : n = v.toInt ↔ w.Holds v.toInt
  again : w.narrow (.ofInt n) = mask

theorem toInt_ofInt_modEq (w : IntWidth) (n : Int) :
    (Int64.ofInt n).toInt ≡ n [ZMOD 2 ^ w.bits] := by
  have h : (Int64.ofInt n).toInt ≡ n [ZMOD 2 ^ 64] := by
    rw [Int64.toInt_ofInt]
    exact Int.bmod_emod (m := 2 ^ 64)
  exact h.of_dvd (by cases w <;> decide)

theorem Override.Gives.of_modEq {n k : Int64} (h : (Override.int n).Gives (.int w) mask)
    (hmod : n.toInt ≡ k.toInt [ZMOD 2 ^ w.bits]) : (Override.int k).Gives (.int w) mask := by
  cases h with
  | signed hs hn hm => exact .signed hs hn (hm.trans hmod)
  | unsigned hs hn hm => exact .unsigned hs hn (hm.trans hmod)

/-- Congruent integers are narrowed to the same mask. -/
theorem narrow_eq_of_modEq {n k : Int64} (h : n.toInt ≡ k.toInt [ZMOD 2 ^ w.bits]) :
    w.narrow n = w.narrow k :=
  ((gives_narrow w n).of_modEq h).eq (gives_narrow w k)

theorem exists_narrowedTo {n : Int64} (h : (Override.int n).Gives (.int w) mask) :
    ∃ k, NarrowedTo w n mask k := by
  obtain ⟨k, hk, hholds, hmod⟩ : ∃ k, mask.integer? = some k ∧ w.Holds k ∧
      k ≡ n.toInt [ZMOD 2 ^ w.bits] := by
    cases h with
    | signed _ hk hm => exact ⟨_, rfl, hk, hm⟩
    | unsigned _ hk hm => exact ⟨_, rfl, hk, hm⟩
  refine ⟨k, hk, hholds, hmod, fun i hi him => hi.eq_of_modEq hholds (him.trans hmod.symm),
    ⟨fun heq => heq ▸ hholds, fun hn => hholds.eq_of_modEq hn hmod⟩, ?_⟩
  rw [narrow_eq_of_modEq ((toInt_ofInt_modEq w k).trans hmod)]
  exact (gives_narrow w n).eq h

/-! ### Masks of scalars -/

theorem gives_overridden? (h : kind.overridden? v = some mask) : v.Gives kind mask := by
  unfold ScalarKind.overridden? at h
  split at h
  · exact Option.some.inj h ▸ .string _
  · exact Option.some.inj h ▸ .bytes _
  · exact Option.some.inj h ▸ gives_narrow _ _
  · rename_i width x
    rw [← Option.some.inj h]
    cases width with
    | single => exact .single x
    | double => exact .double x
  · exact Option.some.inj h ▸ .bool _
  · exact Option.some.inj h ▸ .enumeration _
  · exact absurd h (by simp)

theorem overridden?_eq_some_iff : kind.overridden? v = some mask ↔ v.Gives kind mask := by
  refine ⟨gives_overridden?, fun h => ?_⟩
  obtain ⟨mask', h'⟩ := Option.isSome_iff_exists.mp (isSome_overridden?_iff.mpr h.isFor)
  rw [h', h.eq (gives_overridden? h')]

theorem isDefault_defaultMask (kind : ScalarKind) : kind.IsDefault kind.defaultMask := by
  cases kind with
  | string => exact .string
  | bytes => exact .bytes
  | int w =>
    cases w with
    | signed32 | signed64 => exact .signed rfl
    | unsigned32 | unsigned64 => exact .unsigned (by decide)
  | float w =>
    cases w with
    | single =>
      have hzero : Double.zero.narrow = ⟨0⟩ := by decide +kernel
      rw [ScalarKind.defaultMask, FloatWidth.narrow, hzero]
      exact .single
    | double => exact .double
  | bool => exact .bool
  | enumeration => exact .enumeration

theorem ScalarKind.IsDefault.hasMask (h : kind.IsDefault mask) : kind.HasMask mask := by
  cases h with
  | @signed w hs =>
    refine .signed hs ?_
    cases w <;> exact ⟨by decide, by decide⟩
  | @unsigned w hs =>
    refine .unsigned hs ?_
    cases w <;> exact ⟨by decide, by decide⟩
  | _ => constructor

/-! ### Masks of fields -/

/-- **The mask of a redacted field:** that of its form, or of its kind if it is a singular scalar.
An override that is not for the kind is ignored. -/
inductive IsMaskOf (f : Field) : Mask → Prop
  | repeated : f.cardinality = .repeated → IsMaskOf f .emptyList
  | map : f.cardinality = .map → IsMaskOf f .emptyMap
  | entries {key : ScalarKind} {value : ElementType} :
      f.cardinality = .singular → f.category = .map key value → IsMaskOf f .emptyMap
  | message {type : TypeName} :
      f.cardinality = .singular → f.category = .message type → IsMaskOf f .null
  | overridden {kind : ScalarKind} {v : Override} {mask : Mask} :
      f.cardinality = .singular → f.category = .scalar kind →
      f.override? = some v → v.Gives kind mask → IsMaskOf f mask
  | default {kind : ScalarKind} {mask : Mask} :
      f.cardinality = .singular → f.category = .scalar kind →
      (∀ v, f.override? = some v → ¬ v.IsFor kind) → kind.IsDefault mask → IsMaskOf f mask

variable {f : Field}

theorem mask_of_composite (h : ∀ kind, f.form ≠ .scalar kind) : f.mask = f.form.defaultMask := by
  unfold Field.mask
  cases hf : f.form with
  | scalar kind => exact absurd hf (h kind)
  | _ => cases f.override? <;> rfl

theorem mask_of_scalar (hs : f.cardinality = .singular) (hc : f.category = .scalar kind) :
    f.mask = ((f.override?).bind kind.overridden?).getD kind.defaultMask := by
  unfold Field.mask
  rw [Field.form_eq_scalar_iff.mpr ⟨hs, hc⟩]
  rfl

/-- No override of the field applies to it. -/
theorem bind_overridden?_eq_none (h : ∀ v, f.override? = some v → ¬ v.IsFor kind) :
    (f.override?).bind kind.overridden? = none := by
  refine Option.bind_eq_none_iff.mpr fun v hv => ?_
  rw [← Option.not_isSome_iff_eq_none, isSome_overridden?_iff]
  exact h v hv

theorem IsMaskOf.eq_mask (h : IsMaskOf f mask) : mask = f.mask := by
  cases h with
  | repeated hs =>
    have hform : f.form = .repeated := by simp [Field.form, hs]
    rw [mask_of_composite (by simp [hform]), hform, Field.Form.defaultMask]
  | map hs =>
    have hform : f.form = .map := by simp [Field.form, hs]
    rw [mask_of_composite (by simp [hform]), hform, Field.Form.defaultMask]
  | entries hs hc =>
    have hform : f.form = .map := by simp [Field.form, hs, hc]
    rw [mask_of_composite (by simp [hform]), hform, Field.Form.defaultMask]
  | message hs hc =>
    have hform : f.form = .message := by simp [Field.form, hs, hc]
    rw [mask_of_composite (by simp [hform]), hform, Field.Form.defaultMask]
  | overridden hs hc hv hg =>
    rw [mask_of_scalar hs hc, hv, Option.bind_some, overridden?_eq_some_iff.mpr hg,
      Option.getD_some]
  | default hs hc hno hd =>
    rw [mask_of_scalar hs hc, bind_overridden?_eq_none hno, Option.getD_none]
    exact hd.eq (isDefault_defaultMask _)

/-- Every field has a mask of one of these forms. -/
theorem exists_isMaskOf (f : Field) : ∃ mask, IsMaskOf f mask := by
  cases hs : f.cardinality with
  | repeated => exact ⟨_, .repeated hs⟩
  | map => exact ⟨_, .map hs⟩
  | singular =>
    cases hc : f.category with
    | message type => exact ⟨_, .message hs hc⟩
    | map key value => exact ⟨_, .entries hs hc⟩
    | scalar kind =>
      by_cases ho : ∃ v, f.override? = some v ∧ v.IsFor kind
      · obtain ⟨v, hv, hfor⟩ := ho
        obtain ⟨mask, hmask⟩ := Option.isSome_iff_exists.mp (isSome_overridden?_iff.mpr hfor)
        exact ⟨mask, .overridden hs hc hv (gives_overridden? hmask)⟩
      · exact ⟨_, .default hs hc (fun v hv hfor => ho ⟨v, hv, hfor⟩) (isDefault_defaultMask kind)⟩

theorem isMaskOf_iff : IsMaskOf f mask ↔ mask = f.mask := by
  refine ⟨IsMaskOf.eq_mask, ?_⟩
  rintro rfl
  obtain ⟨mask, h⟩ := exists_isMaskOf f
  exact h.eq_mask ▸ h

theorem IsMaskOf.hasMask (h : IsMaskOf f mask) (hs : f.cardinality = .singular)
    (hc : f.category = .scalar kind) : kind.HasMask mask := by
  cases h with
  | repeated hs' | map hs' => simp [hs] at hs'
  | entries _ hc' | message _ hc' => simp [hc] at hc'
  | overridden _ hc' _ hg =>
    obtain rfl : kind = _ := by simpa [hc] using hc'
    exact hg.hasMask
  | default _ hc' _ hd =>
    obtain rfl : kind = _ := by simpa [hc] using hc'
    exact hd.hasMask

theorem IsMaskOf.gives_iff (h : IsMaskOf f mask) (hs : f.cardinality = .singular)
    (hc : f.category = .scalar kind) (hv : f.override? = some v) :
    v.Gives kind mask ↔ v.IsFor kind := by
  refine ⟨Override.Gives.isFor, fun hfor => ?_⟩
  obtain ⟨mask', hmask⟩ := Option.isSome_iff_exists.mp (isSome_overridden?_iff.mpr hfor)
  have hg := gives_overridden? hmask
  rwa [h.eq_mask, ← (IsMaskOf.overridden hs hc hv hg).eq_mask]

/-- **Every redacted field has one mask, which is a value of the field.** Lists and maps are empty
and messages are null. A singular scalar has a mask of its own kind, and the one that its override
gives exactly if the override is for that kind. Integers are narrowed to the field. -/
theorem resolve_eq_isMaskOf (hr : f.isRedacted) :
    ∃ mask, f.resolve false = .ok (some mask) ∧ (∀ other, IsMaskOf f other ↔ other = mask) ∧
      ∀ kind, f.cardinality = .singular → f.category = .scalar kind → kind.HasMask mask ∧
        ∀ v, f.override? = some v → (v.Gives kind mask ↔ v.IsFor kind) ∧
          ∀ w n, kind = .int w → v = .int n → ∃ k, NarrowedTo w n mask k := by
  refine ⟨f.mask, by simp [Field.resolve, hr], fun _ => isMaskOf_iff, fun kind hs hc => ?_⟩
  have hmask : IsMaskOf f f.mask := isMaskOf_iff.mpr rfl
  refine ⟨hmask.hasMask hs hc, fun v hv => ?_⟩
  have hgives := hmask.gives_iff hs hc hv
  refine ⟨hgives, ?_⟩
  rintro w n rfl rfl
  exact exists_narrowedTo (hgives.mpr (.int n w))

/-- A redacted number of the given width, with an override. -/
def maskedNumber (w : IntWidth) (v : Override) : Field where
  name := "number"
  fullName := "v.Count.number"
  jsonName := "number"
  category := .scalar (.int w)
  cardinality := .singular
  explicitPresence := false
  oneof := none
  rules := some { redact := true, mask := some v }

theorem resolve_eq_isMaskOf_maskedNumber :
    (∃ k, (maskedNumber .unsigned32 (.int (-1))).resolve false = .ok (some (.unsigned 4294967295)) ∧
      NarrowedTo .unsigned32 (-1) (.unsigned 4294967295) k) ∧
    ∃ mask, (maskedNumber .signed32 (.string "x")).resolve false = .ok (some mask) ∧
      ¬ (Override.string "x").Gives (.int .signed32) mask := by
  obtain ⟨mask, hok, -, hscalar⟩ :=
    resolve_eq_isMaskOf (f := maskedNumber .unsigned32 (.int (-1))) rfl
  obtain ⟨mask', hok', -, hscalar'⟩ :=
    resolve_eq_isMaskOf (f := maskedNumber .signed32 (.string "x")) rfl
  have hmask : (maskedNumber .unsigned32 (.int (-1))).resolve false =
      .ok (some (.unsigned 4294967295)) := by rfl
  obtain rfl : mask = .unsigned 4294967295 := by
    rw [hmask] at hok
    exact (Option.some.inj (Except.ok.inj hok)).symm
  obtain ⟨-, hnumber⟩ := hscalar _ rfl rfl
  obtain ⟨k, hk⟩ := (hnumber _ rfl).2 _ _ rfl rfl
  obtain ⟨-, htext⟩ := hscalar' _ rfl rfl
  refine ⟨⟨k, hok, hk⟩, mask', hok', fun h => ?_⟩
  cases (htext _ rfl).1.mp h

end Redaction
