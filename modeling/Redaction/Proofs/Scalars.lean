import Redaction.Proofs.Instances
import Redaction.Proofs.Records

/-!
# Scalars written and read

A scalar stands on the wire as a number, spelled as a varint or as a word, or as a payload.

* `reads_scalar`: what is read as a scalar, the forms of each datum.
* `holds_of_form`, `form_write`: a datum with a form is one that its type holds, and is written in
  one of its forms.
* `length_write_le_of_form`: a form is at least half as long as what is written. It may be shorter,
  since the low half of a negative integer of 32 bits is enough to read it.
-/

namespace Redaction.Wire

/-! ### Texts -/

theorem text?_eq_some_iff {payload : Bytes} {t : String} :
    text? payload = some t ↔ textBytes t = payload := by
  constructor
  · intro h
    unfold text? String.fromUTF8? at h
    split_ifs at h with hv
    rw [← Option.some.inj h]
    rfl
  · rintro rfl
    have hbytes : (⟨t.toUTF8.data.toList.toArray⟩ : ByteArray) = t.toByteArray := rfl
    unfold text? textBytes String.fromUTF8?
    rw [hbytes, dif_pos t.isValidUTF8]
    rfl

/-! ### Words -/

theorem length_writeWord (width n : Nat) : (writeWord width n).length = width := by
  induction width generalizing n with
  | zero => rfl
  | succ width ih => rw [writeWord, List.length_cons, ih]

theorem wordOf_writeWord {width n : Nat} (h : n < 256 ^ width) :
    wordOf (writeWord width n) = n := by
  induction width generalizing n with
  | zero =>
    have : n = 0 := by simpa using h
    simp [this, writeWord, wordOf]
  | succ width ih =>
    have hdiv : n / 256 < 256 ^ width := by
      rw [Nat.pow_succ] at h
      omega
    have hbyte : n.toUInt8.toNat = n % 256 := by simp
    have := ih hdiv
    rw [wordOf] at this ⊢
    rw [writeWord, List.foldr_cons, this, hbyte]
    omega

theorem wordOf_lt (q : Bytes) : wordOf q < 256 ^ q.length := by
  induction q with
  | nil => simp [wordOf]
  | cons b q ih =>
    have hb := b.toNat_lt
    rw [wordOf] at ih ⊢
    rw [List.foldr_cons, List.length_cons, Nat.pow_succ]
    omega

theorem reads_readWord (width : Nat) :
    Reads (readWord width) fun n q => q.length = width ∧ wordOf q = n := by
  intro bytes n rest
  refine ((reads_take width).map wordOf bytes n rest).trans ?_
  constructor
  · rintro ⟨p, ⟨_, ⟨rfl, hp⟩, rfl⟩, rfl⟩
    exact ⟨p, ⟨hp, rfl⟩, rfl⟩
  · rintro ⟨p, ⟨hp, rfl⟩, rfl⟩
    exact ⟨p, ⟨p, ⟨rfl, hp⟩, rfl⟩, rfl⟩

/-! ### Forms -/

/-- The number that stands for an integer. -/
def Scalar.codeOf (s : Scalar) (n : Int) : Nat :=
  match s with
  | .sint32 | .sint64 => zigzag n
  | .fixed32 | .sfixed32 => complement 32 n
  | .int32 | .int64 | .uint32 | .uint64 | .fixed64 | .sfixed64 | .enumeration => complement 64 n
  | .double | .float | .bool | .string | .bytes => 0

/-- The number that stands for a datum. -/
def Scalar.toNumber (s : Scalar) : Datum → Nat
  | .integer n => s.codeOf n
  | .double x => x.bits.toNat
  | .float x => x.bits.toNat
  | .bool b => b.toNat
  | _ => 0

theorem Scalar.toNumber_integer (s : Scalar) (n : Int) : s.toNumber (.integer n) = s.codeOf n := rfl

/-- The datum that a number stands for. -/
def Scalar.ofNumber : Scalar → Nat → Datum
  | .double, n => .double ⟨n.toUInt64⟩
  | .float, n => .float ⟨n.toUInt32⟩
  | .bool, n => .bool (n != 0)
  | .int32, n | .sfixed32, n | .enumeration, n => .integer (signed 32 n)
  | .int64, n | .sfixed64, n => .integer (signed 64 n)
  | .uint32, n => .integer (n % UInt32.size : Nat)
  | .sint32, n => .integer (unzigzag 32 n)
  | .sint64, n => .integer (unzigzag 64 n)
  | .uint64, n | .fixed32, n | .fixed64, n | .string, n | .bytes, n => .integer n

/-- The datum that a payload stands for. -/
def Scalar.ofPayload? : Scalar → Bytes → Option Datum
  | .string, payload => (text? payload).map .text
  | .bytes, payload => some (.blob payload)
  | _, _ => none

/-- **The forms of a datum:** any spelling of a number that stands for it, or its payload. -/
def Scalar.Form (s : Scalar) (d : Datum) (q : Bytes) : Prop :=
  match s.wireType with
  | .varint => ∃ n, Varint.Spells n q ∧ s.ofNumber n = d
  | .thirtyTwoBit => q.length = 4 ∧ s.ofNumber (wordOf q) = d
  | .sixtyFourBit => q.length = 8 ∧ s.ofNumber (wordOf q) = d
  | _ => ∃ payload, Prefixed payload q ∧ s.ofPayload? payload = some d

theorem reads_readText :
    Reads readText fun d q =>
      ∃ payload, Prefixed payload q ∧ Scalar.string.ofPayload? payload = some d := by
  intro bytes d rest
  rw [readText, bind_eq_ok]
  constructor
  · rintro ⟨⟨payload, rest'⟩, hp, h⟩
    obtain ⟨q, hq, rfl⟩ := (reads_readPayload _ _ _).mp hp
    dsimp only at h
    split at h
    · next t ht =>
      obtain ⟨rfl, rfl⟩ := Prod.mk.inj (pure_eq_ok.mp h)
      exact ⟨q, ⟨payload, hq, by rw [Scalar.ofPayload?, ht]; rfl⟩, rfl⟩
    · cases h
  · rintro ⟨q, ⟨payload, hq, hd⟩, rfl⟩
    obtain ⟨t, ht, rfl⟩ := Option.map_eq_some_iff.mp hd
    refine ⟨(payload, rest), reads_readPayload.append hq rest, ?_⟩
    dsimp only
    rw [ht]
    rfl

theorem Scalar.read_of_varint {s : Scalar} (h : s.wireType = .varint) :
    s.read = readVarint.map s.ofNumber := by
  cases s <;> cases h <;> rfl

theorem Scalar.read_of_thirtyTwoBit {s : Scalar} (h : s.wireType = .thirtyTwoBit) :
    s.read = (readWord 4).map s.ofNumber := by
  cases s <;> cases h <;> rfl

theorem Scalar.read_of_sixtyFourBit {s : Scalar} (h : s.wireType = .sixtyFourBit) :
    s.read = (readWord 8).map s.ofNumber := by
  cases s <;> cases h <;> rfl

theorem reads_word {width : Nat} (f : Nat → Datum) :
    Reads ((readWord width).map f) fun d q => q.length = width ∧ f (wordOf q) = d := by
  intro bytes d rest
  refine ((reads_readWord width).map f bytes d rest).trans ?_
  constructor
  · rintro ⟨q, ⟨_, ⟨hq, rfl⟩, rfl⟩, rfl⟩
    exact ⟨q, ⟨hq, rfl⟩, rfl⟩
  · rintro ⟨q, ⟨hq, rfl⟩, rfl⟩
    exact ⟨q, ⟨_, ⟨hq, rfl⟩, rfl⟩, rfl⟩

theorem reads_blob :
    Reads (readPayload.map .blob) fun d q => ∃ payload, Prefixed payload q ∧
      Scalar.bytes.ofPayload? payload = some d := by
  intro bytes d rest
  refine (reads_readPayload.map .blob bytes d rest).trans ?_
  simp only [Scalar.ofPayload?, Option.some.injEq]

/-- **What is read as a scalar.** -/
theorem reads_scalar (s : Scalar) : Reads s.read s.Form := by
  unfold Scalar.Form
  split
  · next hw =>
    rw [Scalar.read_of_varint hw]
    exact reads_readVarint.map s.ofNumber
  · next hw =>
    rw [Scalar.read_of_thirtyTwoBit hw]
    exact reads_word s.ofNumber
  · next hw =>
    rw [Scalar.read_of_sixtyFourBit hw]
    exact reads_word s.ofNumber
  · next h1 h2 h3 =>
    cases s with
    | string => exact reads_readText
    | bytes => exact reads_blob
    | double | fixed64 | sfixed64 => exact absurd rfl h3
    | float | fixed32 | sfixed32 => exact absurd rfl h2
    | _ => exact absurd rfl h1

/-- **The type holds the datum:** a number or a payload, of any length, stands for it. -/
def Scalar.Holds (s : Scalar) (d : Datum) : Prop :=
  match s.wireType with
  | .varint | .sixtyFourBit => ∃ n < 2 ^ 64, s.ofNumber n = d
  | .thirtyTwoBit => ∃ n < 2 ^ 32, s.ofNumber n = d
  | _ => ∃ payload, s.ofPayload? payload = some d

/-- What is read is what the type holds. -/
theorem holds_of_form {s : Scalar} {d : Datum} {q : Bytes} (h : s.Form d q) : s.Holds d := by
  unfold Scalar.Form at h
  unfold Scalar.Holds
  split at h
  · next hw =>
    obtain ⟨n, hn, hd⟩ := h
    rw [hw]
    exact ⟨n, hn.lt, hd⟩
  · next hw =>
    have hlt := wordOf_lt q
    rw [h.1] at hlt
    rw [hw]
    exact ⟨_, hlt, h.2⟩
  · next hw =>
    have hlt := wordOf_lt q
    rw [h.1] at hlt
    rw [hw]
    exact ⟨_, hlt, h.2⟩
  · obtain ⟨payload, -, hd⟩ := h
    cases s <;> first | exact ⟨payload, hd⟩ | cases hd

/-- What is behind the key of a scalar is a payload of its wire type. -/
theorem payload_of_form {s : Scalar} {d : Datum} {q : Bytes} (h : s.Form d q) :
    Payload s.wireType q := by
  unfold Scalar.Form at h
  split at h
  · next hw =>
    obtain ⟨n, hn, -⟩ := h
    rw [hw]
    exact ⟨n, hn⟩
  · next hw =>
    rw [hw]
    exact h.1
  · next hw =>
    rw [hw]
    exact h.1
  · obtain ⟨payload, hp, hd⟩ := h
    cases s <;> first | exact ⟨payload, hp⟩ | cases hd

/-! ### Numbers back and forth -/

theorem zigzag_unzigzag (bits n : Nat) : zigzag (unzigzag bits n) = n % Nat.pow 2 bits := by
  unfold zigzag unzigzag
  dsimp only
  split_ifs <;> omega

theorem unzigzag_mod (bits n : Nat) : unzigzag bits (n % Nat.pow 2 bits) = unzigzag bits n := by
  rw [unzigzag, unzigzag, Nat.mod_mod]

/-- The low half of the two's complement is enough to read an integer of 32 bits. -/
theorem signed_complement (n : Nat) : signed 32 (complement 64 (signed 32 n)) = signed 32 n := by
  simp only [signed, complement, Nat.pow_eq, Int.bmod_def]
  omega

theorem complement_signed (n : Nat) : complement 64 (signed 64 n) = n % 2 ^ 64 := by
  simp only [signed, complement, Nat.pow_eq, Int.bmod_def]
  omega

theorem complement_natCast {bits n : Nat} (hn : n < Nat.pow 2 bits) : complement bits n = n := by
  rw [complement, ← Int.natCast_emod, Int.toNat_natCast, Nat.mod_eq_of_lt hn]

/-- The number of the datum that a varint stands for. -/
theorem Scalar.toNumber_ofNumber {s : Scalar} (hw : s.wireType = .varint) {n : Nat}
    (hn : n < 2 ^ 64) :
    s.ofNumber (s.toNumber (s.ofNumber n)) = s.ofNumber n ∧ s.toNumber (s.ofNumber n) < 2 ^ 64 ∧
      (s.toNumber (s.ofNumber n) ≤ n ∨ 2 ^ 31 ≤ n) := by
  cases s with
  | int32 | enumeration =>
    rw [ofNumber, ofNumber, toNumber_integer, codeOf, signed_complement]
    refine ⟨rfl, ?_⟩
    simp only [signed, complement, Nat.pow_eq, Int.bmod_def]
    omega
  | int64 =>
    rw [ofNumber, ofNumber, toNumber_integer, codeOf, complement_signed, Nat.mod_eq_of_lt hn]
    exact ⟨rfl, hn, .inl le_rfl⟩
  | uint32 =>
    have hlt : n % UInt32.size < Nat.pow 2 64 := by
      simp only [UInt32.size, Nat.pow_eq]
      omega
    rw [ofNumber, ofNumber, toNumber_integer, codeOf, complement_natCast hlt, Nat.mod_mod]
    exact ⟨rfl, hlt, .inl (Nat.mod_le _ _)⟩
  | uint64 =>
    rw [ofNumber, ofNumber, toNumber_integer, codeOf, complement_natCast hn]
    exact ⟨rfl, hn, .inl le_rfl⟩
  | sint32 =>
    rw [ofNumber, ofNumber, toNumber_integer, codeOf, zigzag_unzigzag, unzigzag_mod]
    refine ⟨rfl, ?_⟩
    simp only [Nat.pow_eq]
    omega
  | sint64 =>
    rw [ofNumber, ofNumber, toNumber_integer, codeOf, zigzag_unzigzag, unzigzag_mod]
    refine ⟨rfl, ?_⟩
    simp only [Nat.pow_eq]
    omega
  | bool =>
    rw [ofNumber, ofNumber, toNumber]
    rcases Nat.eq_zero_or_pos n with rfl | hn
    · decide
    · have : (n != 0) = true := by simp; omega
      rw [this]
      exact ⟨rfl, by decide, .inl hn⟩
  | _ => cases hw

/-- The number of the datum that a word stands for is that of the word. -/
theorem Scalar.toNumber_ofNumber_of_thirtyTwoBit {s : Scalar} (hw : s.wireType = .thirtyTwoBit)
    {n : Nat} (hn : n < 2 ^ 32) : s.toNumber (s.ofNumber n) = n := by
  cases s with
  | float =>
    rw [ofNumber, toNumber]
    simpa using hn
  | fixed32 => rw [ofNumber, toNumber_integer, codeOf, complement_natCast hn]
  | sfixed32 =>
    rw [ofNumber, toNumber_integer, codeOf]
    simp only [signed, complement, Nat.pow_eq, Int.bmod_def]
    omega
  | _ => cases hw

theorem Scalar.toNumber_ofNumber_of_sixtyFourBit {s : Scalar} (hw : s.wireType = .sixtyFourBit)
    {n : Nat} (hn : n < 2 ^ 64) : s.toNumber (s.ofNumber n) = n := by
  cases s with
  | double =>
    rw [ofNumber, toNumber]
    simpa using hn
  | fixed64 => rw [ofNumber, toNumber_integer, codeOf, complement_natCast hn]
  | sfixed64 => rw [ofNumber, toNumber_integer, codeOf, complement_signed, Nat.mod_eq_of_lt hn]
  | _ => cases hw

/-! ### Writing -/

theorem Scalar.write_of_varint {s : Scalar} (hw : s.wireType = .varint) {d : Datum}
    (h : s.admits d) : s.write d = Varint.write (s.toNumber d) := by
  cases s <;> cases hw <;> cases d <;> first | rfl | cases h

theorem Scalar.write_of_thirtyTwoBit {s : Scalar} (hw : s.wireType = .thirtyTwoBit) {d : Datum}
    (h : s.admits d) : s.write d = writeWord 4 (s.toNumber d) := by
  cases s <;> cases hw <;> cases d <;> first | rfl | cases h

theorem Scalar.write_of_sixtyFourBit {s : Scalar} (hw : s.wireType = .sixtyFourBit) {d : Datum}
    (h : s.admits d) : s.write d = writeWord 8 (s.toNumber d) := by
  cases s <;> cases hw <;> cases d <;> first | rfl | cases h

theorem Scalar.write_of_payload {s : Scalar} {d : Datum} {payload : Bytes}
    (h : s.ofPayload? payload = some d) :
    s.write d = Varint.write payload.length ++ payload := by
  cases s with
  | string =>
    obtain ⟨t, ht, rfl⟩ := Option.map_eq_some_iff.mp h
    rw [← text?_eq_some_iff.mp ht]
    rfl
  | bytes =>
    rw [ofPayload?, Option.some.injEq] at h
    rw [← h]
    rfl
  | _ => cases h

theorem admits_ofNumber {s : Scalar} (hw : s.wireType ≠ .lengthDelimited) (n : Nat) :
    s.admits (s.ofNumber n) := by
  cases s <;> first | rfl | exact absurd rfl hw

theorem admits_of_form {s : Scalar} {d : Datum} {q : Bytes} (h : s.Form d q) : s.admits d :=
  admits_read ((reads_scalar s).append h [])

/-- **A datum is written in one of its forms,** if its length can be written. -/
theorem form_write {s : Scalar} {d : Datum} (h : s.Holds d) (hl : (s.write d).length < 2 ^ 64) :
    s.Form d (s.write d) := by
  unfold Scalar.Holds at h
  unfold Scalar.Form
  split at h
  · next hw =>
    obtain ⟨n, hn, rfl⟩ := h
    obtain ⟨hback, hlt, -⟩ := Scalar.toNumber_ofNumber hw hn
    rw [hw, Scalar.write_of_varint hw (admits_ofNumber (by simp [hw]) n)]
    exact ⟨_, Varint.spells_write hlt, hback⟩
  · next hw =>
    obtain ⟨n, hn, rfl⟩ := h
    rw [hw, Scalar.write_of_sixtyFourBit hw (admits_ofNumber (by simp [hw]) n),
      Scalar.toNumber_ofNumber_of_sixtyFourBit hw hn]
    exact ⟨length_writeWord _ _, by rw [wordOf_writeWord hn]⟩
  · next hw =>
    obtain ⟨n, hn, rfl⟩ := h
    rw [hw, Scalar.write_of_thirtyTwoBit hw (admits_ofNumber (by simp [hw]) n),
      Scalar.toNumber_ofNumber_of_thirtyTwoBit hw hn]
    exact ⟨length_writeWord _ _, by rw [wordOf_writeWord hn]⟩
  · obtain ⟨payload, hd⟩ := h
    rw [Scalar.write_of_payload hd] at hl ⊢
    rw [List.length_append] at hl
    have hlt : payload.length < 2 ^ 64 := by omega
    have hq := prefixed_write hlt
    cases s <;> first | exact ⟨payload, hq, hd⟩ | cases hd

/-- **What is written is at most twice as long as any form.** -/
theorem length_write_le_of_form {s : Scalar} {d : Datum} {q : Bytes} (h : s.Form d q) :
    (s.write d).length ≤ 2 * q.length := by
  have ha := admits_of_form h
  unfold Scalar.Form at h
  split at h
  · next hw =>
    obtain ⟨n, hn, rfl⟩ := h
    obtain ⟨-, hlt, hle | hle⟩ := Scalar.toNumber_ofNumber hw hn.lt
    · have := hn.length_write_le hle
      rw [Scalar.write_of_varint hw ha]
      omega
    · -- a number with more than 31 bits takes five groups, and what is written at most ten
      have hten := (Varint.spells_write hlt).length_le
      have hfive : 5 ≤ q.length := by
        by_contra hshort
        have hpow : 128 ^ q.length ≤ 128 ^ 4 := Nat.pow_le_pow_right (by omega) (by omega)
        have := hn.groups.lt
        omega
      rw [Scalar.write_of_varint hw ha]
      omega
  · next hw =>
    rw [Scalar.write_of_thirtyTwoBit hw ha, length_writeWord]
    omega
  · next hw =>
    rw [Scalar.write_of_sixtyFourBit hw ha, length_writeWord]
    omega
  · obtain ⟨payload, ⟨l, hl, rfl⟩, hd⟩ := h
    have := hl.length_write_le le_rfl
    rw [Scalar.write_of_payload hd, List.length_append, List.length_append]
    omega

end Redaction.Wire
