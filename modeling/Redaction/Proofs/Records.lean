import Redaction.Proofs.Readers

/-!
# Records

A record is a key and what its wire type says is behind it: a payload, or the records of a group up
to the key that closes it. Nothing else is skipped (`skip_eq_ok_iff`), and where a record ends does
not depend on what follows (`IsRecord.unique`).
-/

namespace Redaction.Wire

/-! ### Keys -/

/-- The bytes spell the key, which has 32 bits and a field number other than zero. -/
structure Key.Spells (key : Key) (bytes : Bytes) : Prop where
  code : Varint.Spells key.code bytes
  lt : key.code < 2 ^ 32
  ne_zero : key.field ≠ 0

theorem WireType.number_lt (w : WireType) : w.number < 8 := by cases w <;> decide

theorem WireType.ofNumber?_eq_some_iff {n : Nat} {w : WireType} :
    ofNumber? n = some w ↔ n = w.number := by
  constructor
  · intro h
    unfold ofNumber? at h
    split at h <;> cases h <;> rfl
  · rintro rfl
    cases w <;> rfl

theorem Key.ofCode_eq_ok_iff {n : Nat} {key : Key} :
    Key.ofCode n = .ok key ↔ n = key.code ∧ key.code < 2 ^ 32 ∧ key.field ≠ 0 := by
  have hw := key.wireType.number_lt
  unfold Key.ofCode Key.code
  constructor
  · intro h
    split_ifs at h with h1 h2
    · cases h
    · split at h
      · cases h
      · cases h
    · split at h
      · cases h
      · next w hw =>
        rw [WireType.ofNumber?_eq_some_iff] at hw
        have h1 : n < 2 ^ 32 := Nat.not_le.mp h1
        rw [← Except.ok.inj h]
        dsimp only
        omega
  · rintro ⟨rfl, hlt, hne⟩
    have hmod : (key.field * 8 + key.wireType.number) % 8 = key.wireType.number := by omega
    have hdiv : (key.field * 8 + key.wireType.number) / 8 = key.field := by omega
    have hsize : ¬ UInt32.size ≤ key.field * 8 + key.wireType.number := Nat.not_le.mpr hlt
    rw [if_neg hsize, hmod, WireType.ofNumber?_eq_some_iff.mpr rfl, hdiv]
    dsimp only
    rw [if_neg hne]

theorem reads_readKey : Reads readKey Key.Spells := by
  intro bytes key rest
  rw [readKey, bind_eq_ok]
  constructor
  · rintro ⟨⟨n, rest'⟩, hn, h⟩
    obtain ⟨p, hp, rfl⟩ := (reads_readVarint _ _ _).mp hn
    obtain ⟨key', hk, h⟩ := bind_eq_ok.mp h
    obtain ⟨rfl, rfl⟩ := Prod.mk.inj (pure_eq_ok.mp h)
    obtain ⟨rfl, hlt, hne⟩ := Key.ofCode_eq_ok_iff.mp hk
    exact ⟨p, ⟨hp, hlt, hne⟩, rfl⟩
  · rintro ⟨p, ⟨hp, hlt, hne⟩, rfl⟩
    exact ⟨_, reads_readVarint.append hp rest,
      bind_eq_ok.mpr ⟨key, Key.ofCode_eq_ok_iff.mpr ⟨rfl, hlt, hne⟩, rfl⟩⟩

theorem Key.Spells.ne_nil {key : Key} {k : Bytes} (h : key.Spells k) : k ≠ [] :=
  h.code.groups.ne_nil

theorem Key.Spells.unique {a b : Key} {p q x y : Bytes} (hp : a.Spells p) (hq : b.Spells q)
    (he : p ++ x = q ++ y) : a = b ∧ x = y := reads_readKey.unique hp hq he

/-! ### Payloads, groups and records -/

/-- **The payloads of the wire types;** a group has none. -/
def Payload : WireType → Bytes → Prop
  | .varint, q => ∃ n, Varint.Spells n q
  | .thirtyTwoBit, q => q.length = 4
  | .sixtyFourBit, q => q.length = 8
  | .lengthDelimited, q => ∃ payload, Prefixed payload q
  | .startGroup, _ | .endGroup, _ => False

/-- The bytes are a key and what may be behind it. -/
def RecordOf (behind : Key → Bytes → Prop) (p : Bytes) : Prop :=
  ∃ key k q, key.Spells k ∧ behind key q ∧ p = k ++ q

/-- **What is behind a key,** `limit` levels of nesting being left: a payload, or records and the
key that closes the group. -/
def Behind : Nat → Key → Bytes → Prop
  | 0, _, _ => False
  | limit + 1, key, q => Payload key.wireType q ∨
      key.wireType = .startGroup ∧ ∃ (ps : List Bytes) (k : Bytes),
        (∀ p ∈ ps, RecordOf (Behind limit) p) ∧ Key.Spells ⟨key.field, .endGroup⟩ k ∧
          q = ps.flatten ++ k

/-- **The bytes are a record,** whose groups may be nested to any depth. -/
def IsRecord (p : Bytes) : Prop := ∃ limit, RecordOf (Behind limit) p

theorem RecordOf.ne_nil {behind : Key → Bytes → Prop} {p : Bytes} (h : RecordOf behind p) :
    p ≠ [] := by
  obtain ⟨key, k, q, hk, -, rfl⟩ := h
  simp [hk.ne_nil]

theorem RecordOf.imp {F G : Key → Bytes → Prop} (h : ∀ key q, F key q → G key q) {p : Bytes}
    (hp : RecordOf F p) : RecordOf G p := by
  obtain ⟨key, k, q, hk, hq, rfl⟩ := hp
  exact ⟨key, k, q, hk, h key q hq, rfl⟩

theorem behind_iff_payload {limit field : Nat} {w : WireType} {q : Bytes} (hw : w ≠ .startGroup) :
    Behind (limit + 1) ⟨field, w⟩ q ↔ Payload w q := by
  rw [Behind, or_iff_left_iff_imp]
  exact fun hg => absurd hg.1 hw

theorem Behind.wireType_ne {limit : Nat} {key : Key} {q : Bytes} (h : Behind limit key q) :
    key.wireType ≠ .endGroup := by
  intro he
  obtain ⟨field, w⟩ := key
  obtain rfl : w = .endGroup := he
  cases limit with
  | zero => exact h
  | succ limit => exact (behind_iff_payload (by decide)).mp h

theorem Behind.succ {limit : Nat} {key : Key} {q : Bytes} (h : Behind limit key q) :
    Behind (limit + 1) key q := by
  induction limit generalizing key q with
  | zero => exact h.elim
  | succ limit ih =>
    rcases h with h | ⟨hw, ps, k, hps, hk, hq⟩
    · exact Or.inl h
    · exact Or.inr ⟨hw, ps, k, fun p hp => (hps p hp).imp fun _ _ => ih, hk, hq⟩

/-- With more levels left no less may be behind a key. -/
theorem Behind.mono {m n : Nat} (hmn : m ≤ n) {key : Key} {q : Bytes} (h : Behind m key q) :
    Behind n key q := by
  induction hmn with
  | refl => exact h
  | step _ ih => exact ih.succ

/-! ### Skipping -/

/-- Skipping the records of a group, given what skipping what is behind a key takes. -/
theorem skipGroup_eq_ok_iff {skipOne : Key → Bytes → Except Error Bytes}
    {behind : Key → Bytes → Prop} {field : Nat}
    (hskip : ∀ key bytes rest, skipOne key bytes = .ok rest ↔ ∃ q, behind key q ∧ bytes = q ++ rest)
    (hend : ∀ key q, behind key q → key.wireType ≠ .endGroup) {rounds : Nat} {bytes rest : Bytes}
    (hr : bytes.length < rounds) :
    skipGroup skipOne field rounds bytes = .ok rest ↔
      ∃ (ps : List Bytes) (k : Bytes), (∀ p ∈ ps, RecordOf behind p) ∧
        Key.Spells ⟨field, .endGroup⟩ k ∧ bytes = ps.flatten ++ k ++ rest := by
  induction rounds generalizing bytes with
  | zero => omega
  | succ rounds ih =>
    rw [skipGroup, bind_eq_ok]
    constructor
    · rintro ⟨⟨key, bytes'⟩, hkey, h⟩
      obtain ⟨k, hk, rfl⟩ := (reads_readKey _ _ _).mp hkey
      dsimp only at h
      split_ifs at h with h1 h2
      · obtain ⟨field', wireType⟩ := key
        obtain rfl : wireType = .endGroup := h1
        obtain rfl : field' = field := h2
        rw [Except.ok.injEq] at h
        exact ⟨[], k, by simp, hk, by rw [h]; rfl⟩
      · cases h
      · obtain ⟨bytes'', hone, htail⟩ := bind_eq_ok.mp h
        obtain ⟨q, hq, rfl⟩ := (hskip _ _ _).mp hone
        have hlen := List.length_pos_iff.mpr hk.ne_nil
        simp only [List.length_append] at hr
        obtain ⟨ps, k', hps, hk', rfl⟩ := (ih (by omega)).mp htail
        refine ⟨(k ++ q) :: ps, k', ?_, hk', by simp⟩
        exact List.forall_mem_cons.mpr ⟨⟨key, k, q, hk, hq, rfl⟩, hps⟩
    · rintro ⟨ps, k, hps, hk, rfl⟩
      cases ps with
      | nil =>
        refine ⟨_, reads_readKey.append hk rest, ?_⟩
        dsimp only
        rw [if_pos rfl, if_pos rfl]
      | cons p ps =>
        obtain ⟨⟨key, k', q, hk', hq, rfl⟩, htail⟩ := List.forall_mem_cons.mp hps
        have hlen := List.length_pos_iff.mpr hk'.ne_nil
        simp only [List.flatten_cons, List.length_append] at hr
        refine ⟨(key, q ++ (ps.flatten ++ k ++ rest)), ?_, ?_⟩
        · rw [← reads_readKey.append hk']
          simp
        · dsimp only
          rw [if_neg (hend key q hq)]
          refine bind_eq_ok.mpr ⟨_, (hskip _ _ _).mpr ⟨q, hq, rfl⟩, ?_⟩
          refine (ih ?_).mpr ⟨ps, k, htail, hk, rfl⟩
          simp only [List.length_append]
          omega

/-- Leaving out the value that is read. -/
theorem drop_value_eq_ok_iff {α : Type} {r : Reader α} {form : α → Bytes → Prop}
    (hr : Reads r form) {bytes rest : Bytes} :
    (do return (← r bytes).2 : Except Error Bytes) = .ok rest ↔
      ∃ q, (∃ a, form a q) ∧ bytes = q ++ rest := by
  rw [bind_eq_ok]
  constructor
  · rintro ⟨⟨a, rest'⟩, ha, h⟩
    obtain ⟨q, hq, rfl⟩ := (hr _ _ _).mp ha
    obtain rfl := pure_eq_ok.mp h
    exact ⟨q, ⟨a, hq⟩, rfl⟩
  · rintro ⟨q, ⟨a, hq⟩, rfl⟩
    exact ⟨(a, rest), hr.append hq rest, rfl⟩

/-- **Skipping takes what is behind a key.** -/
theorem skip_eq_ok_iff {limit : Nat} {key : Key} {bytes rest : Bytes} :
    skip limit key bytes = .ok rest ↔ ∃ q, Behind limit key q ∧ bytes = q ++ rest := by
  induction limit generalizing key bytes rest with
  | zero => simp [skip, refuse, Behind]
  | succ limit ih =>
    obtain ⟨field, wireType⟩ := key
    unfold skip
    cases wireType with
    | varint =>
      simp only [behind_iff_payload (show WireType.varint ≠ .startGroup by decide), Payload]
      exact drop_value_eq_ok_iff reads_readVarint
    | thirtyTwoBit =>
      simp only [behind_iff_payload (show WireType.thirtyTwoBit ≠ .startGroup by decide), Payload]
      simpa using drop_value_eq_ok_iff (reads_take 4)
    | sixtyFourBit =>
      simp only [behind_iff_payload (show WireType.sixtyFourBit ≠ .startGroup by decide), Payload]
      simpa using drop_value_eq_ok_iff (reads_take 8)
    | lengthDelimited =>
      simp only [behind_iff_payload (show WireType.lengthDelimited ≠ .startGroup by decide),
        Payload]
      exact drop_value_eq_ok_iff reads_readPayload
    | startGroup =>
      have hskip (key : Key) (bytes rest : Bytes) : skip limit key bytes = .ok rest ↔
          ∃ q, Behind limit key q ∧ bytes = q ++ rest := ih
      refine (skipGroup_eq_ok_iff hskip (fun _ _ => Behind.wireType_ne)
        (Nat.lt_succ_self _)).trans ⟨?_, ?_⟩
      · rintro ⟨ps, k, hps, hk, rfl⟩
        exact ⟨_, Or.inr ⟨rfl, ps, k, hps, hk, rfl⟩, rfl⟩
      · rintro ⟨q, h | ⟨-, ps, k, hps, hk, rfl⟩, rfl⟩
        · cases h
        · exact ⟨ps, k, hps, hk, rfl⟩
    | endGroup =>
      simp only [refuse, reduceCtorEq, false_iff]
      rintro ⟨q, h, -⟩
      exact Behind.wireType_ne h rfl

/-- **Where a record ends does not depend on what follows.** -/
theorem IsRecord.unique {a b x y : Bytes} (ha : IsRecord a) (hb : IsRecord b)
    (he : a ++ x = b ++ y) : a = b ∧ x = y := by
  obtain ⟨m, key, k, q, hk, hq, rfl⟩ := ha
  obtain ⟨n, key', k', q', hk', hq', rfl⟩ := hb
  simp only [List.append_assoc] at he
  obtain ⟨rfl, htail⟩ := hk.unique hk' he
  have hx : skip (max m n) key (q ++ x) = .ok x :=
    skip_eq_ok_iff.mpr ⟨q, hq.mono (le_max_left m n), rfl⟩
  have hy : skip (max m n) key (q' ++ y) = .ok y :=
    skip_eq_ok_iff.mpr ⟨q', hq'.mono (le_max_right m n), rfl⟩
  rw [htail, hy, Except.ok.injEq] at hx
  subst hx
  have happ : k ++ q ++ y = k' ++ q' ++ y := by simpa using he
  exact ⟨List.append_cancel_right happ, rfl⟩

end Redaction.Wire
