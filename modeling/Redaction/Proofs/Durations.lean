import Redaction.Proofs.Fractions

/-!
# What durations say

The text of a duration is read as its number of seconds, except for the sign of some: it is written
if both parts are negative, and a negative duration of whole seconds or of less than a second has
only one part to be so (`LosesSign`). Such a duration says the same as its opposite
(`exists_sign_lost`), and no others are alike (`seconds?_json`). A valid duration has nothing to do
with overflow, which only those do that are 2^63 seconds back (`overflows_iff`).
-/

namespace Redaction.Render.Duration

open Number

variable {d d' : Duration}

/-- **A duration as it may be sent:** of 10000 years at most, with less than a second of
nanoseconds, and with both parts of one sign. -/
structure IsValid (d : Duration) : Prop where
  seconds : d.seconds.toInt.natAbs ≤ 315576000000
  nanos : d.nanos.toInt.natAbs < nanosPerSecond
  before : d.seconds.toInt < 0 → d.nanos.toInt ≤ 0
  after : 0 < d.seconds.toInt → 0 ≤ d.nanos.toInt

/-- **The seconds of a duration.** -/
def value (d : Duration) : ℚ := d.seconds.toInt + d.nanos.toInt / 10 ^ 9

/-- A negative duration of whole seconds or of less than a second. -/
def LosesSign (d : Duration) : Prop :=
  (d.seconds.toInt < 0 ∧ d.nanos.toInt = 0) ∨ (d.seconds.toInt = 0 ∧ d.nanos.toInt < 0)

instance (d : Duration) : Decidable d.LosesSign := inferInstanceAs (Decidable (_ ∨ _))

/-! ### Values -/

/-- A duration in nanoseconds. -/
def total (d : Duration) : Int := d.seconds.toInt * 10 ^ 9 + d.nanos.toInt

theorem value_eq (d : Duration) : d.value = d.total / 10 ^ 9 := by
  rw [value, total, eq_div_iff (by positivity), add_mul, div_mul_cancel₀ _ (by positivity)]
  push_cast
  rfl

theorem value_eq_iff : d.value = d'.value ↔ d.total = d'.total := by
  rw [value_eq, value_eq, div_left_inj' (by positivity), Int.cast_inj]

theorem value_eq_neg_iff : d.value = -d'.value ↔ d.total = -d'.total := by
  rw [value_eq, value_eq, ← neg_div, div_left_inj' (by positivity), ← Int.cast_neg, Int.cast_inj]

theorem eq_iff : d = d' ↔ d.seconds.toInt = d'.seconds.toInt ∧ d.nanos.toInt = d'.nanos.toInt := by
  obtain ⟨seconds, nanos⟩ := d
  obtain ⟨seconds', nanos'⟩ := d'
  rw [mk.injEq, Int64.toInt_inj, Int32.toInt_inj]

/-- **Valid durations of one value are the same.** -/
theorem IsValid.eq_of_value (h : d.IsValid) (h' : d'.IsValid) (hvalue : d.value = d'.value) :
    d = d' := by
  rw [value_eq_iff, total, total] at hvalue
  obtain ⟨-, hnanos, hbefore, hafter⟩ := h
  obtain ⟨-, hnanos', hbefore', hafter'⟩ := h'
  rw [nanosPerSecond] at hnanos hnanos'
  rw [eq_iff]
  omega

/-- The parts of opposite durations are opposite. -/
theorem IsValid.parts_of_value (h : d.IsValid) (h' : d'.IsValid) (hvalue : d.value = -d'.value) :
    d.seconds.toInt = -d'.seconds.toInt ∧ d.nanos.toInt = -d'.nanos.toInt := by
  rw [value_eq_neg_iff, total, total] at hvalue
  obtain ⟨-, hnanos, hbefore, hafter⟩ := h
  obtain ⟨-, hnanos', hbefore', hafter'⟩ := h'
  rw [nanosPerSecond] at hnanos hnanos'
  omega

/-! ### Overflow -/

/-- **The absolute value of a number of 64 bits:** that of the first of them wraps around. -/
theorem toInt_abs (n : Int64) :
    n.abs.toInt = if n = Int64.minValue then Int64.minValue.toInt else n.toInt.natAbs := by
  have hfirst : n.toBitVec = BitVec.intMin 64 ↔ n = Int64.minValue :=
    ⟨fun h => Int64.toBitVec_inj.mp h, fun h => h ▸ rfl⟩
  have habs := BitVec.toInt_abs_eq_natAbs (x := n.toBitVec)
  simp only [hfirst] at habs
  exact habs

/-- A valid duration is its own normal form: nothing of it is carried, and its parts are of one
sign. -/
theorem IsValid.normal_eq (h : d.IsValid) : d.normal = (d.seconds.toInt, d.nanos.toInt) := by
  obtain ⟨-, hnanos, hbefore, hafter⟩ := h
  rw [normal, carry, if_pos hnanos]
  dsimp only
  rw [alignSigns, if_neg (by omega), if_neg (by omega)]

/-- **A duration overflows exactly if it is -2^63 seconds or less.** -/
theorem overflows_iff : d.overflows ↔ d.total ≤ -2 ^ 63 * 10 ^ 9 := by
  have hfirst : Int64.minValue.toInt = -2 ^ 63 := by decide
  have hlast : Int64.maxValue.toInt = 2 ^ 63 - 1 := by decide
  have hlower := d.seconds.le_toInt
  have hupper := d.seconds.toInt_lt
  have hparts := Int.mul_tdiv_add_tmod d.nanos.toInt (1000000000 : Nat)
  have hbelow := Int.lt_tmod_of_pos d.nanos.toInt (b := (1000000000 : Nat)) (by decide)
  have habove := Int.tmod_lt_of_pos d.nanos.toInt (b := (1000000000 : Nat)) (by decide)
  rw [overflows, beq_iff_eq, normal, carry, hfirst, hlast, total]
  unfold alignSigns nanosPerSecond
  split_ifs <;> dsimp only <;> split_ifs <;> omega

example : (⟨-9223372036854775808, 0⟩ : Duration).text = "-9223372036854775808s".toList := by decide

theorem IsValid.not_overflows (h : d.IsValid) : ¬ d.overflows := by
  obtain ⟨hseconds, hnanos, -, -⟩ := h
  rw [nanosPerSecond] at hnanos
  rw [overflows_iff, total]
  omega

/-- **A valid duration shows in every build.** -/
theorem IsValid.json?_eq (h : d.IsValid) (o : Overflow) : d.json? o = some d.json :=
  if_neg fun hover => h.not_overflows hover.2

/-! ### Texts -/

/-- A sign if both parts are negative. -/
def signText (d : Duration) : List Char :=
  if d.seconds.toInt < 0 ∧ d.nanos.toInt < 0 then ['-'] else []

theorem IsValid.text_eq (h : d.IsValid) : d.text = d.signText ++
    (digitsOf d.seconds.toInt.natAbs ++ (fraction d.nanos.toInt.natAbs ++ ['s'])) := by
  have hfirst : d.seconds ≠ Int64.minValue := fun heq =>
    h.not_overflows (beq_iff_eq.mpr (by rw [h.normal_eq, heq]))
  have hmagnitude : d.magnitude.toInt = d.seconds.toInt.natAbs := by
    rw [magnitude, h.normal_eq, Int64.ofInt_toInt, toInt_abs, if_neg hfirst]
  have hsign : (d.seconds < 0 ∧ d.nanos < 0) ↔ d.seconds.toInt < 0 ∧ d.nanos.toInt < 0 := by
    rw [Int64.lt_iff_toInt_lt, Int32.lt_iff_toInt_lt, Int64.toInt_zero, Int32.toInt_zero]
  rw [text, hmagnitude, h.normal_eq, integerText_natCast]
  simp only [hsign, signText, List.append_assoc]

/-- **Seconds and a fraction are read.** -/
theorem unsignedSeconds?_digits (m : Nat) {n : Nat} (hn : n < 10 ^ 9) :
    unsignedSeconds? (digitsOf m ++ (fraction n ++ ['s'])) = some (m + n / 10 ^ 9 : ℚ) := by
  have hrest : (fraction n ++ ['s']).head?.all (!·.isDigit) := by
    rw [fraction_eq]
    split_ifs <;> rfl
  have hdigits : ∀ d ∈ digitsOf m, d.isDigit := fun _ => isDigit_of_mem_digitsOf
  obtain ⟨htake, hdrop⟩ := span_digits hdigits hrest
  have hread := fraction?_fraction (n := n) (by decide : 's' ≠ '.') (by decide) []
  have hlength : (fractionDigits n).length ∈ [0, 3, 6, 9] := by
    rw [length_fractionDigits hn]
    exact fractionWidth_mem n
  unfold unsignedSeconds?
  dsimp only
  rw [htake, hdrop, hread, Option.bind_eq_bind, Option.bind_some]
  dsimp only
  rw [if_pos ⟨digitsOf_ne_nil, hlength, rfl⟩, ofDigitChars_digitsOf,
    fractionValue_fractionDigits hn]

/-- The parts of a valid duration without their signs are all of it without its sign. -/
theorem IsValid.add_natAbs (h : d.IsValid) :
    (d.seconds.toInt.natAbs : ℚ) + d.nanos.toInt.natAbs / 10 ^ 9 = d.total.natAbs / 10 ^ 9 := by
  have htotal : d.total.natAbs = d.seconds.toInt.natAbs * 10 ^ 9 + d.nanos.toInt.natAbs := by
    obtain ⟨-, -, hbefore, hafter⟩ := h
    rw [total]
    omega
  rw [htotal, Nat.cast_add, Nat.cast_mul, Nat.cast_pow, Nat.cast_ofNat, add_div,
    mul_div_cancel_right₀ _ (by positivity)]

theorem natAbs_total_of_nonneg (h : 0 ≤ d.total) : (d.total.natAbs : ℚ) / 10 ^ 9 = d.value := by
  rw [value_eq, ← Int.cast_natCast, Int.natAbs_of_nonneg h]

theorem natAbs_total_of_nonpos (h : d.total ≤ 0) : (d.total.natAbs : ℚ) / 10 ^ 9 = -d.value := by
  rw [value_eq, ← Int.cast_natCast, Int.ofNat_natAbs_of_nonpos h, Int.cast_neg, neg_div]

/-- **The text of a valid duration is read as its value,** without the sign that it loses. -/
theorem IsValid.seconds?_text (h : d.IsValid) :
    seconds? d.text = some (if d.LosesSign then -d.value else d.value) := by
  have hread := unsignedSeconds?_digits d.seconds.toInt.natAbs h.nanos
  have hhead : (digitsOf d.seconds.toInt.natAbs ++ (fraction d.nanos.toInt.natAbs ++ ['s'])).head? ≠
      some '-' := by
    rw [List.head?_append_of_ne_nil _ digitsOf_ne_nil]
    intro h
    exact absurd (isDigit_of_mem_digitsOf (List.mem_of_head? h)) (by decide)
  have hbefore := h.before
  have hafter := h.after
  rw [h.add_natAbs] at hread
  rw [h.text_eq, signText, seconds?]
  by_cases hsign : d.seconds.toInt < 0 ∧ d.nanos.toInt < 0
  · have hkeeps : ¬ d.LosesSign := by
      unfold LosesSign
      omega
    rw [if_pos hsign, List.singleton_append, List.head?_cons, if_pos rfl, List.tail_cons, hread,
      if_neg hkeeps, natAbs_total_of_nonpos (by unfold total; omega), Option.map_some, neg_neg]
  · rw [if_neg hsign, List.nil_append, if_neg hhead, hread]
    split_ifs with hloses
    · rw [natAbs_total_of_nonpos (by unfold LosesSign at hloses; unfold total; omega)]
    · rw [natAbs_total_of_nonneg (by unfold LosesSign at hloses; unfold total; omega)]

/-- The opposite of a duration that loses its sign has the same text. -/
theorem LosesSign.text_eq (h : d.IsValid) (h' : d'.IsValid) (hvalue : d.value = -d'.value)
    (hloses : d.LosesSign) : d.text = d'.text := by
  obtain ⟨hseconds, hnanos⟩ := h.parts_of_value h' hvalue
  unfold LosesSign at hloses
  rw [h.text_eq, h'.text_eq, signText, signText, if_neg (by omega), if_neg (by omega), hseconds,
    hnanos, Int.natAbs_neg, Int.natAbs_neg]

/-- **Every valid duration shows as a number of seconds,** with or without a sign, and with no
digits or 3, 6 or 9 of them behind the point. It is the value of the duration, or its opposite for a
negative duration of whole seconds or of less than a second. Only these two show alike. No build
treats them differently. -/
theorem seconds?_json (h : d.IsValid) (h' : d'.IsValid) :
    ∃ cs, d.json = .text (String.ofList cs) ∧ (∀ o, d.json? o = some d.json) ∧
      seconds? cs = some (if d.LosesSign then -d.value else d.value) ∧
      (d.json = d'.json ↔ d = d' ∨ d.value = -d'.value ∧ (d.LosesSign ∨ d'.LosesSign)) := by
  refine ⟨d.text, rfl, h.json?_eq, h.seconds?_text, fun hjson => ?_, ?_⟩
  · have htext : d.text = d'.text := String.ofList_injective (Json.text.inj hjson)
    have hread := h.seconds?_text
    rw [htext, h'.seconds?_text, Option.some.injEq] at hread
    by_cases hloses : d.LosesSign <;> by_cases hloses' : d'.LosesSign
    · rw [if_pos hloses, if_pos hloses', neg_inj] at hread
      exact Or.inl (h.eq_of_value h' hread.symm)
    · rw [if_pos hloses, if_neg hloses'] at hread
      exact Or.inr ⟨by rw [hread, neg_neg], Or.inl hloses⟩
    · rw [if_neg hloses, if_pos hloses'] at hread
      exact Or.inr ⟨hread.symm, Or.inr hloses'⟩
    · rw [if_neg hloses, if_neg hloses'] at hread
      exact Or.inl (h.eq_of_value h' hread.symm)
  · rintro (rfl | ⟨hvalue, hloses | hloses⟩)
    · rfl
    · rw [json, json, hloses.text_eq h h' hvalue]
    · rw [json, json, hloses.text_eq h' h (by rw [hvalue, neg_neg])]

theorem seconds?_json_apart : (⟨-3, -50000000⟩ : Duration).IsValid ∧
    (⟨3, 50000000⟩ : Duration).IsValid ∧
    (∃ cs, (⟨-3, -50000000⟩ : Duration).json = .text (String.ofList cs) ∧
      seconds? cs = some (-61 / 20)) ∧
    (⟨-3, -50000000⟩ : Duration).json ≠ (⟨3, 50000000⟩ : Duration).json := by
  have h : (⟨-3, -50000000⟩ : Duration).IsValid := by constructor <;> decide
  have h' : (⟨3, 50000000⟩ : Duration).IsValid := by constructor <;> decide
  have htotal : (⟨-3, -50000000⟩ : Duration).total = -3050000000 := by decide
  obtain ⟨cs, hjson, -, hread, halike⟩ := seconds?_json h h'
  rw [if_neg (by decide), value_eq, htotal] at hread
  refine ⟨h, h', ⟨cs, hjson, hread.trans (by norm_num)⟩, fun heq => ?_⟩
  rcases halike.mp heq with heq | ⟨-, hloses⟩
  · exact absurd heq (by decide)
  · exact absurd hloses (by decide)

/-- **A negative duration can show as its opposite,** which is not its value. -/
theorem exists_sign_lost : ∃ d d' : Duration, d.IsValid ∧ d'.IsValid ∧ d ≠ d' ∧
    d.json = .text "1s" ∧ d'.json = .text "1s" ∧ d.value = -1 ∧ seconds? ['1', 's'] = some 1 := by
  have htotal : (⟨-1, 0⟩ : Duration).total = -1000000000 := by decide
  refine ⟨⟨-1, 0⟩, ⟨1, 0⟩, ?_, ?_, by decide, rfl, rfl, ?_, ?_⟩
  · constructor <;> decide
  · constructor <;> decide
  · rw [value_eq, htotal]
    norm_num
  · exact (unsignedSeconds?_digits 1 (n := 0) (by decide)).trans (by norm_num)

end Redaction.Render.Duration
