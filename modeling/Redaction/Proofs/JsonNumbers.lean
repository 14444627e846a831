import Mathlib.Data.List.Basic
import Redaction.Json.Reader
import Redaction.Json.Text
import Redaction.Proofs.Digits
import Redaction.Proofs.ShortestDecimals

/-!
# Numbers in JSON documents

What documents have for a number is one token of the language: an integer is digits with or without
a sign, a finite double has a fraction or an exponent on top (`IsToken`). So the reader gets every
integer back, and hands the text of every double to the function that it is given for that.
-/

namespace Redaction

open Number

namespace Json

open Read

variable {ds cs whole tail : List Char} {c : Char} {d : Decimal}

/-! ### Digits -/

theorem areDigits_iff : areDigits ds ↔ ds ≠ [] ∧ ∀ c ∈ ds, c.isDigit := by
  simp [areDigits]

theorem areDigits_digitsOf (n : Nat) : areDigits (digitsOf n) :=
  areDigits_iff.mpr ⟨digitsOf_ne_nil, fun _ => isDigit_of_mem_digitsOf⟩

theorem isWhole_of_head? (hds : areDigits ds) (h : ds.head? ≠ some '0') : isWhole ds := by
  simp [isWhole, hds, h]

theorem isWhole_digitsOf (n : Nat) : isWhole (digitsOf n) := by
  rcases Nat.eq_zero_or_pos n with rfl | hn
  · decide
  · exact isWhole_of_head? (areDigits_digitsOf n) (head?_digitsOf hn)

theorem isDigit_of_isWhole (h : isWhole whole) : ∀ c ∈ whole, c.isDigit :=
  (areDigits_iff.mp (Bool.and_eq_true_iff.mp h).1).2

/-! ### Tokens -/

theorem isNumeric_of_isDigit (h : c.isDigit) : isNumeric c := by
  simp [isNumeric, h]

/-- An exponent begins with its letter. -/
theorem isExponent_cons_iff : isExponent (c :: cs) ↔ (c = 'e' ∨ c = 'E') ∧
    areDigits (if cs.head? == some '+' || cs.head? == some '-' then cs.tail else cs) := by
  simp [isExponent]

theorem isNumeric_of_isExponent (h : isExponent cs) : ∀ c ∈ cs, isNumeric c := by
  cases cs with
  | nil => exact fun c hc => absurd hc List.not_mem_nil
  | cons c cs =>
    obtain ⟨hc, hds⟩ := isExponent_cons_iff.mp h
    obtain ⟨-, hds⟩ := areDigits_iff.mp hds
    refine List.forall_mem_cons.mpr ⟨by rcases hc with rfl | rfl <;> decide, ?_⟩
    cases cs with
    | nil => exact fun c hc => absurd hc List.not_mem_nil
    | cons sign ds =>
      rw [List.head?_cons, List.tail_cons] at hds
      split_ifs at hds with hsign
      · refine List.forall_mem_cons.mpr ⟨?_, fun c hc => isNumeric_of_isDigit (hds c hc)⟩
        rcases (by simpa using hsign : sign = '+' ∨ sign = '-') with rfl | rfl <;> decide
      · exact fun c hc => isNumeric_of_isDigit (hds c hc)

theorem isNumeric_of_isTail (h : isTail cs) : ∀ c ∈ cs, isNumeric c := by
  unfold isTail at h
  split_ifs at h with hpoint
  · obtain ⟨hds, hexp⟩ := Bool.and_eq_true_iff.mp h
    obtain ⟨-, hds⟩ := areDigits_iff.mp hds
    cases cs with
    | nil => exact fun c hc => absurd hc List.not_mem_nil
    | cons c cs =>
      obtain rfl : c = '.' := by simpa using hpoint
      refine List.forall_mem_cons.mpr ⟨by decide, ?_⟩
      rw [← List.takeWhile_append_dropWhile (p := Char.isDigit) (l := cs)]
      exact List.forall_mem_append.mpr
        ⟨fun c hc => isNumeric_of_isDigit (hds c hc), isNumeric_of_isExponent hexp⟩
  · exact isNumeric_of_isExponent h

/-- What follows the digits before the point does not begin with a digit. -/
theorem not_isDigit_of_isTail (h : isTail cs) (hc : cs.head? = some c) : ¬ c.isDigit := by
  cases cs with
  | nil => cases hc
  | cons c' cs =>
    obtain rfl := Option.some.inj hc
    unfold isTail at h
    split_ifs at h with hpoint
    · obtain rfl : c' = '.' := by simpa using hpoint
      decide
    · rcases (isExponent_cons_iff.mp h).1 with rfl | rfl <;> decide

/-- **A number without its sign:** the digits before the point and what follows them. -/
structure IsToken (whole tail : List Char) : Prop where
  whole : isWhole whole
  tail : isTail tail

theorem IsToken.isNumeric (h : IsToken whole tail) : ∀ c ∈ whole ++ tail, isNumeric c :=
  List.forall_mem_append.mpr ⟨fun c hc => isNumeric_of_isDigit (isDigit_of_isWhole h.whole c hc),
    isNumeric_of_isTail h.tail⟩

/-- The sign of a token is told by its first character. -/
theorem IsToken.head? (h : IsToken whole tail) : (whole ++ tail).head? ≠ some '-' := by
  obtain ⟨hne, hds⟩ := areDigits_iff.mp (Bool.and_eq_true_iff.mp h.whole).1
  rw [List.head?_append_of_ne_nil _ hne]
  intro hhead
  exact absurd (hds _ (List.mem_of_head? hhead)) (by decide)

/-- **The number of a token** is an integer if nothing follows the digits before the point. -/
theorem IsToken.numberOf (h : IsToken whole tail) (parse : List Char → Double) (negative : Bool) :
    Read.numberOf parse ((if negative then ['-'] else []) ++ (whole ++ tail)) =
      some (if tail.isEmpty then
          .integer (if negative then -(Nat.ofDigitChars 10 whole 0 : Int)
            else Nat.ofDigitChars 10 whole 0)
        else .number (parse ((if negative then ['-'] else []) ++ (whole ++ tail)))) := by
  have hsign : (((if negative then ['-'] else []) ++ (whole ++ tail)).head? == some '-') =
      negative := by
    cases negative with
    | true => rfl
    | false => simpa using h.head?
  have hunsigned : (if negative = true then ((if negative then ['-'] else []) ++
      (whole ++ tail)).tail else (if negative then ['-'] else []) ++ (whole ++ tail)) =
      whole ++ tail := by cases negative <;> rfl
  obtain ⟨htake, hdrop⟩ := span_append (isDigit_of_isWhole h.whole)
    fun c hc => not_isDigit_of_isTail h.tail hc
  unfold Read.numberOf
  dsimp only
  rw [hsign, hunsigned, htake, hdrop, h.whole, h.tail, Bool.and_self, if_pos rfl]
  split_ifs <;> rfl

/-! ### Integers -/

theorem integerText_eq (n : Int) : integerText n =
    (if decide (n < 0) then ['-'] else []) ++ (digitsOf n.natAbs ++ []) := by
  unfold integerText
  rw [List.append_nil]
  by_cases hn : n < 0 <;> simp [hn]

theorem isToken_digitsOf (n : Nat) : IsToken (digitsOf n) [] := ⟨isWhole_digitsOf n, rfl⟩

/-- **An integer is read back.** -/
theorem numberOf_integerText (parse : List Char → Double) (n : Int) :
    numberOf parse (integerText n) = some (.integer n) := by
  have hvalue : Nat.ofDigitChars 10 (digitsOf n.natAbs) 0 = n.natAbs :=
    Nat.ofDigitChars_toDigits (by decide) (by decide)
  rw [integerText_eq, (isToken_digitsOf n.natAbs).numberOf, hvalue]
  simp only [List.isEmpty_nil, if_true, decide_eq_true_eq]
  split_ifs with hn <;> congr 2 <;> omega

/-! ### Doubles -/

/-- A fraction of digits. -/
theorem isTail_fraction (hds : areDigits ds) : isTail ('.' :: ds) := by
  obtain ⟨htake, hdrop⟩ := @span_append _ _ [] (areDigits_iff.mp hds).2 nofun
  rw [List.append_nil] at htake hdrop
  simp [isTail, htake, hdrop, hds, isExponent]

theorem isExponent_order (n : Nat) (sign : Char) (hsign : sign = '+' ∨ sign = '-') :
    isExponent ('e' :: sign :: digitsOf n) := by
  refine isExponent_cons_iff.mpr ⟨Or.inl rfl, ?_⟩
  rcases hsign with rfl | rfl <;> exact areDigits_digitsOf n

/-- A text is that of a number with a fraction or an exponent. -/
def IsDecimalText (cs : List Char) : Prop :=
  ∃ whole tail, cs = whole ++ tail ∧ IsToken whole tail ∧ tail ≠ []

theorem isDecimalText_point (hwhole : isWhole whole) (hds : areDigits ds) :
    IsDecimalText (whole ++ '.' :: ds) :=
  ⟨whole, '.' :: ds, rfl, ⟨hwhole, isTail_fraction hds⟩, List.cons_ne_nil _ _⟩

/-- What is before the point is a zero, or digits that do not begin with one. -/
theorem isWhole_take_paddedDigits {n : Nat} (hn : 0 < n) (places : Nat) :
    isWhole ((paddedDigits (places + 1) n).take
      ((paddedDigits (places + 1) n).length - places)) := by
  rcases Nat.lt_or_ge (digitsOf n).length (places + 1) with h | h
  · have hpad : paddedDigits (places + 1) n =
        '0' :: (List.replicate (places - (digitsOf n).length) '0' ++ digitsOf n) := by
      rw [paddedDigits, List.leftpad, Nat.succ_sub (Nat.lt_succ_iff.mp h), List.replicate_succ,
        List.cons_append]
    have hlength : (paddedDigits (places + 1) n).length = places + 1 := by
      rw [paddedDigits, List.length_leftpad, max_eq_left h.le]
    rw [hlength, Nat.add_sub_cancel_left, hpad]
    rfl
  · have hpad : paddedDigits (places + 1) n = digitsOf n := by
      rw [paddedDigits, List.leftpad, Nat.sub_eq_zero_of_le h, List.replicate_zero,
        List.nil_append]
    have hpos : (digitsOf n).length - places ≠ 0 := by omega
    rw [hpad]
    refine isWhole_of_head? (areDigits_iff.mpr ⟨?_, fun c hc => ?_⟩) ?_
    · simp [List.take_eq_nil_iff, hpos, digitsOf_ne_nil]
    · exact isDigit_of_mem_digitsOf (List.mem_of_mem_take hc)
    · rw [List.head?_take, if_neg hpos]
      exact head?_digitsOf hn

theorem isDecimalText_withFraction (hd : 0 < d.digits) : IsDecimalText (withFraction d) := by
  have hne : digitsOf d.digits ≠ [] := digitsOf_ne_nil
  unfold withFraction Decimal.positional
  split_ifs with he
  · refine isDecimalText_point (isWhole_of_head? (areDigits_iff.mpr ⟨?_, ?_⟩) ?_) rfl
    · exact List.append_ne_nil_of_left_ne_nil hne _
    · refine List.forall_mem_append.mpr ⟨fun _ => isDigit_of_mem_digitsOf, fun c hc => ?_⟩
      rw [List.eq_of_mem_replicate hc]
      rfl
    · rw [List.head?_append_of_ne_nil _ hne]
      exact head?_digitsOf hd
  · dsimp only
    rw [List.append_nil]
    generalize hplaces : (-d.exponent).toNat = places
    have hpos : 0 < places := by omega
    have hlt := lt_length_paddedDigits places d.digits
    refine isDecimalText_point (isWhole_take_paddedDigits hd places)
      (areDigits_iff.mpr ⟨?_, fun c hc => ?_⟩)
    · rw [Ne, List.drop_eq_nil_iff]
      omega
    · exact isDigit_of_mem_paddedDigits (List.mem_of_mem_drop hc)

/-- An exponent behind a fraction, if there are digits for one. -/
theorem isTail_scientific (hds : ∀ c ∈ ds, c.isDigit) (hexp : isExponent ('e' :: cs)) :
    isTail ((if ds.isEmpty then [] else '.' :: ds) ++ 'e' :: cs) := by
  cases ds with
  | nil => exact hexp
  | cons c ds =>
    obtain ⟨htake, hdrop⟩ := @span_append _ _ ('e' :: cs) hds (by simp)
    have htail : isTail ('.' :: (c :: ds ++ 'e' :: cs)) := by
      simp only [isTail, List.head?_cons, List.tail_cons, htake, hdrop, hexp, Bool.and_true]
      exact areDigits_iff.mpr ⟨List.cons_ne_nil _ _, hds⟩
    exact htail

theorem isDecimalText_scientific (d : Decimal) : IsDecimalText d.scientific := by
  have hexp : isExponent ('e' :: (if d.order < 0 then '-' else '+') :: digitsOf d.order.natAbs) :=
    isExponent_order _ _ (by split_ifs <;> simp)
  obtain ⟨first, more, hdigits⟩ := List.exists_cons_of_ne_nil (@digitsOf_ne_nil d.digits)
  obtain ⟨hfirst, hmore⟩ := List.forall_mem_cons.mp fun c (hc : c ∈ first :: more) =>
    isDigit_of_mem_digitsOf (hdigits ▸ hc)
  have hwhole : isWhole [first] := by
    by_cases h : first = '0'
    · subst h
      rfl
    · exact isWhole_of_head? (by simp [areDigits, hfirst]) (by simpa using h)
  refine ⟨[first], (if more.isEmpty then [] else '.' :: more) ++
    'e' :: (if d.order < 0 then '-' else '+') :: digitsOf d.order.natAbs, ?_,
    ⟨hwhole, isTail_scientific hmore hexp⟩, List.append_ne_nil_of_right_ne_nil _ (by simp)⟩
  unfold Decimal.scientific
  dsimp only
  rw [hdigits, List.drop_one, List.tail_cons, List.take_succ_cons, List.take_zero]
  simp only [List.append_assoc, List.cons_append, List.nil_append]

/-- The decimal of a magnitude has a digit other than zero, or is zero without a power of ten. -/
theorem isDecimalText_decimalText (h : 0 < d.digits ∨ d = ⟨0, 0⟩) :
    IsDecimalText (decimalText d) := by
  unfold decimalText
  rcases h with h | rfl
  · split_ifs
    · exact isDecimalText_withFraction h
    · exact isDecimalText_scientific d
  · exact isDecimalText_point (by decide : isWhole ['0']) (by decide : areDigits ['0'])

theorem shortest_pos_or_eq_zero (s : Scaled) :
    0 < (double.shortest .even s).digits ∨ double.shortest .even s = ⟨0, 0⟩ := by
  by_cases hs : s.mantissa = 0
  · exact Or.inr (if_pos hs)
  · exact Or.inl (Format.shortest_pos (by decide) hs)

/-- **The text of a finite double** is a token with a fraction or an exponent. -/
theorem doubleText_eq {x : Double} (hx : x.isFinite) : ∃ (negative : Bool) (cs : List Char),
    IsDecimalText cs ∧ doubleText x = (if negative then ['-'] else []) ++ cs := by
  obtain ⟨s, hs⟩ := Option.isSome_iff_exists.mp hx
  refine ⟨s.negative, _, isDecimalText_decimalText (shortest_pos_or_eq_zero s), ?_⟩
  unfold doubleText
  rw [hs]

/-- **The text of a finite double is handed on.** -/
theorem numberOf_doubleText (parse : List Char → Double) {x : Double} (hx : x.isFinite) :
    numberOf parse (doubleText x) = some (.number (parse (doubleText x))) := by
  obtain ⟨negative, cs, ⟨whole, tail, rfl, htoken, htail⟩, heq⟩ := doubleText_eq hx
  rw [heq, htoken.numberOf, if_neg (by simpa using htail)]

/-! ### What numbers are written with -/

theorem isNumeric_of_signed (negative : Bool) (h : IsToken whole tail) :
    ∀ c ∈ (if negative then ['-'] else []) ++ (whole ++ tail), isNumeric c := by
  refine List.forall_mem_append.mpr ⟨?_, h.isNumeric⟩
  cases negative <;> simp [Read.isNumeric]

theorem isNumeric_integerText (n : Int) : ∀ c ∈ integerText n, isNumeric c := by
  rw [integerText_eq]
  exact isNumeric_of_signed _ (isToken_digitsOf _)

theorem isNumeric_doubleText {x : Double} (hx : x.isFinite) :
    ∀ c ∈ doubleText x, isNumeric c := by
  obtain ⟨negative, cs, ⟨whole, tail, rfl, htoken, -⟩, heq⟩ := doubleText_eq hx
  rw [heq]
  exact isNumeric_of_signed negative htoken

end Json

end Redaction
