import Redaction.Code.LiteralReader
import Redaction.Code.Printer
import Redaction.Proofs.JsonDocuments

/-!
# Literals mean what they are made from

The reader of literals gets back what the writer was given. It goes over an escape or a run of
digits in so many steps, whatever stands behind it, so each has a lemma of its own, and the text is
read by induction on its characters.

* `text?_literal`: the literal of a text, in which every character shows (`isVisible_literal`).
* `integer?_integer`: the literal of an integer that its type has.
* `float?_float`: the literal of a finite number, which is read as a decimal that rounds to it.
-/

namespace Redaction.Code.Literal

open Number Text Read
open Text.Quoted (escape codeEscape literalBody literal startsOctal)

variable {c : Char} {rest : List Char} {n : Nat}

/-! ### Hexadecimal digits -/

theorem characters?_digit {d count value : Nat} (hd : d < 16) (hcount : count < 6) :
    characters? (.digits count value) (Nat.digitChar d :: rest) =
      characters? (.digits (count + 1) (value * 16 + d)) rest := by
  have hbrace : ∀ d < 16, Nat.digitChar d ≠ '\x7d' ∧ Nat.digitChar d ≠ '_' := by decide
  obtain ⟨hclose, hunder⟩ := hbrace d hd
  rw [characters?, if_neg hclose, if_neg fun h => hunder h.1, if_pos hcount,
    Json.hexDigit?_digitChar d hd, Option.bind_some]

/-- **The digits of a code point are read** one after the other, from the highest. -/
theorem characters?_toDigits : ∀ {k n : Nat}, n < 16 ^ (k + 1) → k < 6 →
    ∃ count, 0 < count ∧ count ≤ k + 1 ∧ ∀ rest,
      characters? (.digits 0 0) (Nat.toDigits 16 n ++ rest) =
        characters? (.digits count n) rest
  | k, n, hn, hk => by
    rw [Nat.toDigits_eq_if (by decide)]
    split_ifs with hlt
    · refine ⟨1, Nat.one_pos, by omega, fun rest => ?_⟩
      rw [List.singleton_append, characters?_digit hlt (by decide), Nat.zero_mul, Nat.zero_add,
        Nat.zero_add]
    · cases k with
      | zero => omega
      | succ k =>
        have hn' : n / 16 < 16 ^ (k + 1) := by
          rw [Nat.div_lt_iff_lt_mul (by decide), ← Nat.pow_succ]
          exact hn
        obtain ⟨count, hpos, hle, hread⟩ := characters?_toDigits hn' (by omega)
        refine ⟨count + 1, Nat.succ_pos _, by omega, fun rest => ?_⟩
        rw [List.append_assoc, hread, List.singleton_append,
          characters?_digit (Nat.mod_lt _ (by decide)) (by omega), Nat.div_add_mod']

/-! ### Characters -/

theorem characters?_codeEscape (c : Char) (rest : List Char) :
    characters? (.plain false) (codeEscape c ++ rest) =
      push c (characters? (.plain false) rest) := by
  have hvalid : c.toNat.isValidChar := c.valid
  have hlt : c.toNat < 16 ^ 6 := by
    rcases hvalid with h | h <;> omega
  obtain ⟨count, hpos, -, hread⟩ := characters?_toDigits hlt (by decide)
  have hopen : codeEscape c ++ rest =
      '\\' :: 'u' :: '\x7b' :: (Nat.toDigits 16 c.toNat ++ '\x7d' :: rest) := by
    simp [codeEscape]
  have hclose : characters? (.digits count c.toNat) ('\x7d' :: rest) =
      push c (characters? (.plain false) rest) := by
    rw [characters?, if_pos rfl, if_pos ⟨hpos, hvalid⟩, Char.ofNat_toNat]
  rw [hopen, ← hclose, ← hread]
  rfl

/-- **An escape is read as the character** that it stands for. -/
theorem characters?_escape (c : Char) (rest : List Char) :
    characters? (.plain false) (escape c ++ rest) = push c (characters? (.plain false) rest) := by
  unfold escape
  split_ifs with hnul htab hreturn hline hquote hslash hplain
  · rw [hnul]; rfl
  · rw [htab]; rfl
  · rw [hreturn]; rfl
  · rw [hline]; rfl
  · rw [hquote]; rfl
  · rw [hslash]; rfl
  · rw [List.singleton_append, characters?, if_neg (by simp), if_neg hquote, if_neg hslash,
      if_neg hreturn]
  · exact characters?_codeEscape c rest

/-- **What stands between the quotes is read** up to the closing one. -/
theorem characters?_literalBody (rest : List Char) : ∀ cs : List Char,
    characters? (.plain false) (literalBody cs ++ '"' :: rest) = some (cs, rest)
  | [] => rfl
  | c :: cs => by
    have ih := characters?_literalBody rest cs
    unfold literalBody
    rw [List.append_assoc]
    split_ifs with hnul
    · rw [hnul.1]
      exact congrArg (push '\x00') ih
    · rw [characters?_escape, ih]
      rfl

/-- **The literal of a text is read as the text,** whatever stands behind it. -/
theorem text?_literal (s : String) (rest : List Char) :
    text? ((literal s).toList ++ rest) = some (s, rest) := by
  have hquoted : (literal s).toList ++ rest = '"' :: (literalBody s.toList ++ '"' :: rest) := by
    simp [literal]
  rw [hquoted, text?, characters?_literalBody, Option.map_some, String.ofList_toList]

/-! ### Characters that show -/

theorem exists_digitChar {b : Nat} (hb : 1 < b) : ∀ {n : Nat}, c ∈ Nat.toDigits b n →
    ∃ d < b, c = Nat.digitChar d
  | n, h => by
    rw [Nat.toDigits_eq_if hb] at h
    split_ifs at h with hn
    · exact ⟨n, hn, List.mem_singleton.mp h⟩
    · rcases List.mem_append.mp h with h | h
      · have hlt : n / b < n := Nat.div_lt_self (by omega) hb
        exact exists_digitChar hb h
      · exact ⟨n % b, Nat.mod_lt _ (by omega), List.mem_singleton.mp h⟩

theorem isVisible_escape (c : Char) : ∀ d ∈ escape c, isVisible d := by
  unfold escape
  split_ifs with _ _ _ _ _ _ hplain
  iterate 6 exact List.forall_mem_cons.mpr ⟨by decide, List.forall_mem_singleton.mpr (by decide)⟩
  · simp only [isPlain, Bool.and_eq_true] at hplain
    exact List.forall_mem_singleton.mpr hplain.1.1
  · have hdigit : ∀ d < 16, isVisible (Nat.digitChar d) := by decide
    unfold codeEscape
    simp only [List.forall_mem_append, List.forall_mem_cons]
    refine ⟨⟨⟨by decide, by decide, by decide, by simp⟩, fun d hd => ?_⟩, by decide, by simp⟩
    obtain ⟨k, hk, rfl⟩ := exists_digitChar (by decide) hd
    exact hdigit k hk

theorem isVisible_literalBody : ∀ cs : List Char, ∀ d ∈ literalBody cs, isVisible d
  | [] => by simp [literalBody]
  | c :: cs => by
    unfold literalBody
    refine List.forall_mem_append.mpr ⟨?_, isVisible_literalBody cs⟩
    split_ifs
    · exact List.all_eq_true.mp rfl
    · exact isVisible_escape c

/-- **The literal of a text holds nothing that does not show,** so no line ends in it. -/
theorem isVisible_literal (s : String) : ∀ d ∈ (literal s).toList, isVisible d := by
  unfold literal
  rw [String.toList_ofList, List.cons_append]
  simp only [List.forall_mem_cons, List.forall_mem_append]
  exact ⟨by decide, isVisible_literalBody _, by decide, by simp⟩

/-! ### Integers -/

theorem integerType?_suffix (type : IntegerType) :
    integerType? type.suffix.toList = some type ∧ type.suffix.toList.head?.all (!·.isDigit) := by
  cases type <;> decide

/-- A number without a sign is not negative. -/
theorem not_lt_zero_of_holds {type : IntegerType} {n : Int} (h : Holds type n) (hn : n < 0) :
    type ≠ .u64 := by
  rintro rfl
  exact absurd h.1 (not_le.mpr hn)

theorem signedInteger?_digitsOf {type : IntegerType} {n : Int} (h : Holds type n) :
    signedInteger? (n < 0) (String.ofList (digitsOf n.natAbs) ++ type.suffix) = some (type, n) := by
  obtain ⟨htype, hsuffix⟩ := integerType?_suffix type
  have hdigits : ∀ d ∈ digitsOf n.natAbs, d.isDigit := fun _ => isDigit_of_mem_digitsOf
  obtain ⟨htake, hdrop⟩ := span_digits hdigits hsuffix
  have hword : (String.ofList (digitsOf n.natAbs) ++ type.suffix).toList =
      digitsOf n.natAbs ++ type.suffix.toList := by
    rw [String.toList_append, String.toList_ofList]
  have hvalue := ofDigitChars_digitsOf n.natAbs
  have hsigned : (if decide (n < 0) then -(n.natAbs : Int) else n.natAbs) = n := by
    split_ifs with hn <;> simp only [decide_eq_true_eq] at hn <;> omega
  have hholds : digitsOf n.natAbs ≠ [] ∧ (decide (n < 0) → type ≠ .u64) ∧ Holds type n :=
    ⟨digitsOf_ne_nil, fun hn => not_lt_zero_of_holds h (of_decide_eq_true hn), h⟩
  unfold signedInteger?
  simp only [hword, htake, hdrop, htype, hvalue, hsigned, Option.bind_eq_bind, Option.bind_some]
  rw [if_pos hholds]
  rfl

/-- **The literal of an integer is read as the integer,** if its type has it. -/
theorem integer?_integer {type : IntegerType} {n : Int} (h : Holds type n) :
    integer? (integer n type.suffix) = some (type, n) := by
  have hread := signedInteger?_digitsOf h
  unfold integer number
  by_cases hn : n < 0
  · simp only [hn, decide_true] at hread
    simpa [hn, integer?] using hread
  · simp only [hn, decide_false] at hread
    simpa [hn, integer?] using hread

/-! ### Floating-point numbers -/

/-- The suffix of a width. -/
def widthSuffix : FloatWidth → String
  | .single => "f32"
  | .double => "f64"

theorem floatWidth?_suffix (width : FloatWidth) :
    floatWidth? (widthSuffix width).toList = some width ∧
      (widthSuffix width).toList.head?.all (!·.isDigit) ∧
      ((widthSuffix width).toList.head? == some '.') = false := by
  cases width <;> decide

/-- Digits without a point are a whole number. -/
theorem decimal?_whole {ds : List Char} (hne : ds ≠ []) (hds : ∀ d ∈ ds, d.isDigit)
    (width : FloatWidth) : decimal? (String.ofList ds ++ widthSuffix width) =
      some (width, ⟨Nat.ofDigitChars 10 ds 0, 0⟩) := by
  obtain ⟨hwidth, hsuffix, hpoint⟩ := floatWidth?_suffix width
  obtain ⟨htake, hdrop⟩ := span_digits hds hsuffix
  have hword : (String.ofList ds ++ widthSuffix width).toList =
      ds ++ (widthSuffix width).toList := by
    rw [String.toList_append, String.toList_ofList]
  unfold decimal?
  simp [hword, htake, hdrop, hpoint, hwidth, hne]

/-- Digits with a point among them are so many digits behind it. -/
theorem decimal?_fraction {whole fraction : List Char} (hwhole : whole ≠ []) (hne : fraction ≠ [])
    (hds : ∀ d ∈ whole ++ fraction, d.isDigit) (width : FloatWidth) :
    decimal? (String.ofList (whole ++ '.' :: fraction) ++ widthSuffix width) =
      some (width, ⟨Nat.ofDigitChars 10 (whole ++ fraction) 0, -fraction.length⟩) := by
  obtain ⟨hwidth, hsuffix, -⟩ := floatWidth?_suffix width
  obtain ⟨hds, hds'⟩ := List.forall_mem_append.mp hds
  obtain ⟨htake', hdrop'⟩ := span_digits hds' hsuffix
  have hpoint : ('.' :: (fraction ++ (widthSuffix width).toList)).head?.all (!·.isDigit) := rfl
  obtain ⟨htake, hdrop⟩ := span_digits hds hpoint
  have hword : (String.ofList (whole ++ '.' :: fraction) ++ widthSuffix width).toList =
      whole ++ '.' :: (fraction ++ (widthSuffix width).toList) := by
    rw [String.toList_append, String.toList_ofList, List.append_assoc, List.cons_append]
  unfold decimal?
  rw [hword]
  simp [htake, hdrop, htake', hdrop', hwidth, hwhole, hne]

/-- **The positional notation of a decimal is read as the decimal.** -/
theorem decimal?_positional (d : Decimal) (width : FloatWidth) :
    decimal? (String.ofList d.positional ++ widthSuffix width) = some (width, d.expanded) := by
  unfold Decimal.positional Decimal.expanded
  split_ifs with he
  · have hdigits : ∀ c ∈ digitsOf d.digits ++ List.replicate d.exponent.toNat '0', c.isDigit := by
      refine List.forall_mem_append.mpr ⟨fun _ => isDigit_of_mem_digitsOf, fun c hc => ?_⟩
      rw [List.eq_of_mem_replicate hc]
      rfl
    rw [decimal?_whole (List.append_ne_nil_of_left_ne_nil digitsOf_ne_nil _) hdigits,
      Nat.ofDigitChars_append, ofDigitChars_digitsOf, Nat.ofDigitChars_replicate_zero,
      Nat.mul_comm]
  · obtain ⟨digits, exponent⟩ := d
    dsimp only at he ⊢
    obtain ⟨places, rfl⟩ : ∃ places : Nat, exponent = -places := ⟨(-exponent).toNat, by omega⟩
    have hplaces : (- -(places : Int)).toNat = places := by omega
    have hlt := lt_length_paddedDigits places digits
    have hdigits : ∀ c ∈ paddedDigits (places + 1) digits, c.isDigit :=
      fun _ => isDigit_of_mem_paddedDigits
    have hvalue := ofDigitChars_paddedDigits (places + 1) digits
    rw [hplaces]
    generalize paddedDigits (places + 1) digits = ds at hlt hdigits hvalue ⊢
    have hlength : (ds.drop (ds.length - places)).length = places := by
      rw [List.length_drop]
      omega
    have hwhole : ds.take (ds.length - places) ≠ [] :=
      List.ne_nil_of_length_pos (by rw [List.length_take]; omega)
    have hfraction : ds.drop (ds.length - places) ≠ [] :=
      List.ne_nil_of_length_pos (by omega)
    rw [decimal?_fraction hwhole hfraction (by rwa [List.take_append_drop]),
      List.take_append_drop, hvalue, hlength]

/-- **The literal of a finite number is read as a decimal that rounds to it.** -/
theorem float?_float {f : Format} (hf : f.lowest ≤ 0) (s : Scaled) (width : FloatWidth) :
    ∃ d, float? (float f s (widthSuffix width)) = some (s.negative, width, d) ∧
      d.RoundsTo f s := by
  have hread := decimal?_positional (f.shortest .up s) width
  have hround : (f.shortest .up s).RoundsTo f s := roundsTo_shortest hf s
  refine ⟨_, ?_, hround.expanded⟩
  unfold float number
  cases s.negative <;> simp [float?, hread]

end Redaction.Code.Literal
