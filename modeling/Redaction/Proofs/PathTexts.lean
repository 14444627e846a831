import Mathlib.Data.List.Basic
import Redaction.Code.Path

/-!
# Paths of one name

A name is a path behind `::` exactly if it is one token, an identifier that may be raw, and no word
that paths refuse (`ofText?_colons_eq_some_iff`). The reader passes over blanks and comments, of
which there are none in front of an identifier, and what it reads is an end of the text, so that a
name that is a token leaves nothing behind.
-/

namespace Redaction.Code.Path

open Text

variable {cs rest : List Char} {s : String}

/-! ### Names in front of a text -/

/-- The code points of the blanks between tokens. -/
def tokenBlanks : List Nat :=
  List.range' 0x9 5 ++ List.range' 0x2000 11 ++
    [0x20, 0x85, 0xA0, 0x1680, 0x200E, 0x200F, 0x2028, 0x2029, 0x202F, 0x205F, 0x3000]

theorem mem_tokenBlanks {c : Char} (h : isTokenBlank c) : c.toNat ∈ tokenBlanks := by
  simp only [isTokenBlank, isBlank, Bool.or_eq_true, Bool.and_eq_true, beq_iff_eq,
    decide_eq_true_eq] at h
  simp only [tokenBlanks, List.mem_append, List.mem_range'_1, List.mem_cons, List.not_mem_nil,
    or_false]
  omega

/-- No identifier starts with a blank. -/
theorem not_isTokenBlank {c : Char} (h : isIdentifierStart c) : isTokenBlank c = false := by
  have hblanks : ∀ n ∈ tokenBlanks, isIdentifierStart (Char.ofNat n) = false := by decide +kernel
  by_contra hc
  have hc : isTokenBlank c := by simpa using hc
  have hno := hblanks _ (mem_tokenBlanks hc)
  rw [Char.ofNat_toNat, h] at hno
  cases hno

theorem eq_append_of_name? {word : List Char} (h : name? cs = some (word, rest)) :
    cs = word ++ rest ∧ ∃ c cs', cs = c :: cs' ∧ isIdentifierStart c := by
  unfold name? at h
  split at h
  · cases h
  · next c cs' =>
    split_ifs at h with hc
    obtain ⟨rfl, rfl⟩ := Prod.mk.inj (Option.some.inj h)
    exact ⟨by simp, c, cs', rfl, hc⟩

/-! What a quote or a digit begins is no name. -/

theorem apostrophe?_ne_name : apostrophe? cs ≠ some (.name s, rest) := by
  unfold apostrophe?
  split
  · split_ifs <;> simp
  · split_ifs <;> simp
  · split <;> simp

theorem number?_ne_name : number? cs ≠ some (.name s, rest) := by
  unfold number?
  dsimp only
  split
  · split_ifs <;> simp
  · simp

/-- A name is taken from the front of a text, which starts as an identifier does. -/
theorem eq_append_of_token? (h : token? cs = some (.name s, rest)) :
    cs = s.toList ++ rest ∧ ∃ c cs', cs = c :: cs' ∧ isIdentifierStart c := by
  unfold token? at h
  split at h
  · cases h
  · next cs' =>
    split at h
    · next word rest' hword =>
      split_ifs at h
      obtain ⟨hs, rfl⟩ := Prod.mk.inj (Option.some.inj h)
      obtain ⟨rfl, -⟩ := eq_append_of_name? hword
      rw [← PathToken.name.inj hs]
      exact ⟨by simp, 'r', _, rfl, by decide⟩
    · cases h
  · obtain ⟨_, -, h⟩ := Option.map_eq_some_iff.mp h
    cases h
  · exact absurd h apostrophe?_ne_name
  · split_ifs at h
    · cases h
    · exact absurd h number?_ne_name
    · obtain ⟨⟨word, rest'⟩, hword, h⟩ := Option.map_eq_some_iff.mp h
      obtain ⟨hs, rfl⟩ := Prod.mk.inj h
      rw [← PathToken.name.inj hs]
      simpa using eq_append_of_name? hword
  · cases h

theorem skipBlanks_of_isIdentifierStart {c : Char} (h : isIdentifierStart c) (rounds : Nat) :
    skipBlanks rounds (c :: cs) = c :: cs := by
  have hslash : c ≠ '/' := fun heq => absurd (heq ▸ h) (by decide)
  have hcomment : afterComment? (c :: cs) = none := by
    unfold afterComment?
    -- Any comment starts with a slash.
    split <;> first | rfl | exact absurd (List.cons.inj ‹_›).1 hslash
  cases rounds with
  | zero => rfl
  | succ rounds =>
    rw [skipBlanks, hcomment]
    simp [not_isTokenBlank h]

/-! ### What blanks and comments leave -/

theorem suffix_of_afterBlock {depth : Nat} (h : afterBlock depth cs = some rest) : rest <:+ cs := by
  fun_induction afterBlock depth cs with
  | case1 depth cs ih => exact (ih h).trans ⟨['/', '*'], rfl⟩
  | case2 depth cs hdepth => exact Option.some.inj h ▸ ⟨['*', '/'], rfl⟩
  | case3 depth cs hdepth ih => exact (ih h).trans ⟨['*', '/'], rfl⟩
  | case4 depth c cs _ _ ih => exact (ih h).trans (List.suffix_cons c cs)
  | case5 => cases h

theorem suffix_afterLine (cs : List Char) : afterLine cs <:+ cs := List.dropWhile_suffix _

theorem suffix_of_afterComment? (h : afterComment? cs = some rest) : rest <:+ cs := by
  unfold afterComment? at h
  split at h
  · exact Option.some.inj h ▸ (suffix_afterLine _).trans ⟨['/', '/', '/', '/'], rfl⟩
  · cases h
  · cases h
  · exact Option.some.inj h ▸ (suffix_afterLine _).trans ⟨['/', '/'], rfl⟩
  · exact Option.some.inj h ▸ ⟨['/', '*', '*', '/'], rfl⟩
  · exact (suffix_of_afterBlock h).trans ⟨['/', '*'], rfl⟩
  · cases h
  · cases h
  · exact (suffix_of_afterBlock h).trans ⟨['/', '*'], rfl⟩
  · cases h

theorem suffix_skipBlanks (rounds : Nat) (cs : List Char) : skipBlanks rounds cs <:+ cs := by
  induction rounds generalizing cs with
  | zero => exact List.suffix_rfl
  | succ rounds ih =>
    unfold skipBlanks
    split
    · next hcomment => exact (ih _).trans (suffix_of_afterComment? hcomment)
    · split
      · split_ifs
        · exact (ih _).trans (List.suffix_cons _ _)
        · exact List.suffix_rfl
      · exact List.suffix_rfl

/-! ### One name -/

/-- A name is all that a text holds exactly if it is a token with nothing behind it. What blanks and
comments leave is not longer than the text, so that they leave no room for more. -/
theorem tokens?_eq_singleton_iff {rounds : Nat} :
    tokens? (rounds + 2) s.toList = some [.name s] ↔ token? s.toList = some (.name s, []) := by
  constructor
  · intro h
    unfold tokens? at h
    split at h
    · cases h
    · split at h
      · next hskip t rest htoken =>
        obtain ⟨ts, hts, h⟩ := Option.map_eq_some_iff.mp h
        obtain ⟨rfl, rfl⟩ := List.cons.inj h
        obtain ⟨happend, -⟩ := eq_append_of_token? htoken
        have hlength := (suffix_skipBlanks s.toList.length s.toList).length_le
        rw [happend, List.length_append] at hlength
        obtain rfl : rest = [] := List.eq_nil_of_length_eq_zero (by omega)
        rwa [happend, List.append_nil] at htoken
      · cases h
  · intro h
    obtain ⟨-, c, cs, hcs, hc⟩ := eq_append_of_token? h
    have hskip : skipBlanks s.toList.length s.toList = c :: cs := by
      rw [hcs]
      exact skipBlanks_of_isIdentifierStart hc _
    rw [hcs] at h
    rw [tokens?, hskip]
    simp only [h]
    rfl

/-! ### One segment -/

variable {n : Nat} {ts : List PathToken}

theorem printed_ne_nil (as : List Argument) : printed as ≠ [] := List.cons_ne_nil _ _

/-- A segment without arguments, and with nothing behind it, is one name. -/
theorem segment?_eq_bare_iff :
    segment? (n + 1) ts = some (⟨s, []⟩, []) ↔ ts = [.name s] ∧ s ∉ refusedSegments := by
  constructor
  · intro h
    unfold segment? at h
    split at h
    · next n' name ts' heq =>
      split_ifs at h with hrefused hbare
      · cases h
        exact ⟨rfl, hrefused⟩
      · split at h
        · obtain ⟨_, -, h⟩ := Option.map_eq_some_iff.mp h
          exact absurd (PathSegment.mk.inj (Prod.mk.inj h).1).2 (printed_ne_nil _)
        · obtain ⟨_, -, h⟩ := Option.map_eq_some_iff.mp h
          exact absurd (PathSegment.mk.inj (Prod.mk.inj h).1).2 (List.cons_ne_nil _ _)
        · cases h
          exact ⟨rfl, hrefused⟩
    · cases h
  · rintro ⟨rfl, hs⟩
    simp [segment?, hs]

theorem segments?_ne_nil {rest : List PathToken} : segments? n ts ≠ some ([], rest) := by
  unfold segments?
  split
  · simp
  · split <;> simp

theorem segments?_eq_singleton_iff :
    segments? (n + 2) ts = some ([⟨s, []⟩], []) ↔ ts = [.name s] ∧ s ∉ refusedSegments := by
  rw [← segment?_eq_bare_iff (n := n)]
  unfold segments?
  constructor
  · intro h
    split at h
    · obtain ⟨⟨ss, rest⟩, hss, h⟩ := Option.map_eq_some_iff.mp h
      obtain rfl := (List.cons.inj (Prod.mk.inj h).1).2
      exact absurd hss segments?_ne_nil
    · next segment rest _ hsegment =>
      obtain ⟨hs, rfl⟩ := Prod.mk.inj (Option.some.inj h)
      rwa [List.singleton_inj.mp hs] at hsegment
    · cases h
  · intro h
    rw [h]

/-- The colons in front are a token, and the segments are read from the rest. -/
theorem ofTokens?_colons_eq_some_iff :
    ofTokens? (.colons :: ts) = some (.ofCrate s) ↔ ts = [.name s] ∧ s ∉ refusedSegments := by
  rw [← segments?_eq_singleton_iff (n := 8 * ts.length + 13)]
  have hpath : path? (8 * (PathToken.colons :: ts).length + 8) (.colons :: ts) =
      (segments? (8 * ts.length + 15) ts).map fun read => (⟨true, read.1⟩, read.2) := rfl
  unfold ofTokens?
  rw [hpath]
  cases segments? (8 * ts.length + 15) ts with
  | none => simp
  | some read =>
    obtain ⟨ss, rest⟩ := read
    cases rest <;> simp [ofCrate]

theorem tokens?_colons (s : String) : tokens? (("::" ++ s).toList.length + 1) ("::" ++ s).toList =
    (tokens? (s.toList.length + 2) s.toList).map (.colons :: ·) := by
  have htext : ("::" ++ s).toList = ':' :: ':' :: s.toList := by simp
  rw [htext]
  rfl

/-- **A crate name and a path:** what is written behind `::` is one segment exactly if it is an
identifier, raw or not, and no keyword. -/
theorem ofText?_colons_eq_some_iff : ofText? ("::" ++ s) = some (.ofCrate s) ↔
    token? s.toList = some (.name s, []) ∧ s ∉ refusedSegments := by
  have hmark : dropMark ("::" ++ s).toList = ("::" ++ s).toList := by simp [dropMark]
  unfold ofText?
  dsimp only
  rw [hmark, tokens?_colons, ← tokens?_eq_singleton_iff]
  simp only [Option.bind_eq_some_iff, Option.map_eq_some_iff]
  constructor
  · rintro ⟨_, ⟨ts, hts, rfl⟩, hpath⟩
    obtain ⟨rfl, hs⟩ := ofTokens?_colons_eq_some_iff.mp hpath
    exact ⟨hts, hs⟩
  · rintro ⟨hts, hs⟩
    exact ⟨_, ⟨_, hts, rfl⟩, ofTokens?_colons_eq_some_iff.mpr ⟨rfl, hs⟩⟩

end Redaction.Code.Path
