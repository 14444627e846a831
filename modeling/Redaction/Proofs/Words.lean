import Mathlib.Data.List.DropRight
import Mathlib.Data.String.Basic
import Redaction.Text.Words

/-!
# The words of a name

A name is cut into words while it is read once, with the case of the last letter in mind. Where the
cuts are can be said without the reading (`BeginsWord`): a word begins behind a separator, before an
upper-case letter that follows lower case, and before the last upper-case letter of several that
lower case follows. The words of a name of ASCII characters are its letters and digits, cut at just
these places (`areWordsOf_words`).

* `CutsAt`: the words in front are so much of the text. Words are known by their cuts
  (`eq_of_cutsAt_iff`), so a name has one list of words (`AreWordsOf.unique`).
* `cutsAt_cutWords`: the cuts of a run of letters and digits.
* `words_around`: what is behind a separator does not matter for the words before it.
-/

namespace Redaction.Text

variable {c : Char} {cs u v word : List Char} {ws ws' : List (List Char)} {m : LastCase}

/-! ### ASCII characters -/

/-- **A text of ASCII characters.** -/
def IsAscii (cs : List Char) : Prop := ∀ c ∈ cs, c.toNat < 0x80

instance (cs : List Char) : Decidable (IsAscii cs) :=
  decidable_of_iff (cs.all fun c => c.toNat < 0x80) (by simp [IsAscii])

/-- What is seen of each ASCII character, one after the other, is true of them. -/
theorem of_ascii {p : Char → Prop} (hall : ∀ n < 0x80, p (Char.ofNat n)) (h : c.toNat < 0x80) :
    p c := by
  have hc : p (Char.ofNat c.toNat) := hall c.toNat h
  rwa [Char.ofNat_toNat] at hc

/-- A letter is one of upper case or of lower case. -/
theorem isAlpha_iff_cased : c.isAlpha ↔ c.isUpper ∨ c.isLower := iff_of_eq (Bool.or_eq_true _ _)

theorem isAlphanum_of_isLower (h : c.isLower) : c.isAlphanum := by
  have hletter : c.isAlpha := isAlpha_iff_cased.mpr (Or.inr h)
  simp [Char.isAlphanum, hletter]

theorem isAlphanumeric_of_ascii (h : c.toNat < 0x80) : isAlphanumeric c = c.isAlphanum := if_pos h

theorem isLower_of_ascii (h : c.toNat < 0x80) : isLower c = c.isLower := if_pos h

theorem isUpper_of_ascii (h : c.toNat < 0x80) : isUpper c = c.isUpper := if_pos h

/-! ### Cuts -/

/-- **There is a cut behind a text:** the words in front are it. -/
def CutsAt (ws : List (List Char)) (u : List Char) : Prop := ∃ ws₁, ws₁ <+: ws ∧ ws₁.flatten = u

theorem cutsAt_nil (ws : List (List Char)) : CutsAt ws [] := ⟨[], List.nil_prefix, rfl⟩

theorem cutsAt_cons_append : CutsAt (word :: ws) (word ++ u) ↔ CutsAt ws u := by
  constructor
  · rintro ⟨ws₁, hprefix, hflatten⟩
    cases ws₁ with
    | nil =>
      obtain ⟨-, rfl⟩ := List.append_eq_nil_iff.mp hflatten.symm
      exact cutsAt_nil ws
    | cons w ws₁ =>
      obtain ⟨rfl, hrest⟩ := List.cons_prefix_cons.mp hprefix
      exact ⟨ws₁, hrest, List.append_cancel_left hflatten⟩
  · rintro ⟨ws₁, hprefix, rfl⟩
    exact ⟨word :: ws₁, (List.prefix_cons_inj word).mpr hprefix, rfl⟩

/-- A first word that is longer than the text has no cut behind the text. -/
theorem not_cutsAt_cons (hu : u ≠ []) (h : u.length < word.length) : ¬ CutsAt (word :: ws) u := by
  rintro ⟨ws₁, hprefix, rfl⟩
  cases ws₁ with
  | nil => exact hu rfl
  | cons w ws₁ =>
    obtain ⟨rfl, -⟩ := List.cons_prefix_cons.mp hprefix
    rw [List.flatten_cons, List.length_append] at h
    omega

theorem cutsAt_append (ws ws' : List (List Char)) (u : List Char) :
    CutsAt (ws ++ ws') (ws.flatten ++ u) ↔ CutsAt ws' u := by
  induction ws with
  | nil => rfl
  | cons w ws ih =>
    rw [List.cons_append, List.flatten_cons, List.append_assoc, cutsAt_cons_append, ih]

/-- Words behind do not matter for the cuts inside the words before them. -/
theorem cutsAt_append_left (h : u.length < ws.flatten.length) :
    CutsAt (ws ++ ws') u ↔ CutsAt ws u := by
  constructor
  · rintro ⟨ws₁, hprefix, rfl⟩
    refine ⟨ws₁, ?_, rfl⟩
    rcases List.prefix_or_prefix_of_prefix hprefix (List.prefix_append ws ws') with hle | ⟨ws₂, rfl⟩
    · exact hle
    · rw [List.flatten_append, List.length_append] at h
      omega
  · rintro ⟨ws₁, hprefix, rfl⟩
    exact ⟨ws₁, hprefix.trans (List.prefix_append ws ws'), rfl⟩

theorem cutsAt_flatten (ws : List (List Char)) : CutsAt ws ws.flatten :=
  ⟨ws, List.prefix_refl ws, rfl⟩

theorem prefix_of_cutsAt (h : CutsAt ws u) : u <+: ws.flatten := by
  obtain ⟨ws₁, ⟨ws₂, rfl⟩, rfl⟩ := h
  rw [List.flatten_append]
  exact List.prefix_append _ _

/-- A first word that is behind a cut is no longer than what is before the cut. -/
theorem length_le_of_cutsAt (h : CutsAt (word :: ws) u) (hu : u ≠ []) : word.length ≤ u.length := by
  by_contra hlt
  exact not_cutsAt_cons hu (Nat.lt_of_not_le hlt) h

/-- **Words are known by their cuts.** -/
theorem eq_of_cutsAt_iff (hws : [] ∉ ws) (hws' : [] ∉ ws') (hflatten : ws.flatten = ws'.flatten)
    (hcuts : ∀ u, CutsAt ws u ↔ CutsAt ws' u) : ws = ws' := by
  induction ws generalizing ws' with
  | nil =>
    cases ws' with
    | nil => rfl
    | cons w' ws' =>
      have hnil : w' = [] := (List.append_eq_nil_iff.mp hflatten.symm).1
      exact absurd (hnil ▸ List.mem_cons_self) hws'
  | cons w ws ih =>
    cases ws' with
    | nil =>
      have hnil : w = [] := (List.append_eq_nil_iff.mp hflatten).1
      exact absurd (hnil ▸ List.mem_cons_self) hws
    | cons w' ws' =>
      obtain ⟨hw, hrest⟩ := not_or.mp (List.mem_cons.not.mp hws)
      obtain ⟨hw', hrest'⟩ := not_or.mp (List.mem_cons.not.mp hws')
      -- Each of the first words is a cut of the other text, so neither is the longer one.
      have hcut : CutsAt (w' :: ws') w := (hcuts w).mp ⟨[w], by simp, by simp⟩
      have hcut' : CutsAt (w :: ws) w' := (hcuts w').mpr ⟨[w'], by simp, by simp⟩
      have hlength : w.length = w'.length :=
        le_antisymm (length_le_of_cutsAt hcut' (Ne.symm hw'))
          (length_le_of_cutsAt hcut (Ne.symm hw))
      obtain ⟨rfl, htail⟩ := List.append_inj hflatten hlength
      rw [ih hrest hrest' htail fun u => by simpa [cutsAt_cons_append] using hcuts (w ++ u)]

/-! ### Runs of letters and digits -/

/-- The case of the last letter that has one. -/
def caseBehind (m : LastCase) (u : List Char) : LastCase := u.foldl LastCase.after m

/-- A word begins between two parts of a run. -/
def BeginsAt (m : LastCase) (u v : List Char) : Prop :=
  ∃ c rest, v = c :: rest ∧ isUpper c ∧ (caseBehind m u = .lower ∨
    caseBehind m u = .upper ∧ ∃ d, rest.head? = some d ∧ isLower d)

/-- The first word goes on with what has been read of it. -/
theorem exists_cutWords_eq (m : LastCase) (word : List Char) (h : cs ≠ []) :
    ∃ more ws, cutWords m word cs = (word ++ more) :: ws := by
  fun_induction cutWords m word cs with
  | case1 => exact absurd rfl h
  | case2 m word c => exact ⟨[c], [], rfl⟩
  | case3 m word c next rest hcut _ => exact ⟨[c], _, rfl⟩
  | case4 m word c next rest hcut hlast _ => exact ⟨[], _, by rw [List.append_nil]⟩
  | case5 m word c next rest hcut hlast ih =>
    obtain ⟨more, ws, heq⟩ := ih (List.cons_ne_nil _ _)
    exact ⟨c :: more, ws, by rw [heq, List.append_assoc, List.singleton_append]⟩

theorem not_isUpper_of_isLower (h : c.toNat < 0x80) (hc : isLower c) : ¬ isUpper c := by
  rw [isLower_of_ascii h] at hc
  rw [isUpper_of_ascii h]
  exact of_ascii (p := fun c => c.isLower → ¬ c.isUpper) (by decide +kernel) h hc

/-- After a letter with a case, the case before it does not matter. -/
theorem after_eq_of_cased (m m' : LastCase) (h : isLower c ∨ isUpper c) :
    m.after c = m'.after c := by
  unfold LastCase.after
  split_ifs <;> simp_all

theorem beginsAt_cons_iff : BeginsAt m (c :: u) v ↔ BeginsAt (m.after c) u v := Iff.rfl

/-- Behind a letter with a case, the case before it does not matter. -/
theorem beginsAt_cons_congr (m m' : LastCase) (h : isLower c ∨ isUpper c) :
    BeginsAt m (c :: u) v ↔ BeginsAt m' (c :: u) v := by
  rw [beginsAt_cons_iff, beginsAt_cons_iff, after_eq_of_cased m m' h]

/-- No word begins before a character that goes on with a word. -/
theorem not_beginsAt_nil (hlower : m = .lower → ¬ isUpper c)
    (hupper : m = .upper → isUpper c → ∀ d, cs.head? = some d → ¬ isLower d) :
    ¬ BeginsAt m [] (c :: cs) := by
  rintro ⟨d, rest, heq, hc, hlast | ⟨hlast, e, he, hlow⟩⟩
  · obtain ⟨rfl, rfl⟩ := List.cons.inj heq
    exact hlower hlast hc
  · obtain ⟨rfl, rfl⟩ := List.cons.inj heq
    exact hupper hlast hc e he hlow

/-- A word goes on with a character that is not the last of several upper-case letters. -/
theorem exists_cutWords_cons_eq (word : List Char)
    (h : ¬ (m = .upper ∧ isUpper c ∧ ∃ d, cs.head? = some d ∧ isLower d)) :
    ∃ more ws, cutWords m word (c :: cs) = (word ++ c :: more) :: ws := by
  cases cs with
  | nil => exact ⟨[], [], rfl⟩
  | cons next rest =>
    rw [cutWords]
    split_ifs with hcut hlast
    · exact ⟨[], _, rfl⟩
    · exact absurd ⟨hlast.1, hlast.2.1, next, rfl, hlast.2.2⟩ h
    · obtain ⟨more, ws, heq⟩ :=
        exists_cutWords_eq (m.after c) (word ++ [c]) (List.cons_ne_nil next rest)
      exact ⟨more, ws, by rw [heq, List.append_assoc, List.singleton_append]⟩

/-- **The cut behind what has been read** of a word. It is not to be made before an upper-case letter
that follows lower case, as this cut has been made already. -/
theorem cutsAt_word_iff (hascii : IsAscii cs) (hword : word ≠ [])
    (hlower : m = .lower → ¬ isUpper c) :
    CutsAt (cutWords m word (c :: cs)) word ↔ BeginsAt m [] (c :: cs) := by
  by_cases hends : m = .upper ∧ isUpper c ∧ ∃ d, cs.head? = some d ∧ isLower d
  · obtain ⟨hm, hc, d, hd, hlow⟩ := hends
    obtain ⟨rest, rfl⟩ := List.head?_eq_some_iff.mp hd
    have hnot : ¬ isUpper d := not_isUpper_of_isLower (hascii d List.mem_cons_self) hlow
    rw [cutWords, if_neg fun hcut => hnot hcut.2, if_pos ⟨hm, hc, hlow⟩]
    exact iff_of_true ⟨[word], by simp, by simp⟩ ⟨c, d :: rest, rfl, hc, Or.inr ⟨hm, d, rfl, hlow⟩⟩
  · obtain ⟨more, ws, heq⟩ := exists_cutWords_cons_eq word hends
    rw [heq]
    exact iff_of_false (not_cutsAt_cons hword (by simp))
      (not_beginsAt_nil hlower fun hm hc d hd hlow => hends ⟨hm, hc, d, hd, hlow⟩)

/-- **The cuts behind one more character** of a run: a word may end behind it or before it, or go
on. -/
theorem cutsAt_word_cons_iff {next : Char} {rest : List Char} (m : LastCase) (word : List Char)
    (hascii : IsAscii (next :: rest)) (huv : u ++ v = next :: rest)
    (hread : ∀ m' word', word' ++ u ≠ [] → (word' ≠ [] → m' = .lower → ¬ isUpper next) →
      (CutsAt (cutWords m' word' (next :: rest)) (word' ++ u) ↔ BeginsAt m' u v)) :
    CutsAt (cutWords m word (c :: next :: rest)) (word ++ c :: u) ↔ BeginsAt m (c :: u) v := by
  have hassoc : word ++ c :: u = (word ++ [c]) ++ u := by simp
  rw [cutWords, beginsAt_cons_iff]
  split_ifs with hcut hlast
  · obtain ⟨hafter, hnext⟩ := hcut
    rw [hassoc, cutsAt_cons_append]
    cases u with
    | nil => exact iff_of_true (cutsAt_nil _) ⟨next, rest, huv, hnext, Or.inl hafter⟩
    | cons e u =>
      obtain ⟨rfl, -⟩ := List.cons.inj huv
      exact (hread .unseen [] (List.cons_ne_nil e u) fun h => absurd rfl h).trans
        (beginsAt_cons_congr _ _ (Or.inr hnext))
  · obtain ⟨-, hc, hnext⟩ := hlast
    have hnot : ¬ isUpper next := not_isUpper_of_isLower (hascii next List.mem_cons_self) hnext
    have hafter := hread .unseen [c] (by simp) fun _ h => absurd h (by decide)
    rw [cutsAt_cons_append]
    rw [List.singleton_append] at hafter
    rw [hafter]
    cases u with
    | nil =>
      obtain rfl : v = next :: rest := huv
      exact iff_of_false
        (not_beginsAt_nil (fun h => absurd h (by decide)) fun h => absurd h (by decide))
        (not_beginsAt_nil (fun _ => hnot) fun _ hupper => absurd hupper hnot)
    | cons e u =>
      obtain ⟨rfl, -⟩ := List.cons.inj huv
      exact beginsAt_cons_congr _ _ (Or.inl hnext)
  · rw [hassoc]
    exact hread (m.after c) (word ++ [c]) (by simp) fun _ hm hnext => hcut ⟨hm, hnext⟩

/-- **The cuts of a run,** of which `word` has been read. -/
theorem cutsAt_cutWords (m : LastCase) (word cs : List Char) (hascii : IsAscii cs)
    (hlower : word ≠ [] → m = .lower → ∀ c, cs.head? = some c → ¬ isUpper c) :
    ∀ u v, u ++ v = cs → v ≠ [] → word ++ u ≠ [] →
      (CutsAt (cutWords m word cs) (word ++ u) ↔ BeginsAt m u v) := by
  induction cs generalizing m word with
  | nil =>
    intro u v huv hv
    exact absurd (List.append_eq_nil_iff.mp huv).2 hv
  | cons c cs ih =>
    have hcs : IsAscii cs := fun d hd => hascii d (List.mem_cons_of_mem c hd)
    intro u v huv hv hne
    cases u with
    | nil =>
      obtain rfl : v = c :: cs := huv
      rw [List.append_nil] at hne ⊢
      exact cutsAt_word_iff hcs hne fun hm => hlower hne hm c rfl
    | cons d u =>
      obtain ⟨rfl, htail⟩ : d = c ∧ u ++ v = cs := List.cons.inj huv
      cases cs with
      | nil => exact absurd (List.append_eq_nil_iff.mp htail).2 hv
      | cons next rest =>
        refine cutsAt_word_cons_iff m word hcs htail fun m' word' hne' hlower' => ?_
        refine ih m' word' hcs (fun hword hm e he => ?_) u v htail hv hne'
        exact Option.some.inj he ▸ hlower' hword hm

/-- No word of a run is empty. -/
theorem nil_notMem_cutWords (m : LastCase) (word cs : List Char) (hword : m = .upper → word ≠ []) :
    [] ∉ cutWords m word cs := by
  fun_induction cutWords m word cs with
  | case1 => exact List.not_mem_nil
  | case2 => simp
  | case3 m word c next rest hcut ih => simpa using ih fun h => absurd h (by decide)
  | case4 m word c next rest hcut hlast ih =>
    simpa using ⟨hword hlast.1, ih fun h => absurd h (by decide)⟩
  | case5 m word c next rest hcut hlast ih => exact ih fun _ => by simp

/-! ### Runs and separators -/

variable {sep : Char} {front back name : List Char}

theorem words_nil : words [] = [] := rfl

theorem words_of_run (h : ∀ c ∈ cs, isAlphanumeric c) : words cs = cutWords .unseen [] cs := by
  unfold words pieces
  rw [List.splitOnP_eq_singleton (by simpa using h), List.flatMap_singleton]

/-- **A separator ends a word.** -/
theorem words_append_cons (h : ¬ isAlphanumeric sep) (front back : List Char) :
    words (front ++ sep :: back) = words front ++ words back := by
  unfold words pieces
  rw [List.splitOnP_append_cons _ _ (by simpa using h), List.flatMap_append]

theorem words_append_of_head (cs : List Char)
    (h : ∀ c, back.head? = some c → ¬ isAlphanumeric c) :
    words (cs ++ back) = words cs ++ words back := by
  cases back with
  | nil => rw [words_nil, List.append_nil, List.append_nil]
  | cons sep back =>
    have hback : words (sep :: back) = words back := words_append_cons (h sep rfl) [] back
    rw [words_append_cons (h sep rfl), hback]

theorem words_append_of_getLast (cs : List Char)
    (h : ∀ c, front.getLast? = some c → ¬ isAlphanumeric c) :
    words (front ++ cs) = words front ++ words cs := by
  rcases List.eq_nil_or_concat' front with rfl | ⟨front, sep, rfl⟩
  · rfl
  · have hsep : ¬ isAlphanumeric sep := h sep (by simp)
    rw [List.append_assoc, List.singleton_append, words_append_cons hsep, words_append_cons hsep,
      words_nil, List.append_nil]

theorem flatten_splitOnP (p : Char → Bool) (cs : List Char) :
    (cs.splitOnP p).flatten = cs.filter (!p ·) := by
  induction cs with
  | nil => rfl
  | cons c cs ih =>
    obtain ⟨piece, rest, heq⟩ := List.exists_cons_of_ne_nil (List.splitOnP_ne_nil p cs)
    rw [heq] at ih
    cases hc : p c <;> simp_all [List.splitOnP_cons_eq_if_modifyHead]

/-- Nothing but separators is lost. -/
theorem flatten_words (cs : List Char) : (words cs).flatten = cs.filter isAlphanumeric := by
  have hpiece : ∀ piece, (cutWords .unseen [] piece).flatten = piece := by
    intro piece
    cases piece with
    | nil => rfl
    | cons c piece => exact flatten_cutWords _ _ _ (List.cons_ne_nil c piece)
  calc (words cs).flatten
      = ((pieces cs).map fun piece => (cutWords .unseen [] piece).flatten).flatten := by
        rw [words, List.flatMap_def, List.flatten_flatten, List.map_map]
        rfl
    _ = (pieces cs).flatten := by simp only [hpiece, List.map_id']
    _ = cs.filter isAlphanumeric := by simp only [pieces, flatten_splitOnP, Bool.not_not]

theorem nil_notMem_words (cs : List Char) : [] ∉ words cs := by
  intro hmem
  obtain ⟨piece, -, hpiece⟩ := List.mem_flatMap.mp hmem
  exact nil_notMem_cutWords .unseen [] piece (fun h => absurd h (by decide)) hpiece

/-! ### Where a word begins -/

/-- The letters and digits that end a text. -/
def lastRun (u : List Char) : List Char := u.rtakeWhile Char.isAlphanum

/-- The last letter of the letters and digits that end a text. -/
def lastLetter? (u : List Char) : Option Char := ((lastRun u).filter Char.isAlpha).getLast?

/-- **A word begins with `c` between two parts of a name:** behind a separator or at the front, or
with an upper-case letter, if the last letter before is of lower case or the next character is a
letter of lower case. -/
def BeginsWord (u : List Char) (c : Char) (v : List Char) : Prop :=
  lastRun u = [] ∨
    c.isUpper ∧ ∃ l, lastLetter? u = some l ∧ (l.isLower ∨ ∃ d, v.head? = some d ∧ d.isLower)

theorem isAscii_append : IsAscii (u ++ v) ↔ IsAscii u ∧ IsAscii v := List.forall_mem_append

theorem isAscii_of_subset (h : IsAscii v) (hsub : u ⊆ v) : IsAscii u := fun c hc => h c (hsub hc)

/-- The case behind a run is the one of its last letter. -/
theorem caseBehind_eq (h : IsAscii u) :
    caseBehind .unseen u =
      ((u.filter Char.isAlpha).getLast?).elim .unseen (LastCase.after .unseen) := by
  induction u using List.reverseRecOn with
  | nil => rfl
  | append_singleton u c ih =>
    obtain ⟨hu, hc⟩ := isAscii_append.mp h
    have hc : c.toNat < 0x80 := hc c (List.mem_singleton.mpr rfl)
    rw [caseBehind, List.foldl_append, List.foldl_cons, List.foldl_nil, ← caseBehind, ih hu,
      List.filter_append]
    cases hletter : c.isAlpha with
    | true =>
      have hcased : isLower c ∨ isUpper c := by
        rw [isLower_of_ascii hc, isUpper_of_ascii hc]
        exact (isAlpha_iff_cased.mp hletter).symm
      rw [List.filter_cons_of_pos hletter, List.filter_nil, List.getLast?_concat]
      exact after_eq_of_cased _ _ hcased
    | false =>
      rw [List.filter_cons_of_neg (by simp [hletter]), List.filter_nil, List.append_nil]
      have hno : ¬ c.isUpper ∧ ¬ c.isLower := not_or.mp fun hcased => by
        simp [isAlpha_iff_cased.mpr hcased] at hletter
      simp [LastCase.after, isLower_of_ascii hc, isUpper_of_ascii hc, hno]

theorem beginsAt_unseen_iff (hu : IsAscii u) (hv : IsAscii (c :: v)) :
    BeginsAt .unseen u (c :: v) ↔ c.isUpper ∧ ∃ l, (u.filter Char.isAlpha).getLast? = some l ∧
      (l.isLower ∨ ∃ d, v.head? = some d ∧ d.isLower) := by
  have hc : isUpper c = c.isUpper := isUpper_of_ascii (hv c List.mem_cons_self)
  have hnext : (∃ d, v.head? = some d ∧ isLower d) ↔ ∃ d, v.head? = some d ∧ d.isLower :=
    exists_congr fun d => and_congr_right fun hd => by
      rw [isLower_of_ascii (hv d (List.mem_cons_of_mem c (List.mem_of_head? hd)))]
  have hiff : BeginsAt .unseen u (c :: v) ↔ c.isUpper ∧ (caseBehind .unseen u = .lower ∨
      caseBehind .unseen u = .upper ∧ ∃ d, v.head? = some d ∧ d.isLower) := by
    simp [BeginsAt, hc, hnext]
  rw [hiff, caseBehind_eq hu]
  cases hlast : (u.filter Char.isAlpha).getLast? with
  | none => simp
  | some l =>
    obtain ⟨hmem, hletter⟩ := List.mem_filter.mp (List.mem_of_getLast? hlast)
    have hafter : LastCase.after .unseen l = if l.isLower then .lower else .upper := by
      have hcased : l.isUpper ∨ l.isLower := isAlpha_iff_cased.mp hletter
      unfold LastCase.after
      rw [isLower_of_ascii (hu l hmem), isUpper_of_ascii (hu l hmem)]
      split_ifs <;> simp_all
    cases hl : l.isLower <;> simp [hafter, hl]

/-- **The words of a name** of ASCII characters: its letters and digits, cut where words begin. -/
structure AreWordsOf (ws : List (List Char)) (name : List Char) : Prop where
  flatten : ws.flatten = name.filter Char.isAlphanum
  nil_notMem : [] ∉ ws
  cutsAt_iff : ∀ u c v, name = u ++ c :: v → c.isAlphanum →
    (CutsAt ws (u.filter Char.isAlphanum) ↔ BeginsWord u c v)

/-- **A name has one list of words.** -/
theorem AreWordsOf.unique (h : AreWordsOf ws name) (h' : AreWordsOf ws' name) : ws = ws' := by
  have hflatten : ws.flatten = ws'.flatten := h.flatten.trans h'.flatten.symm
  refine eq_of_cutsAt_iff h.nil_notMem h'.nil_notMem hflatten fun u => ?_
  by_cases hu : u <+: ws.flatten
  · obtain ⟨v, hv⟩ := hu
    cases v with
    | nil =>
      rw [List.append_nil] at hv
      exact iff_of_true (hv ▸ cutsAt_flatten ws) (hv.trans hflatten ▸ cutsAt_flatten ws')
    | cons c v =>
      -- The cut is before a letter or digit of the name.
      obtain ⟨front, back, rfl, rfl, hback⟩ := List.filter_eq_append_iff.mp (h.flatten ▸ hv).symm
      obtain ⟨seps, back, rfl, hseps, hc, rfl⟩ := List.filter_eq_cons_iff.mp hback
      have hfront : (front ++ seps).filter Char.isAlphanum = front.filter Char.isAlphanum := by
        rw [List.filter_append, List.filter_eq_nil_iff.mpr hseps, List.append_nil]
      have hname : front ++ (seps ++ c :: back) = front ++ seps ++ c :: back :=
        (List.append_assoc ..).symm
      rw [← hfront, h.cutsAt_iff _ c back hname hc, h'.cutsAt_iff _ c back hname hc]
  · exact iff_of_false (fun hcut => hu (prefix_of_cutsAt hcut))
      fun hcut => hu (hflatten ▸ prefix_of_cutsAt hcut)

/-- A name around a place, with the run in which the place is. -/
theorem words_around (hascii : IsAscii (u ++ v)) :
    words (u ++ v) = words (u.rdropWhile Char.isAlphanum) ++
      (cutWords .unseen [] (lastRun u ++ v.takeWhile Char.isAlphanum) ++
        words (v.dropWhile Char.isAlphanum)) := by
  obtain ⟨hu, hv⟩ := isAscii_append.mp hascii
  have hrun : ∀ c ∈ lastRun u ++ v.takeWhile Char.isAlphanum, isAlphanumeric c := by
    intro c hc
    rcases List.mem_append.mp hc with hc | hc
    · rw [isAlphanumeric_of_ascii (hu c ((List.rtakeWhile_suffix _ _).subset hc))]
      exact List.mem_rtakeWhile_imp hc
    · rw [isAlphanumeric_of_ascii (hv c ((List.takeWhile_prefix _).subset hc))]
      exact List.mem_takeWhile_imp hc
  have hback : ∀ c, (v.dropWhile Char.isAlphanum).head? = some c → ¬ isAlphanumeric c := by
    intro c hc
    have hno := List.head?_dropWhile_not Char.isAlphanum v
    rw [hc] at hno
    rw [isAlphanumeric_of_ascii (hv c ((List.dropWhile_suffix _).subset (List.mem_of_head? hc)))]
    exact ne_true_of_eq_false hno
  have hfront : ∀ c, (u.rdropWhile Char.isAlphanum).getLast? = some c → ¬ isAlphanumeric c := by
    intro c hc
    obtain ⟨hne, rfl⟩ := List.mem_getLast?_eq_getLast hc
    have hmem := (List.rdropWhile_prefix _ u).subset (List.getLast_mem hne)
    rw [isAlphanumeric_of_ascii (hu _ hmem)]
    exact List.rdropWhile_last_not _ u hne
  calc words (u ++ v) = words (u.rdropWhile Char.isAlphanum ++
        ((lastRun u ++ v.takeWhile Char.isAlphanum) ++ v.dropWhile Char.isAlphanum)) := by
        rw [List.append_assoc, List.takeWhile_append_dropWhile, ← List.append_assoc, lastRun,
          List.rdropWhile_append_rtakeWhile]
    _ = _ := by
        rw [words_append_of_getLast _ hfront, words_append_of_head _ hback, words_of_run hrun]

theorem filter_isAlphanumeric (h : IsAscii cs) :
    cs.filter isAlphanumeric = cs.filter Char.isAlphanum :=
  List.filter_congr fun c hc => isAlphanumeric_of_ascii (h c hc)

/-- The letters and digits of a text are those before its last run and the run. -/
theorem filter_eq_append_lastRun (u : List Char) :
    u.filter Char.isAlphanum =
      (u.rdropWhile Char.isAlphanum).filter Char.isAlphanum ++ lastRun u := by
  have hrun : (lastRun u).filter Char.isAlphanum = lastRun u :=
    List.filter_eq_self.mpr fun c hc => List.mem_rtakeWhile_imp hc
  calc u.filter Char.isAlphanum
      = (u.rdropWhile Char.isAlphanum ++ lastRun u).filter Char.isAlphanum := by
        rw [lastRun, List.rdropWhile_append_rtakeWhile]
    _ = _ := by rw [List.filter_append, hrun]

/-- The next letter of lower case is in the run. -/
theorem exists_head?_takeWhile_iff (v : List Char) :
    (∃ d, (v.takeWhile Char.isAlphanum).head? = some d ∧ d.isLower) ↔
      ∃ d, v.head? = some d ∧ d.isLower := by
  cases v with
  | nil => rfl
  | cons d v =>
    cases hd : d.isLower with
    | true =>
      simp [List.takeWhile_cons_of_pos (isAlphanum_of_isLower hd)]
    | false =>
      refine iff_of_false ?_ (by simp [hd])
      rintro ⟨e, he, hlow⟩
      rw [List.takeWhile_cons] at he
      split_ifs at he
      · obtain rfl : d = e := Option.some.inj he
        simp [hd] at hlow
      · cases he

/-- **The words of a name of ASCII characters** are its letters and digits, cut where words
begin. -/
theorem areWordsOf_words (hascii : IsAscii name) : AreWordsOf (words name) name where
  flatten := (flatten_words name).trans (filter_isAlphanumeric hascii)
  nil_notMem := nil_notMem_words name
  cutsAt_iff := by
    rintro u c v rfl hc
    obtain ⟨hu, hv⟩ := isAscii_append.mp hascii
    have hrun : IsAscii (lastRun u) := isAscii_of_subset hu (List.rtakeWhile_suffix _ _).subset
    have htake : (c :: v).takeWhile Char.isAlphanum = c :: v.takeWhile Char.isAlphanum :=
      List.takeWhile_cons_of_pos hc
    have hafter : IsAscii (c :: v.takeWhile Char.isAlphanum) :=
      htake ▸ isAscii_of_subset hv (List.takeWhile_prefix _).subset
    -- Up to the run the words are the same whatever the run is, and behind it they do not matter.
    have hfront : (u.rdropWhile Char.isAlphanum).filter Char.isAlphanum =
        (words (u.rdropWhile Char.isAlphanum)).flatten := by
      rw [flatten_words, filter_isAlphanumeric
        (isAscii_of_subset hu (List.rdropWhile_prefix _ _).subset)]
    rw [words_around hascii, filter_eq_append_lastRun, hfront, cutsAt_append, htake,
      cutsAt_append_left (by
        rw [flatten_cutWords _ _ _ (by simp), List.nil_append, List.length_append,
          List.length_cons]
        omega)]
    cases heq : lastRun u with
    | nil => exact iff_of_true (cutsAt_nil _) (Or.inl heq)
    | cons d run =>
      rw [← heq]
      have hne : lastRun u ≠ [] := heq ▸ List.cons_ne_nil d run
      have hcuts := cutsAt_cutWords .unseen [] _ (isAscii_append.mpr ⟨hrun, hafter⟩)
        (fun hne => absurd rfl hne) _ _ rfl (List.cons_ne_nil _ _) hne
      rw [List.nil_append] at hcuts
      rw [hcuts, beginsAt_unseen_iff hrun hafter, exists_head?_takeWhile_iff]
      exact ⟨Or.inr, fun h => h.resolve_left hne⟩

end Redaction.Text
