import Redaction.Proofs.Identifiers
import Redaction.Render.WellKnown
import Redaction.Schema.Types

/-!
# Field masks

A field mask shows its paths, with the names of fields in `lowerCamelCase`. That is the key under
which the field itself shows, although the two are found in different ways: one by the words of the
name, the other by its underscores (`lowerCamel_eq_keyChars`, for names without capitals). Whatever
ASCII characters there are in a path, no comma and no point is made or lost inside a name, so a mask
has as many paths, and these as many names, as before (`fieldMask_names`).

* `cutWords_of_no_capitals`: a run without capitals is one word.
* `flatMap_words_eq_keyChars`: what is behind an underscore.
-/

namespace Redaction.Render

open Code (isAlphanum_of_mem_capitalWord isAlphanum_of_mem_words isAscii_of_mem_words
  lowerWord_of_ascii isAlphanum_toLower mem_intercalate)
open Schema (keyChars outputKey)
open Text

variable {c : Char} {cs run name word : List Char} {ps : List (List Char)} {m : LastCase}

/-! ### Names without capitals -/

/-- A letter or digit that is no capital and that lower case leaves as it is. -/
structure IsUncapital (c : Char) : Prop where
  isAlphanumeric : isAlphanumeric c
  not_isUpper : ¬ isUpper c
  lower_eq : lower c = [c]

/-- **A name of a field as it is usually written:** letters of lower case, digits and underscores,
of which none is in front. -/
structure IsLowerName (name : List Char) : Prop where
  head : name.head? ≠ some '_'
  all : ∀ c ∈ name, c = '_' ∨ IsUncapital c

theorem isUncapital_of_isLower_or_isDigit (h : c.isLower ∨ c.isDigit) : IsUncapital c := by
  have halnum : c.isAlphanum := by
    rcases h with h | h
    · exact isAlphanum_of_isLower h
    · simp [Char.isAlphanum, h]
  have hascii : c.toNat < 0x80 := Code.toNat_lt_of_isAlphanum halnum
  obtain ⟨hupper, hlower⟩ : ¬ c.isUpper ∧ c.toLower = c :=
    of_ascii (p := fun c => c.isLower ∨ c.isDigit → ¬ c.isUpper ∧ c.toLower = c)
      (by decide +kernel) hascii h
  refine ⟨?_, ?_, ?_⟩
  · rwa [isAlphanumeric_of_ascii hascii]
  · rwa [isUpper_of_ascii hascii]
  · rw [lower, if_pos hascii, hlower]

/-- **Names over `a` to `z`, digits and underscores** are such names. -/
theorem isLowerName_of_all (hhead : name.head? ≠ some '_')
    (hall : name.all fun c => c.isLower || c.isDigit || c == '_') : IsLowerName name where
  head := hhead
  all c hc := by
    have hform : (c.isLower ∨ c.isDigit) ∨ c = '_' := by simpa using List.all_eq_true.mp hall c hc
    exact hform.symm.imp_right isUncapital_of_isLower_or_isDigit

/-! ### Runs without capitals -/

/-- **A run without capitals is one word.** -/
theorem cutWords_of_no_capitals (hm : m ≠ .upper) (h : ∀ c ∈ cs, ¬ isUpper c) (hcs : cs ≠ []) :
    cutWords m word cs = [word ++ cs] := by
  fun_induction cutWords m word cs with
  | case1 => exact absurd rfl hcs
  | case2 => rfl
  | case3 m word c next rest hcut _ => exact absurd hcut.2 (h next (by simp))
  | case4 m word c next rest hcut hlast _ => exact absurd hlast.1 hm
  | case5 m word c next rest hcut hlast ih =>
    have hafter : m.after c ≠ .upper := by
      unfold LastCase.after
      rw [if_neg (h c List.mem_cons_self)]
      split_ifs
      · exact LastCase.noConfusion
      · exact hm
    rw [ih hafter (fun d hd => h d (List.mem_cons_of_mem c hd)) (List.cons_ne_nil _ _),
      List.append_assoc, List.singleton_append]

theorem lowerWord_of_uncapital (h : ∀ c ∈ run, IsUncapital c) : lowerWord run = run := by
  fun_induction lowerWord run with
  | case1 => rfl
  | case2 =>
    have hsigma : isUpper 'Σ' := by decide +kernel
    exact absurd hsigma (h 'Σ' List.mem_cons_self).not_isUpper
  | case3 c _ => exact (h c List.mem_cons_self).lower_eq
  | case4 c next rest ih =>
    rw [(h c List.mem_cons_self).lower_eq, ih fun d hd => h d (List.mem_cons_of_mem c hd)]
    rfl

/-- A run that is not empty is its only word. -/
theorem words_of_uncapital (h : ∀ c ∈ run, IsUncapital c) (hrun : run ≠ []) :
    words run = [run] := by
  rw [words_of_run fun c hc => (h c hc).isAlphanumeric,
    cutWords_of_no_capitals (by decide) (fun c hc => (h c hc).not_isUpper) hrun, List.nil_append]

theorem flatMap_words_run (h : ∀ c ∈ run, IsUncapital c) :
    (words run).flatMap capitalWord = capitalWord run := by
  cases run with
  | nil => rfl
  | cons c run => rw [words_of_uncapital h (List.cons_ne_nil _ _), List.flatMap_singleton]

/-! ### Underscores -/

theorem IsUncapital.ne_underscore (h : IsUncapital c) : c ≠ '_' := by
  rintro rfl
  exact absurd h.isAlphanumeric (by decide)

/-- A run is kept until the next underscore. -/
theorem keyChars_false_append (h : ∀ c ∈ run, IsUncapital c) (back : List Char) :
    keyChars false (run ++ back) = run ++ keyChars false back := by
  induction run with
  | nil => rfl
  | cons c run ih =>
    obtain ⟨hc, hrun⟩ := List.forall_mem_cons.mp h
    rw [List.cons_append, keyChars, if_neg hc.ne_underscore, ih hrun]
    rfl

/-- Behind an underscore a run is raised. -/
theorem keyChars_true_append (h : ∀ c ∈ run, IsUncapital c) (back : List Char) (hrun : run ≠ []) :
    keyChars true (run ++ back) = capitalWord run ++ keyChars false back := by
  cases run with
  | nil => exact absurd rfl hrun
  | cons c run =>
    obtain ⟨hc, htail⟩ := List.forall_mem_cons.mp h
    rw [List.cons_append, keyChars, if_neg hc.ne_underscore, if_pos rfl,
      keyChars_false_append htail, capitalWord, lowerWord_of_uncapital htail, List.append_assoc]

theorem keyChars_true_run (h : ∀ c ∈ run, IsUncapital c) :
    keyChars true run = capitalWord run := by
  cases run with
  | nil => rfl
  | cons c run =>
    have happend := keyChars_true_append h [] (List.cons_ne_nil _ _)
    rwa [List.append_nil, keyChars, List.append_nil] at happend

theorem keyChars_true_underscore (h : ∀ c ∈ run, IsUncapital c) (back : List Char) :
    keyChars true (run ++ '_' :: back) = capitalWord run ++ keyChars true back := by
  cases run with
  | nil => rfl
  | cons c run => exact keyChars_true_append h ('_' :: back) (List.cons_ne_nil _ _)

/-- **Behind an underscore** the words of a name are what its runs are, each of them raised. -/
theorem flatMap_words_eq_keyChars : ∀ {ps : List (List Char)},
    (∀ p ∈ ps, ∀ c ∈ p, IsUncapital c) → (words (List.intercalate ['_'] ps)).flatMap capitalWord =
      keyChars true (List.intercalate ['_'] ps)
  | [], _ => rfl
  | [p], h => by
    have hp : ∀ c ∈ p, IsUncapital c := h p List.mem_cons_self
    rw [List.intercalate_singleton, flatMap_words_run hp, keyChars_true_run hp]
  | p :: q :: ps, h => by
    obtain ⟨hp, hps⟩ := List.forall_mem_cons.mp h
    rw [List.intercalate_cons_cons, List.append_assoc, List.singleton_append,
      words_append_cons (by decide), List.flatMap_append, flatMap_words_run hp,
      flatMap_words_eq_keyChars hps, keyChars_true_underscore hp]

theorem mem_of_mem_splitOn {sep : Char} {piece : List Char} (hpiece : piece ∈ cs.splitOn sep)
    (hc : c ∈ piece) : c ∈ cs ∧ c ≠ sep := by
  have hmem : c ∈ (cs.splitOn sep).flatten := List.mem_flatten_of_mem hpiece hc
  rw [List.splitOn_eq_splitOnP, flatten_splitOnP] at hmem
  simpa using List.mem_filter.mp hmem

/-- **The key of a field is its name in `lowerCamelCase`** if the name has no capitals. -/
theorem lowerCamel_eq_keyChars (h : IsLowerName name) : lowerCamel name = keyChars false name := by
  have hpieces : ∀ p ∈ name.splitOn '_', ∀ c ∈ p, IsUncapital c := fun p hp c hc =>
    (h.all c (mem_of_mem_splitOn hp hc).1).resolve_left (mem_of_mem_splitOn hp hc).2
  have hname : List.intercalate ['_'] (name.splitOn '_') = name := List.intercalate_splitOn '_'
  generalize name.splitOn '_' = ps at hpieces hname
  subst hname
  match ps with
  | [] => rfl
  | [] :: [] => rfl
  | [] :: q :: ps =>
    have hhead := h.head
    rw [List.intercalate_cons_cons] at hhead
    exact absurd rfl hhead
  | [c :: run] =>
    have hrun := hpieces (c :: run) List.mem_cons_self
    rw [List.intercalate_singleton, lowerCamel, words_of_uncapital hrun (List.cons_ne_nil _ _)]
    have hkey := keyChars_false_append hrun []
    rw [List.append_nil] at hkey
    rw [hkey]
    exact congrArg (· ++ []) (lowerWord_of_uncapital hrun)
  | (c :: run) :: q :: ps =>
    obtain ⟨hrun, hps⟩ := List.forall_mem_cons.mp hpieces
    have hback := flatMap_words_eq_keyChars hps
    rw [List.intercalate_cons_cons, List.append_assoc, List.singleton_append, lowerCamel,
      words_append_cons (by decide), words_of_uncapital hrun (List.cons_ne_nil _ _),
      keyChars_false_append hrun, keyChars, if_pos rfl, ← hback, List.singleton_append]
    exact congrArg (· ++ _) (lowerWord_of_uncapital hrun)

/-! ### Paths -/

/-- **A path of usual names** shows as the keys of the fields that it names. -/
theorem maskPath_intercalate {segments : List String} (hne : segments ≠ [])
    (h : ∀ s ∈ segments, IsLowerName s.toList) :
    maskPath (String.intercalate "." segments) =
      (String.intercalate "." (segments.map outputKey)).toList := by
  have hpoint : ∀ s ∈ segments.map String.toList, '.' ∉ s := by
    intro s hs hmem
    obtain ⟨segment, hsegment, rfl⟩ := List.mem_map.mp hs
    rcases (h segment hsegment).all '.' hmem with heq | hletter
    · exact absurd heq (by decide)
    · exact absurd hletter.isAlphanumeric (by decide)
  have hkeys : (segments.map String.toList).map lowerCamel =
      (segments.map outputKey).map String.toList := by
    rw [List.map_map, List.map_map]
    refine List.map_congr_left fun s hs => ?_
    rw [Function.comp_apply, lowerCamel_eq_keyChars (h s hs), Function.comp_apply, outputKey,
      String.toList_ofList]
  have hpieces : (String.intercalate "." segments).toList.splitOn '.' =
      segments.map String.toList := by
    rw [String.toList_intercalate]
    exact List.splitOn_intercalate '.' hpoint (by simpa using hne)
  rw [maskPath, hpieces, hkeys, String.toList_intercalate]
  rfl

/-- A name of ASCII characters shows as letters and digits. -/
theorem isAlphanum_of_mem_lowerCamel (h : IsAscii name) :
    ∀ c ∈ lowerCamel name, c.isAlphanum := by
  intro c hc
  have hwords : ∀ w ∈ words name, ∀ c ∈ w, c.isAlphanum :=
    fun w hw c hc => isAlphanum_of_mem_words h hw hc
  unfold lowerCamel at hc
  split at hc
  · exact absurd hc List.not_mem_nil
  · next w ws heq =>
    have hw : w ∈ words name := heq ▸ List.mem_cons_self
    rcases List.mem_append.mp hc with hc | hc
    · rw [lowerWord_of_ascii (isAscii_of_mem_words h hw)] at hc
      obtain ⟨d, hd, rfl⟩ := List.mem_map.mp hc
      exact isAlphanum_toLower (hwords w hw d hd)
    · obtain ⟨w', hw', hc⟩ := List.mem_flatMap.mp hc
      exact isAlphanum_of_mem_capitalWord
        (hwords w' (heq ▸ List.mem_cons_of_mem w hw')) c hc

theorem isAlphanum_of_mem_names {path : String} (h : IsAscii path.toList) :
    ∀ shown ∈ (path.toList.splitOn '.').map lowerCamel, ∀ c ∈ shown, c.isAlphanum := by
  intro shown hshown
  obtain ⟨piece, hpiece, rfl⟩ := List.mem_map.mp hshown
  exact isAlphanum_of_mem_lowerCamel fun c hc => h c (mem_of_mem_splitOn hpiece hc).1

/-- **A path of ASCII characters** shows with as many names as it has. -/
theorem splitOn_maskPath {path : String} (h : IsAscii path.toList) :
    (maskPath path).splitOn '.' = (path.toList.splitOn '.').map lowerCamel :=
  List.splitOn_intercalate '.'
    (fun shown hshown hmem => absurd (isAlphanum_of_mem_names h shown hshown '.' hmem) (by decide))
    (by simp [List.splitOn_eq_splitOnP, List.splitOnP_ne_nil])

theorem comma_notMem_maskPath {path : String} (h : IsAscii path.toList) : ',' ∉ maskPath path := by
  intro hmem
  rcases mem_intercalate hmem with hcomma | hcomma
  · exact absurd hcomma (by decide)
  · obtain ⟨shown, hshown, hcomma⟩ := List.mem_flatten.mp hcomma
    exact absurd (isAlphanum_of_mem_names h shown hshown ',' hcomma) (by decide)

/-! ### Masks -/

/-- **A field mask shows the keys of the fields that it names,** path by path, if the names are
usual ones. A mask with paths of any ASCII characters, at least one, shows with as many paths
between its commas, each of as many names between its points. -/
theorem fieldMask_names :
    (∀ paths : List (List String),
      (∀ segments ∈ paths, segments ≠ [] ∧ ∀ s ∈ segments, IsLowerName s.toList) →
        fieldMask (paths.map (String.intercalate ".")) =
          .text (String.intercalate ","
            (paths.map fun segments => String.intercalate "." (segments.map outputKey)))) ∧
    ∀ paths : List String, paths ≠ [] → (∀ path ∈ paths, IsAscii path.toList) →
      ∃ shown, fieldMask paths = .text shown ∧
        (shown.toList.splitOn ',').map (fun path => (path.splitOn '.').length) =
          paths.map fun path => (path.toList.splitOn '.').length := by
  refine ⟨fun paths h => ?_, fun paths hne hascii => ⟨_, rfl, ?_⟩⟩
  · have hpaths : (paths.map (String.intercalate ".")).map maskPath =
        (paths.map fun segments => String.intercalate "." (segments.map outputKey)).map
          String.toList := by
      rw [List.map_map, List.map_map]
      exact List.map_congr_left fun segments hs =>
        maskPath_intercalate (h segments hs).1 (h segments hs).2
    rw [fieldMask, hpaths]
    refine congrArg Json.text (String.toList_inj.mp ?_)
    rw [String.toList_ofList, String.toList_intercalate]
    rfl
  · have hcommas : ∀ shown ∈ paths.map maskPath, ',' ∉ shown := by
      intro shown hshown
      obtain ⟨path, hpath, rfl⟩ := List.mem_map.mp hshown
      exact comma_notMem_maskPath (hascii path hpath)
    rw [String.toList_ofList, List.splitOn_intercalate ',' hcommas (by simpa using hne),
      List.map_map]
    refine List.map_congr_left fun path hpath => ?_
    rw [Function.comp_apply, splitOn_maskPath (hascii path hpath), List.length_map]

/-- Two paths, the second one with an underscore too many and a word that begins with a digit. -/
def addressPaths : List (List String) := [["display_name"], ["address", "street__line_2x_"]]

theorem fieldMask_names_address :
    (∀ segments ∈ addressPaths, segments ≠ [] ∧ ∀ s ∈ segments, IsLowerName s.toList) ∧
      fieldMask (addressPaths.map (String.intercalate ".")) =
        .text "displayName,address.streetLine2x" ∧
      IsAscii "Ab,c..d_".toList ∧ ∃ shown, fieldMask ["Ab,c..d_", ""] = .text shown ∧
        (shown.toList.splitOn ',').map (fun path => (path.splitOn '.').length) = [3, 1] := by
  have hlower : ∀ segments ∈ addressPaths,
      segments ≠ [] ∧ ∀ s ∈ segments, IsLowerName s.toList := by
    simp only [addressPaths, List.forall_mem_cons]
    exact ⟨⟨by decide, isLowerName_of_all (by decide) (by decide), List.forall_mem_nil _⟩,
      ⟨by decide, isLowerName_of_all (by decide) (by decide),
        isLowerName_of_all (by decide) (by decide), List.forall_mem_nil _⟩,
      List.forall_mem_nil _⟩
  have hkeys : String.intercalate "," (addressPaths.map fun segments =>
      String.intercalate "." (segments.map outputKey)) = "displayName,address.streetLine2x" := by
    decide +kernel
  refine ⟨hlower, (fieldMask_names.1 addressPaths hlower).trans (congrArg Json.text hkeys),
    by decide, ?_⟩
  exact fieldMask_names.2 ["Ab,c..d_", ""] (by decide) (by decide)

end Redaction.Render
