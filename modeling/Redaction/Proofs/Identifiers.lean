import Redaction.Code.Path
import Redaction.Proofs.Words

/-!
# Identifiers of declarations

An identifier can be made of a name of ASCII characters exactly if the first of its letters and
digits is a letter (`IsUnnameable`). What is made of it is an identifier of Rust and no keyword: it
spells the words of the name, in lower case with underscores between them or each with a capital in
front, and where that is a keyword it is escaped (`identifiers_of_ascii`).

* `keywords`, `IsIdentifierToken`: what Rust takes for an identifier, said without the tables by
  which keywords are escaped.
* `head?_snake`, `head?_upperCamel`: the first character of an identifier is the first letter or
  digit of the name.
-/

namespace Redaction.Code

open Text

variable {c : Char} {cs name : List Char} {ws : List (List Char)} {s id : String}

/-! ### Identifiers of Rust -/

/-- **The keywords of Rust,** strict and reserved, of every edition. -/
def keywords : List String :=
  ["as", "break", "const", "continue", "crate", "else", "enum", "extern", "false", "fn", "for",
    "if", "impl", "in", "let", "loop", "match", "mod", "move", "mut", "pub", "ref", "return",
    "self", "Self", "static", "struct", "super", "trait", "true", "type", "unsafe", "use", "where",
    "while",
    -- Later editions add these.
    "async", "await", "dyn", "gen", "try",
    -- These are reserved and have no meaning yet.
    "abstract", "become", "box", "do", "final", "macro", "override", "priv", "typeof", "unsized",
    "virtual", "yield"]

/-- The text of an identifier, written in ASCII characters. The underscore alone is a token of its
own. -/
structure IsIdentifierText (cs : List Char) : Prop where
  start : ∃ c, cs.head? = some c ∧ (c.isAlpha ∨ c = '_')
  all : ∀ c ∈ cs, c.isAlphanum ∨ c = '_'
  ne_underscore : cs ≠ ['_']

/-- **An identifier of Rust,** plain or raw. -/
inductive IsIdentifierToken : String → Prop
  | plain {s : String} : IsIdentifierText s.toList → s ∉ keywords → IsIdentifierToken s
  | raw {s : String} : IsIdentifierText s.toList → s ∉ Path.neverRaw → IsIdentifierToken ("r#" ++ s)

/-- **An identifier for a text:** the text, or an escape of it if it is a keyword. -/
inductive Escapes : String → String → Prop
  | plain {s : String} : s ∉ keywords → Escapes s s
  | raw {s : String} : s ∈ keywords → Escapes s ("r#" ++ s)
  | suffixed {s : String} : s ∈ keywords → Escapes s (s ++ "_")

/-- **No identifier can be made of a name** without letters and digits, or whose first one is a
digit. -/
def IsUnnameable (name : List Char) : Prop :=
  (∀ c ∈ name, ¬ c.isAlphanum) ∨ ∃ c, name.find? Char.isAlphanum = some c ∧ c.isDigit

/-! ### ASCII letters and digits -/

theorem toNat_lt_of_isAlphanum (h : c.isAlphanum) : c.toNat < 0x80 := by
  have hranges : c.isAlphanum = (decide (65 ≤ c.val ∧ c.val ≤ 90) ||
      97 ≤ c.val && c.val ≤ 122 || 48 ≤ c.val && c.val ≤ 57) := rfl
  simp [hranges, UInt32.le_iff_toNat_le] at h
  omega

theorem not_isDigit_of_isAlpha (h : c.isAlpha) : ¬ c.isDigit := by
  have halnum : c.isAlphanum := by simp [Char.isAlphanum, h]
  exact of_ascii (p := fun c => c.isAlpha → ¬ c.isDigit) (by decide +kernel)
    (toNat_lt_of_isAlphanum halnum) h

theorem isAlpha_iff (h : c.isAlphanum) : c.isAlpha ↔ ¬ c.isDigit := by
  refine ⟨not_isDigit_of_isAlpha, fun hdigit => ?_⟩
  simpa [Char.isAlphanum, hdigit] using h

/-- **Lower case** keeps letters and digits what they are, and none of it is upper case. -/
theorem toLower_of_ascii (h : c.toNat < 0x80) : c.toLower.isAlphanum = c.isAlphanum ∧
    c.toLower.isAlpha = c.isAlpha ∧ c.toLower.isUpper = false ∧ c.toLower.toLower = c.toLower :=
  of_ascii (p := fun c => c.toLower.isAlphanum = c.isAlphanum ∧ c.toLower.isAlpha = c.isAlpha ∧
    c.toLower.isUpper = false ∧ c.toLower.toLower = c.toLower) (by decide +kernel) h

/-- **Upper case** keeps letters and digits what they are, each letter is a capital in it, and lower
case takes it back. -/
theorem toUpper_of_ascii (h : c.toNat < 0x80) : c.toUpper.isAlphanum = c.isAlphanum ∧
    c.toUpper.isAlpha = c.isAlpha ∧ c.toUpper.isUpper = c.isAlpha ∧
    c.toUpper.toLower = c.toLower :=
  of_ascii (p := fun c => c.toUpper.isAlphanum = c.isAlphanum ∧ c.toUpper.isAlpha = c.isAlpha ∧
    c.toUpper.isUpper = c.isAlpha ∧ c.toUpper.toLower = c.toLower) (by decide +kernel) h

theorem isAlphanum_toLower (h : c.isAlphanum) : c.toLower.isAlphanum :=
  (toLower_of_ascii (toNat_lt_of_isAlphanum h)).1.trans h

theorem isAlphanum_toUpper (h : c.isAlphanum) : c.toUpper.isAlphanum :=
  (toUpper_of_ascii (toNat_lt_of_isAlphanum h)).1.trans h

/-! ### The form of an identifier -/

theorem toNat_lt_of_word (h : c.isAlphanum ∨ c = '_') : c.toNat < 0x80 := by
  rcases h with h | rfl
  · exact toNat_lt_of_isAlphanum h
  · decide

theorem isIdentifier_iff (hall : ∀ c ∈ cs, c.isAlphanum ∨ c = '_') :
    isIdentifier cs ↔ ∃ c, cs.head? = some c ∧ (c.isAlpha ∨ c = '_') := by
  cases cs with
  | nil => simp [isIdentifier]
  | cons c cs =>
    have hstart : isIdentifierStart c = (c.isAlpha || c == '_') :=
      if_pos (toNat_lt_of_word (hall c List.mem_cons_self))
    have hrest : cs.all isIdentifierContinue := by
      refine List.all_eq_true.mpr fun d hd => ?_
      have hd : d.isAlphanum ∨ d = '_' := hall d (List.mem_cons_of_mem c hd)
      rw [isIdentifierContinue, if_pos (toNat_lt_of_word hd)]
      simpa using hd
    simp [isIdentifier, hstart, hrest]

theorem isIdentifierText_of_isIdentifier (hall : ∀ c ∈ cs, c.isAlphanum ∨ c = '_')
    (h : isIdentifier cs) (hne : cs ≠ ['_']) : IsIdentifierText cs :=
  ⟨(isIdentifier_iff hall).mp h, hall, hne⟩

/-- A text that starts with the first letter or digit of a name, up to its case, has the form of an
identifier unless the name has none. -/
theorem isIdentifier_iff_not_isUnnameable {f : Char → Char}
    (hf : ∀ c, c.toNat < 0x80 → (f c).isAlphanum = c.isAlphanum ∧ (f c).isAlpha = c.isAlpha)
    (hall : ∀ c ∈ cs, c.isAlphanum ∨ c = '_')
    (hhead : cs.head? = (name.find? Char.isAlphanum).map f) :
    isIdentifier cs ↔ ¬ IsUnnameable name := by
  rw [isIdentifier_iff hall, hhead]
  cases hfind : name.find? Char.isAlphanum with
  | none => exact iff_of_false (by simp) (not_not_intro (Or.inl (List.find?_eq_none.mp hfind)))
  | some c =>
    have hc : c.isAlphanum := List.find?_some hfind
    have hsome : ∃ d ∈ name, d.isAlphanum := ⟨c, List.mem_of_find?_eq_some hfind, hc⟩
    obtain ⟨halnum, hletter⟩ := hf c (toNat_lt_of_isAlphanum hc)
    have hunderscore : f c ≠ '_' := fun heq => absurd (halnum.trans hc) (by rw [heq]; decide)
    have hunnameable : IsUnnameable name ↔ c.isDigit := by
      unfold IsUnnameable
      rw [hfind]
      refine ⟨?_, fun hdigit => Or.inr ⟨c, rfl, hdigit⟩⟩
      rintro (hnone | ⟨d, hd, hdigit⟩)
      · obtain ⟨d, hmem, hd⟩ := hsome
        exact absurd hd (hnone d hmem)
      · exact Option.some.inj hd ▸ hdigit
    rw [hunnameable, ← isAlpha_iff hc, ← hletter]
    simp [hunderscore]

/-! ### The case of a word -/

theorem lowerWord_of_ascii (h : IsAscii cs) : lowerWord cs = cs.map Char.toLower := by
  fun_induction lowerWord cs with
  | case1 => rfl
  | case2 => exact absurd (h 'Σ' List.mem_cons_self) (by decide)
  | case3 c _ => exact if_pos (h c List.mem_cons_self)
  | case4 c next rest ih =>
    have hlower : lower c = [c.toLower] := if_pos (h c List.mem_cons_self)
    rw [hlower, ih fun d hd => h d (List.mem_cons_of_mem c hd)]
    rfl

theorem capitalWord_of_ascii (h : IsAscii (c :: cs)) :
    capitalWord (c :: cs) = c.toUpper :: cs.map Char.toLower := by
  have hupper : upper c = [c.toUpper] := if_pos (h c List.mem_cons_self)
  rw [capitalWord, hupper, lowerWord_of_ascii fun d hd => h d (List.mem_cons_of_mem c hd)]
  rfl

theorem map_toLower_capitalWord (h : IsAscii cs) :
    (capitalWord cs).map Char.toLower = cs.map Char.toLower := by
  cases cs with
  | nil => rfl
  | cons c cs =>
    have hcase : (cs.map Char.toLower).map Char.toLower = cs.map Char.toLower := by
      rw [List.map_map]
      exact List.map_congr_left fun d hd =>
        (toLower_of_ascii (h d (List.mem_cons_of_mem c hd))).2.2.2
    rw [capitalWord_of_ascii h, List.map_cons, hcase,
      (toUpper_of_ascii (h c List.mem_cons_self)).2.2.2, List.map_cons]

/-! ### The texts of identifiers -/

theorem isAlphanum_of_mem_words (h : IsAscii name) {w : List Char} (hw : w ∈ words name)
    (hc : c ∈ w) : c.isAlphanum := by
  have hmem : c ∈ (words name).flatten := List.mem_flatten_of_mem hw hc
  rw [(areWordsOf_words h).flatten] at hmem
  exact (List.mem_filter.mp hmem).2

theorem isAscii_of_mem_words (h : IsAscii name) {w : List Char} (hw : w ∈ words name) :
    IsAscii w := fun _ hc => toNat_lt_of_isAlphanum (isAlphanum_of_mem_words h hw hc)

theorem snake_of_ascii (h : IsAscii name) :
    snake name = List.intercalate ['_'] ((words name).map (·.map Char.toLower)) := by
  rw [snake, List.map_congr_left fun w hw => lowerWord_of_ascii (isAscii_of_mem_words h hw)]

theorem map_toLower_upperCamel (h : IsAscii name) :
    (upperCamel name).map Char.toLower = (name.filter Char.isAlphanum).map Char.toLower := by
  rw [← (areWordsOf_words h).flatten, upperCamel, List.map_flatMap, List.map_flatten,
    List.flatMap_def, List.map_congr_left fun w hw =>
      map_toLower_capitalWord (isAscii_of_mem_words h hw)]

theorem mem_intercalate {sep : List Char} (h : c ∈ List.intercalate sep ws) :
    c ∈ sep ∨ c ∈ ws.flatten := by
  induction ws with
  | nil => exact absurd h List.not_mem_nil
  | cons w ws ih =>
    cases ws with
    | nil => exact Or.inr (by simpa using h)
    | cons w' ws =>
      rw [List.intercalate_cons_cons, List.mem_append, List.mem_append] at h
      rcases h with (hc | hc) | hc
      · exact Or.inr (List.mem_append_left _ hc)
      · exact Or.inl hc
      · exact (ih hc).imp_right (List.mem_append_right w)

theorem head?_intercalate (sep : List Char) (h : [] ∉ ws) :
    (List.intercalate sep ws).head? = ws.flatten.head? := by
  cases ws with
  | nil => rfl
  | cons w ws =>
    obtain ⟨c, w, rfl⟩ := List.exists_cons_of_ne_nil fun hw : w = [] => h (hw ▸ List.mem_cons_self)
    cases ws <;> rfl

theorem exists_of_mem_snake (h : IsAscii name) (hc : c ∈ snake name) :
    c = '_' ∨ ∃ d : Char, d.isAlphanum ∧ d.toLower = c := by
  rw [snake_of_ascii h] at hc
  rcases mem_intercalate hc with hc | hc
  · exact Or.inl (List.mem_singleton.mp hc)
  · rw [← List.map_flatten, (areWordsOf_words h).flatten] at hc
    obtain ⟨d, hd, rfl⟩ := List.mem_map.mp hc
    exact Or.inr ⟨d, (List.mem_filter.mp hd).2, rfl⟩

theorem isAlphanum_of_mem_snake (h : IsAscii name) :
    ∀ c ∈ snake name, c.isAlphanum ∨ c = '_' := by
  intro c hc
  rcases exists_of_mem_snake h hc with rfl | ⟨d, hd, rfl⟩
  · exact Or.inr rfl
  · exact Or.inl (isAlphanum_toLower hd)

theorem head?_snake (h : IsAscii name) :
    (snake name).head? = (name.find? Char.isAlphanum).map Char.toLower := by
  have hne : [] ∉ (words name).map (·.map Char.toLower) := by
    intro hmem
    obtain ⟨w, hw, hnil⟩ := List.mem_map.mp hmem
    exact (areWordsOf_words h).nil_notMem (List.map_eq_nil_iff.mp hnil ▸ hw)
  rw [snake_of_ascii h, head?_intercalate _ hne, ← List.map_flatten, (areWordsOf_words h).flatten,
    List.head?_map, List.head?_filter]

theorem isAlphanum_of_mem_capitalWord {w : List Char} (h : ∀ c ∈ w, c.isAlphanum) :
    ∀ c ∈ capitalWord w, c.isAlphanum := by
  intro c hc
  cases w with
  | nil => exact absurd hc List.not_mem_nil
  | cons d w =>
    rw [capitalWord_of_ascii fun c hc => toNat_lt_of_isAlphanum (h c hc)] at hc
    rcases List.mem_cons.mp hc with rfl | hc
    · exact isAlphanum_toUpper (h d List.mem_cons_self)
    · obtain ⟨e, he, rfl⟩ := List.mem_map.mp hc
      exact isAlphanum_toLower (h e (List.mem_cons_of_mem d he))

theorem isAlphanum_of_mem_upperCamel (h : IsAscii name) :
    ∀ c ∈ upperCamel name, c.isAlphanum := by
  intro c hc
  obtain ⟨w, hw, hc⟩ := List.mem_flatMap.mp hc
  exact isAlphanum_of_mem_capitalWord (fun c hc => isAlphanum_of_mem_words h hw hc) c hc

theorem head?_upperCamel (h : IsAscii name) :
    (upperCamel name).head? = (name.find? Char.isAlphanum).map Char.toUpper := by
  rw [← List.head?_filter, ← (areWordsOf_words h).flatten, upperCamel]
  cases hws : words name with
  | nil => rfl
  | cons w ws =>
    have hw : w ∈ words name := hws ▸ List.mem_cons_self
    cases w with
    | nil => exact absurd hw (areWordsOf_words h).nil_notMem
    | cons c w =>
      rw [List.flatMap_cons, capitalWord_of_ascii (isAscii_of_mem_words h hw)]
      rfl

/-! ### Keywords and their escapes -/

theorem isSome_snakeIdentifier?_iff :
    (snakeIdentifier? s).isSome ↔ isIdentifier (snake s.toList) := by
  have hplain : ∀ k ∈ plainKeywords, isIdentifier k.toList := by decide
  unfold snakeIdentifier?
  dsimp only
  split_ifs with hp hr
  · simpa using hplain _ hp
  · simpa using isIdentifier_of_mem_rawKeywords _ hr
  · simp [identifier?]

theorem isSome_camelIdentifier?_iff :
    (camelIdentifier? s).isSome ↔ isIdentifier (upperCamel s.toList) := by
  have hself : isIdentifier "Self".toList := by decide
  unfold camelIdentifier?
  dsimp only
  split_ifs with heq
  · rw [← heq] at hself
    simpa using hself
  · simp [identifier?]

/-- A keyword that has a raw form is written so. -/
theorem isIdentifierToken_raw {k : String} (hk : k ∈ rawKeywords) :
    k ∈ keywords ∧ IsIdentifierToken ("r#" ++ k) := by
  have hraw : ∀ k ∈ rawKeywords, k ∈ keywords ∧ k ∉ Path.neverRaw ∧
      (k.toList.all fun c => c.isAlphanum || c == '_') ∧ k.toList ≠ ['_'] := by decide
  obtain ⟨hkeyword, hnever, hall, hne⟩ := hraw k hk
  have htext : IsIdentifierText k.toList :=
    isIdentifierText_of_isIdentifier (by simpa using hall)
      (isIdentifier_of_mem_rawKeywords k hk) hne
  exact ⟨hkeyword, .raw htext hnever⟩

/-- A keyword that has no raw form is no keyword with an underscore behind it. -/
theorem isIdentifierToken_suffixed {k : String} (hk : k ∈ "Self" :: plainKeywords) :
    k ∈ keywords ∧ IsIdentifierToken (k ++ "_") := by
  have hsuffixed : ∀ k ∈ "Self" :: plainKeywords, k ∈ keywords ∧ k ++ "_" ∉ keywords ∧
      isIdentifier (k ++ "_").toList ∧
        ((k ++ "_").toList.all fun c => c.isAlphanum || c == '_') ∧ (k ++ "_").toList ≠ ['_'] := by
    decide
  obtain ⟨hkeyword, hnot, hform, hall, hne⟩ := hsuffixed k hk
  have htext : IsIdentifierText (k ++ "_").toList :=
    isIdentifierText_of_isIdentifier
      (fun c hc => by simpa using List.all_eq_true.mp hall c hc) hform hne
  exact ⟨hkeyword, .plain htext hnot⟩

/-- No keyword is missed. -/
theorem mem_of_mem_keywords :
    ∀ k ∈ keywords, k ∈ plainKeywords ∨ k ∈ rawKeywords ∨ k = "Self" := by decide

/-- One keyword starts with a capital. -/
theorem eq_of_mem_keywords :
    ∀ k ∈ keywords, (∃ c, k.toList.head? = some c ∧ c.isUpper) → k = "Self" := by
  have hupper : ∀ k ∈ keywords, k.toList.head?.any Char.isUpper → k = "Self" := by decide
  rintro k hk ⟨c, hc, hcapital⟩
  exact hupper k hk (by rw [hc]; exact hcapital)

/-- What has the form of an identifier and is no keyword is taken as it is. -/
theorem escapes_identifier? (hall : ∀ c ∈ cs, c.isAlphanum ∨ c = '_') (hne : cs ≠ ['_'])
    (hkeyword : String.ofList cs ∉ keywords) (hid : identifier? (String.ofList cs) = some id) :
    IsIdentifierToken id ∧ Escapes (String.ofList cs) id := by
  rw [identifier?, String.toList_ofList] at hid
  split_ifs at hid with hform
  obtain rfl := Option.some.inj hid
  refine ⟨.plain ?_ hkeyword, .plain hkeyword⟩
  rw [String.toList_ofList]
  exact isIdentifierText_of_isIdentifier hall hform hne

theorem escapes_snakeIdentifier? (h : IsAscii s.toList) (hid : snakeIdentifier? s = some id) :
    IsIdentifierToken id ∧ Escapes (String.ofList (snake s.toList)) id := by
  unfold snakeIdentifier? at hid
  dsimp only at hid
  split_ifs at hid with hp hr
  · obtain ⟨hkeyword, htoken⟩ := isIdentifierToken_suffixed (List.mem_cons_of_mem _ hp)
    exact Option.some.inj hid ▸ ⟨htoken, .suffixed hkeyword⟩
  · obtain ⟨hkeyword, htoken⟩ := isIdentifierToken_raw hr
    exact Option.some.inj hid ▸ ⟨htoken, .raw hkeyword⟩
  · have hself : String.ofList (snake s.toList) ≠ "Self" := by
      intro heq
      have hmem : 'S' ∈ snake s.toList := by
        rw [String.ofList_eq.mp heq]
        decide
      rcases exists_of_mem_snake h hmem with hc | ⟨d, hdigit, hd⟩
      · exact absurd hc (by decide)
      · exact absurd (toLower_of_ascii (toNat_lt_of_isAlphanum hdigit)).2.2.1 (by rw [hd]; decide)
    have hkeyword : String.ofList (snake s.toList) ∉ keywords := by
      intro hmem
      rcases mem_of_mem_keywords _ hmem with hmem | hmem | heq
      · exact hp hmem
      · exact hr hmem
      · exact hself heq
    have hunderscore : snake s.toList ≠ ['_'] := by
      intro heq
      have hhead := head?_snake h
      rw [heq] at hhead
      obtain ⟨c, hc, heq⟩ := Option.map_eq_some_iff.mp hhead.symm
      exact absurd (heq ▸ isAlphanum_toLower (List.find?_some hc)) (by decide)
    exact escapes_identifier? (isAlphanum_of_mem_snake h) hunderscore hkeyword hid

/-- What is capitalised and has the form of an identifier starts with a capital. -/
theorem exists_capital_upperCamel (h : IsAscii name) (hform : isIdentifier (upperCamel name)) :
    ∃ c, (upperCamel name).head? = some c ∧ c.isUpper := by
  have hall : ∀ c ∈ upperCamel name, c.isAlphanum ∨ c = '_' :=
    fun c hc => Or.inl (isAlphanum_of_mem_upperCamel h c hc)
  obtain ⟨c, hc, hletter⟩ := (isIdentifier_iff hall).mp hform
  have hhead := head?_upperCamel h
  rw [hc] at hhead
  obtain ⟨d, hd, rfl⟩ := Option.map_eq_some_iff.mp hhead.symm
  refine ⟨_, hc, ?_⟩
  have hdigit : d.isAlphanum := List.find?_some hd
  rcases hletter with hletter | hunderscore
  · obtain ⟨-, halpha, hupper, -⟩ := toUpper_of_ascii (toNat_lt_of_isAlphanum hdigit)
    rw [hupper, ← halpha, hletter]
  · exact absurd (hunderscore ▸ isAlphanum_toUpper hdigit) (by decide)

theorem escapes_camelIdentifier? (h : IsAscii s.toList) (hid : camelIdentifier? s = some id) :
    IsIdentifierToken id ∧ Escapes (String.ofList (upperCamel s.toList)) id := by
  have hsome : isIdentifier (upperCamel s.toList) := isSome_camelIdentifier?_iff.mp (hid ▸ rfl)
  unfold camelIdentifier? at hid
  dsimp only at hid
  split_ifs at hid with heq
  · obtain ⟨hkeyword, htoken⟩ := isIdentifierToken_suffixed List.mem_cons_self
    obtain rfl : "Self_" = id := Option.some.inj hid
    rw [heq]
    exact ⟨htoken, .suffixed hkeyword⟩
  · have hkeyword : String.ofList (upperCamel s.toList) ∉ keywords := fun hmem =>
      heq (eq_of_mem_keywords _ hmem (by
        rw [String.toList_ofList]
        exact exists_capital_upperCamel h hsome))
    have hunderscore : upperCamel s.toList ≠ ['_'] := by
      intro heq
      have hmem : '_' ∈ upperCamel s.toList := heq ▸ List.mem_cons_self
      exact absurd (isAlphanum_of_mem_upperCamel h '_' hmem) (by decide)
    exact escapes_identifier? (fun c hc => Or.inl (isAlphanum_of_mem_upperCamel h c hc))
      hunderscore hkeyword hid

/-! ### The identifiers of a name -/

/-- **The identifiers of a name of ASCII characters.** There are none exactly if the first of its
letters and digits is a digit or missing. Else the one of a field is the words of the name in lower
case with one underscore between them, and the one of a type starts with a capital and is the
letters and digits of the name but for their case; each is escaped if it would be a keyword. -/
theorem identifiers_of_ascii (name : String) (h : IsAscii name.toList) :
    (snakeIdentifier? name = none ↔ IsUnnameable name.toList) ∧
      (camelIdentifier? name = none ↔ IsUnnameable name.toList) ∧
      (∀ id, snakeIdentifier? name = some id → IsIdentifierToken id ∧
        ∃ text ws, Escapes text id ∧ AreWordsOf ws name.toList ∧
          text.toList = List.intercalate ['_'] (ws.map (·.map Char.toLower))) ∧
      ∀ id, camelIdentifier? name = some id → IsIdentifierToken id ∧
        ∃ text, Escapes text id ∧ (∃ c, text.toList.head? = some c ∧ c.isUpper) ∧
          text.toList.map Char.toLower =
            (name.toList.filter Char.isAlphanum).map Char.toLower := by
  refine ⟨?_, ?_, fun id hid => ?_, fun id hid => ?_⟩
  · rw [← Option.not_isSome_iff_eq_none, isSome_snakeIdentifier?_iff,
      isIdentifier_iff_not_isUnnameable (fun _ hc => ⟨(toLower_of_ascii hc).1,
        (toLower_of_ascii hc).2.1⟩) (isAlphanum_of_mem_snake h) (head?_snake h), not_not]
  · rw [← Option.not_isSome_iff_eq_none, isSome_camelIdentifier?_iff,
      isIdentifier_iff_not_isUnnameable (fun _ hc => ⟨(toUpper_of_ascii hc).1,
        (toUpper_of_ascii hc).2.1⟩) (fun c hc => Or.inl (isAlphanum_of_mem_upperCamel h c hc))
        (head?_upperCamel h), not_not]
  · obtain ⟨htoken, hescapes⟩ := escapes_snakeIdentifier? h hid
    exact ⟨htoken, _, words name.toList, hescapes, areWordsOf_words h,
      String.toList_ofList.trans (snake_of_ascii h)⟩
  · obtain ⟨htoken, hescapes⟩ := escapes_camelIdentifier? h hid
    have hform : isIdentifier (upperCamel name.toList) :=
      isSome_camelIdentifier?_iff.mp (hid ▸ rfl)
    refine ⟨htoken, _, hescapes, ?_, ?_⟩
    · rw [String.toList_ofList]
      exact exists_capital_upperCamel h hform
    · rw [String.toList_ofList, map_toLower_upperCamel h]

theorem identifiers_of_ascii_type :
    IsAscii "HTTPType_v2".toList ∧ IsIdentifierToken "http_type_v2" ∧
      (∃ text ws, Escapes text "http_type_v2" ∧ AreWordsOf ws "HTTPType_v2".toList ∧
        text.toList = List.intercalate ['_'] (ws.map (·.map Char.toLower))) ∧
      IsIdentifierToken "HttpTypeV2" ∧ IsIdentifierToken "r#type" ∧ IsIdentifierToken "Self_" ∧
      snakeIdentifier? "2fa" = none ∧ camelIdentifier? "__" = none := by
  have hascii : IsAscii "HTTPType_v2".toList := by decide
  obtain ⟨-, -, hsnake, hcamel⟩ := identifiers_of_ascii "HTTPType_v2" hascii
  obtain ⟨htoken, htext⟩ := hsnake "http_type_v2" (by decide)
  obtain ⟨-, -, hkeyword, -⟩ := identifiers_of_ascii "Type" (by decide)
  obtain ⟨-, -, -, hself⟩ := identifiers_of_ascii "self" (by decide)
  obtain ⟨hdigit, -⟩ := identifiers_of_ascii "2fa" (by decide)
  obtain ⟨-, hnone, -⟩ := identifiers_of_ascii "__" (by decide)
  exact ⟨hascii, htoken, htext, (hcamel "HttpTypeV2" (by decide)).1,
    (hkeyword "r#type" (by decide)).1, (hself "Self_" (by decide)).1,
    hdigit.mpr (Or.inr ⟨'2', by decide, by decide⟩), hnone.mpr (Or.inl (by simp))⟩

end Redaction.Code
