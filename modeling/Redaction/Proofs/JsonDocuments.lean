import Redaction.Proofs.JsonNumbers

/-!
# Documents are one line and are read back

The text of a document has no control character (`isPrintable_chars`), and a reader gets the
document back from it (`value?_chars`), with the doubles that the function for the texts of doubles
gives (`reread`). Both go through the document piece by piece: a character of a text, a text, a
number, an item, a member. What stands behind a piece is any text that no number can go on with.

* `character?_escape`, `characters?_quoted`: no character leaves the quotes.
* `read_render`: the result for whole documents.
-/

namespace Redaction.Json

open Number Read

/-! ### One line -/

theorem chars_array (items : List Json) : chars (array items) = '[' :: (itemChars items ++ [']']) :=
  rfl

theorem chars_object (members : List (String × Json)) :
    chars (object members) = '\x7b' :: (memberChars members ++ ['\x7d']) := rfl

theorem doubleText_of_not_isFinite {x : Double} (hx : ¬ x.isFinite) :
    doubleText x = "null".toList := by
  have hnone : x.decode = none := by simpa [Double.isFinite] using hx
  rw [doubleText, hnone]

/-- The character is no control below the space. -/
def IsPrintable (c : Char) : Prop := 0x20 ≤ c.toNat

instance (c : Char) : Decidable (IsPrintable c) := inferInstanceAs (Decidable (0x20 ≤ c.toNat))

theorem isPrintable_of_all {cs : List Char} (h : cs.all fun c => decide (IsPrintable c)) :
    ∀ c ∈ cs, IsPrintable c := fun c hc => of_decide_eq_true (List.all_eq_true.mp h c hc)

theorem isPrintable_of_isNumeric {c : Char} (h : isNumeric c) : IsPrintable c := by
  simp only [isNumeric, Bool.or_eq_true, beq_iff_eq, Char.isDigit_iff_toNat] at h
  rcases h with ((((⟨h, -⟩ | rfl) | rfl) | rfl) | rfl) | rfl
  · exact le_trans (by decide) h
  all_goals decide

/-- The four digits of a control. -/
theorem leftpad_toDigits : ∀ n < 0x20, (Nat.toDigits 16 n).leftpad 4 '0' =
    ['0', '0', Nat.digitChar (n / 16), Nat.digitChar (n % 16)] := by decide

theorem isPrintable_digitChar : ∀ n < 16, IsPrintable (Nat.digitChar n) := by decide

/-- **What stands for a character:** a backslash and a letter or mark that is read as the character,
the number of a control, or the character itself. -/
theorem escape_cases (c : Char) :
    (∃ d, IsPrintable d ∧ escape c = ['\\', d] ∧ ∀ rest, escaped? (d :: rest) = some (c, rest)) ∨
    (c.toNat < 0x20 ∧ escape c = ['\\', 'u'] ++ (Nat.toDigits 16 c.toNat).leftpad 4 '0') ∨
    (IsPrintable c ∧ c ≠ '"' ∧ c ≠ '\\' ∧ escape c = [c]) := by
  by_cases hquote : c = '"'
  · subst hquote
    exact Or.inl ⟨'"', by decide, rfl, fun _ => rfl⟩
  by_cases hslash : c = '\\'
  · subst hslash
    exact Or.inl ⟨'\\', by decide, rfl, fun _ => rfl⟩
  by_cases hb : c = '\x08'
  · subst hb
    exact Or.inl ⟨'b', by decide, rfl, fun _ => rfl⟩
  by_cases hf : c = '\x0c'
  · subst hf
    exact Or.inl ⟨'f', by decide, rfl, fun _ => rfl⟩
  by_cases hn : c = '\n'
  · subst hn
    exact Or.inl ⟨'n', by decide, rfl, fun _ => rfl⟩
  by_cases hr : c = '\r'
  · subst hr
    exact Or.inl ⟨'r', by decide, rfl, fun _ => rfl⟩
  by_cases ht : c = '\t'
  · subst ht
    exact Or.inl ⟨'t', by decide, rfl, fun _ => rfl⟩
  rw [escape, if_neg hquote, if_neg hslash, if_neg hb, if_neg hf, if_neg hn, if_neg hr, if_neg ht]
  by_cases hc : c.toNat < 0x20
  · exact Or.inr (Or.inl ⟨hc, if_pos hc⟩)
  · exact Or.inr (Or.inr ⟨not_lt.mp hc, hquote, hslash, if_neg hc⟩)

theorem isPrintable_escape (c : Char) : ∀ d ∈ escape c, IsPrintable d := by
  rcases escape_cases c with ⟨d, hd, h, -⟩ | ⟨hc, h⟩ | ⟨hc, -, -, h⟩
  · rw [h]
    exact List.forall_mem_cons.mpr ⟨by decide, List.forall_mem_singleton.mpr hd⟩
  · rw [h, leftpad_toDigits _ hc]
    have hhigh := isPrintable_digitChar (c.toNat / 16) (by omega)
    have hlow := isPrintable_digitChar (c.toNat % 16) (by omega)
    refine List.forall_mem_append.mpr ⟨isPrintable_of_all rfl, ?_⟩
    simp only [List.forall_mem_cons]
    exact ⟨by decide, by decide, hhigh, hlow, nofun⟩
  · rw [h]
    exact List.forall_mem_singleton.mpr hc

theorem isPrintable_quoted (s : String) : ∀ d ∈ quoted s, IsPrintable d := by
  unfold quoted
  rw [List.cons_append, List.forall_mem_cons, List.forall_mem_append, List.forall_mem_singleton]
  refine ⟨by decide, fun d hd => ?_, by decide⟩
  obtain ⟨c, -, hd⟩ := List.mem_flatMap.mp hd
  exact isPrintable_escape c d hd

mutual
/-- **The text of a document is one line.** -/
theorem isPrintable_chars : ∀ j : Json, ∀ c ∈ chars j, IsPrintable c
  | null => isPrintable_of_all rfl
  | bool true => isPrintable_of_all rfl
  | bool false => isPrintable_of_all rfl
  | integer i => fun c hc => isPrintable_of_isNumeric (isNumeric_integerText i c hc)
  | number x => by
    by_cases hx : x.isFinite
    · exact fun c hc => isPrintable_of_isNumeric (isNumeric_doubleText hx c hc)
    · show ∀ c ∈ doubleText x, IsPrintable c
      rw [doubleText_of_not_isFinite hx]
      exact isPrintable_of_all rfl
  | text s => isPrintable_quoted s
  | array items => by
    rw [chars_array, List.forall_mem_cons, List.forall_mem_append, List.forall_mem_singleton]
    exact ⟨by decide, isPrintable_itemChars items, by decide⟩
  | object members => by
    rw [chars_object, List.forall_mem_cons, List.forall_mem_append, List.forall_mem_singleton]
    exact ⟨by decide, isPrintable_memberChars members, by decide⟩

theorem isPrintable_itemChars : ∀ items : List Json, ∀ c ∈ itemChars items, IsPrintable c
  | [] => fun _ hc => nomatch hc
  | [item] => isPrintable_chars item
  | item :: next :: items => by
    rw [itemChars, List.forall_mem_append, List.forall_mem_cons]
    exact ⟨isPrintable_chars item, by decide, isPrintable_itemChars (next :: items)⟩

theorem isPrintable_memberChars : ∀ members : List (String × Json),
    ∀ c ∈ memberChars members, IsPrintable c
  | [] => fun _ hc => nomatch hc
  | [(key, value)] => by
    rw [memberChars, List.forall_mem_append, List.forall_mem_cons]
    exact ⟨isPrintable_quoted key, by decide, isPrintable_chars value⟩
  | (key, value) :: next :: members => by
    rw [memberChars]
    simp only [List.forall_mem_append, List.forall_mem_cons]
    exact ⟨⟨isPrintable_quoted key, by decide, isPrintable_chars value⟩, by decide,
      isPrintable_memberChars (next :: members)⟩
end

/-! ### Texts -/

theorem hexDigit?_digitChar : ∀ n < 16, hexDigit? (Nat.digitChar n) = some n := by decide

/-- The escape of a control by its number. -/
theorem codePoint?_control {n : Nat} (hn : n < 0x20) (rest : List Char) :
    codePoint? ('0' :: '0' :: Nat.digitChar (n / 16) :: Nat.digitChar (n % 16) :: rest) =
      some (Char.ofNat n, rest) := by
  have hhigh := hexDigit?_digitChar (n / 16) (by omega)
  have hlow := hexDigit?_digitChar (n % 16) (by omega)
  have hunit : codeUnit? ('0' :: '0' :: Nat.digitChar (n / 16) :: Nat.digitChar (n % 16) :: rest) =
      some (n, rest) := by
    simp only [codeUnit?, show hexDigit? '0' = some 0 from rfl, hhigh, hlow, Option.bind_eq_bind,
      Option.bind_some, Option.pure_def, Option.some.injEq, Prod.mk.injEq, and_true]
    omega
  rw [codePoint?, hunit, Option.bind_eq_bind, Option.bind_some]
  exact if_pos (Or.inl (hn.trans (by decide)))

/-- **A character is read back** from what stands for it. -/
theorem character?_escape (c : Char) (rest : List Char) :
    character? (escape c ++ rest) = some (c, rest) := by
  rcases escape_cases c with ⟨d, -, h, hread⟩ | ⟨hc, h⟩ | ⟨hc, hquote, hslash, h⟩
  · rw [h]
    exact hread rest
  · have hread := codePoint?_control hc rest
    rw [Char.ofNat_toNat] at hread
    rw [h, leftpad_toDigits _ hc]
    exact hread
  · rw [h, List.singleton_append, character?, if_neg hslash,
      if_neg (not_or.mpr ⟨hquote, not_lt.mpr hc⟩)]

theorem escape_ne_nil (c : Char) : escape c ≠ [] := by
  rcases escape_cases c with ⟨d, -, h, -⟩ | ⟨-, h⟩ | ⟨-, -, -, h⟩ <;> rw [h] <;>
    exact List.cons_ne_nil _ _

theorem length_le_flatMap_escape (cs : List Char) : cs.length ≤ (cs.flatMap escape).length := by
  induction cs with
  | nil => exact le_rfl
  | cons c cs ih =>
    have hpos := List.length_pos_of_ne_nil (escape_ne_nil c)
    rw [List.flatMap_cons, List.length_append, List.length_cons]
    omega

/-- Nothing that stands for a character begins with the closing quote. -/
theorem head?_escape (c : Char) (rest : List Char) : (escape c ++ rest).head? ≠ some '"' := by
  intro h
  have hread := character?_escape c rest
  obtain ⟨tail, htail⟩ : ∃ tail, escape c ++ rest = '"' :: tail := by
    cases hcs : escape c ++ rest with
    | nil => rw [hcs] at h; cases h
    | cons d tail => rw [hcs] at h; exact ⟨tail, by rw [Option.some.inj h]⟩
  rw [htail] at hread
  cases hread

/-- **A text is read back** up to its closing quote. -/
theorem characters?_flatMap_escape (rest : List Char) : ∀ (cs : List Char) {n : Nat},
    cs.length < n → characters? n (cs.flatMap escape ++ '"' :: rest) = some (cs, rest)
  | [], n + 1, _ => rfl
  | c :: cs, n + 1, hn => by
    rw [List.flatMap_cons, List.append_assoc, characters?, if_neg (head?_escape c _),
      character?_escape, Option.bind_eq_bind, Option.bind_some]
    dsimp only
    rw [characters?_flatMap_escape rest cs (Nat.lt_of_succ_lt_succ hn)]
    rfl

theorem quoted_append (s : String) (rest : List Char) :
    quoted s ++ rest = '"' :: (s.toList.flatMap escape ++ '"' :: rest) := by
  simp [quoted]

theorem length_lt_quoted (s : String) : s.toList.length + 1 < (quoted s).length := by
  have := length_le_flatMap_escape s.toList
  simp only [quoted, List.length_append, List.length_cons, List.length_nil]
  omega

/-! ### What is read -/

section

variable (parse : List Char → Double)

mutual
/-- **What a reader gets of a document:** the document, with the doubles that their texts stand for.
Infinities and NaNs have no text but that of nothing. -/
def reread : Json → Json
  | null => null
  | bool b => bool b
  | integer n => integer n
  | number x => if x.isFinite then number (parse (doubleText x)) else null
  | text s => text s
  | array items => array (rereadItems items)
  | object members => object (rereadMembers members)

/-- What a reader gets of items. -/
def rereadItems : List Json → List Json
  | [] => []
  | item :: items => reread item :: rereadItems items

/-- What a reader gets of members. -/
def rereadMembers : List (String × Json) → List (String × Json)
  | [] => []
  | (key, value) :: members => (key, reread value) :: rereadMembers members
end

end

/-! ### Reading -/

variable {parse : List Char → Double} {n : Nat} {cs rest : List Char}

/-- No number goes on with the text. -/
def Ends (rest : List Char) : Prop := ∀ c, rest.head? = some c → ¬ isNumeric c

theorem ends_cons {c : Char} (h : ¬ isNumeric c) : Ends (c :: rest) := fun _ hc =>
  Option.some.inj hc ▸ h

theorem skipBlanks_cons {c : Char} (h : isNumeric c) : skipBlanks (c :: cs) = c :: cs := by
  have hblank : ¬ (c == ' ' || c == '\t' || c == '\n' || c == '\r') := by
    simp only [Bool.or_eq_true, beq_iff_eq]
    rintro (((rfl | rfl) | rfl) | rfl) <;> exact absurd h (by decide)
  exact List.dropWhile_cons_of_neg hblank

/-- A number is what its token stands for. -/
theorem value?_number (hne : cs ≠ []) (hcs : ∀ c ∈ cs, isNumeric c) (hrest : Ends rest) :
    value? parse (n + 1) (cs ++ rest) = (numberOf parse cs).map (·, rest) := by
  obtain ⟨htake, hdrop⟩ := span_append hcs hrest
  obtain ⟨c, cs, rfl⟩ := List.exists_cons_of_ne_nil hne
  have hc : isNumeric c := hcs c List.mem_cons_self
  rw [List.cons_append] at htake hdrop ⊢
  -- quotes and brackets are not written in numbers
  have hne (d : Char) (hd : ¬ isNumeric d) : c ≠ d := fun h => hd (h ▸ hc)
  rw [value?, skipBlanks_cons hc]
  dsimp only
  rw [if_neg (hne _ (by decide)), if_neg (hne _ (by decide)), if_neg (hne _ (by decide)),
    if_pos hc, htake, hdrop]
  cases numberOf parse (c :: cs) <;> rfl

theorem integerText_ne_nil (i : Int) : integerText i ≠ [] := by
  rw [integerText_eq]
  exact List.append_ne_nil_of_right_ne_nil _ (by simp [digitsOf_ne_nil])

theorem doubleText_ne_nil {x : Double} (hx : x.isFinite) : doubleText x ≠ [] := by
  obtain ⟨negative, cs, ⟨whole, tail, rfl, -, htail⟩, heq⟩ := doubleText_eq hx
  rw [heq]
  exact List.append_ne_nil_of_right_ne_nil _ (List.append_ne_nil_of_right_ne_nil _ htail)

/-- A document does not begin with a blank or with the end of an array. -/
theorem head_chars (j : Json) : ∃ c cs, chars j = c :: cs ∧
    (∀ rest, skipBlanks (c :: rest) = c :: rest) ∧ c ≠ ']' := by
  have hnumber {cs : List Char} (hne : cs ≠ []) (hcs : ∀ c ∈ cs, isNumeric c) :
      ∃ c cs', cs = c :: cs' ∧ (∀ rest, skipBlanks (c :: rest) = c :: rest) ∧ c ≠ ']' := by
    obtain ⟨c, cs, rfl⟩ := List.exists_cons_of_ne_nil hne
    have hc : isNumeric c := hcs c List.mem_cons_self
    exact ⟨c, cs, rfl, fun rest => skipBlanks_cons hc, fun h => absurd (h ▸ hc) (by decide)⟩
  match j with
  | null => exact ⟨'n', _, rfl, fun _ => rfl, by decide⟩
  | bool true => exact ⟨'t', _, rfl, fun _ => rfl, by decide⟩
  | bool false => exact ⟨'f', _, rfl, fun _ => rfl, by decide⟩
  | integer i => exact hnumber (integerText_ne_nil i) (isNumeric_integerText i)
  | number x =>
    by_cases hx : x.isFinite
    · exact hnumber (doubleText_ne_nil hx) (isNumeric_doubleText hx)
    · exact ⟨'n', _, doubleText_of_not_isFinite hx, fun _ => rfl, by decide⟩
  | text s => exact ⟨'"', _, rfl, fun _ => rfl, by decide⟩
  | array items => exact ⟨'[', _, rfl, fun _ => rfl, by decide⟩
  | object members => exact ⟨'\x7b', _, rfl, fun _ => rfl, by decide⟩

theorem head_itemChars (item : Json) (items : List Json) : ∃ c cs,
    itemChars (item :: items) = c :: cs ∧ (∀ rest, skipBlanks (c :: rest) = c :: rest) ∧
      c ≠ ']' := by
  obtain ⟨c, cs, hcs, hc⟩ := head_chars item
  cases items with
  | nil => exact ⟨c, cs, hcs, hc⟩
  | cons next items =>
    refine ⟨c, cs ++ ',' :: itemChars (next :: items), ?_, hc⟩
    rw [itemChars, hcs]
    rfl

theorem head_memberChars : ∀ (m : String × Json) (ms : List (String × Json)),
    ∃ cs, memberChars (m :: ms) = '"' :: cs
  | _, [] => ⟨_, rfl⟩
  | _, _ :: _ => ⟨_, rfl⟩

/-! ### Steps of the reader -/

theorem value?_null : ∀ {n : Nat}, 4 ≤ n →
    value? parse n ("null".toList ++ rest) = some (null, rest)
  | _ + 1, _ => rfl

theorem value?_text {s : String} (hn : s.toList.length < n) :
    value? parse (n + 1) (quoted s ++ rest) = some (text s, rest) := by
  have h : value? parse (n + 1) ('"' :: (s.toList.flatMap escape ++ '"' :: rest)) =
      (characters? n (s.toList.flatMap escape ++ '"' :: rest)).bind fun r =>
        some (text (String.ofList r.1), r.2) := rfl
  rw [quoted_append, h, characters?_flatMap_escape rest s.toList hn, Option.bind_some,
    String.ofList_toList]

theorem value?_array {items : List Json} {c : Char} (hskip : skipBlanks (c :: cs) = c :: cs)
    (hc : c ≠ ']') (h : items? parse n (c :: cs) = some (items, rest)) :
    value? parse (n + 1) ('[' :: c :: cs) = some (array items, rest) := by
  have hstep : value? parse (n + 1) ('[' :: c :: cs) =
      if (skipBlanks (c :: cs)).head? = some ']' then
        some (array [], (skipBlanks (c :: cs)).tail)
      else (items? parse n (c :: cs)).bind fun r => some (array r.1, r.2) := rfl
  rw [hstep, hskip, if_neg (by simpa using hc), h, Option.bind_some]

theorem value?_object {members : List (String × Json)}
    (h : members? parse n ('"' :: cs) = some (members, rest)) :
    value? parse (n + 1) ('\x7b' :: '"' :: cs) = some (object members, rest) := by
  have hstep : value? parse (n + 1) ('\x7b' :: '"' :: cs) =
      (members? parse n ('"' :: cs)).bind fun r => some (object r.1, r.2) := rfl
  rw [hstep, h, Option.bind_some]

theorem items?_last {item : Json} (h : value? parse n cs = some (item, ']' :: rest)) :
    items? parse (n + 1) cs = some ([item], rest) := by
  rw [items?, h]
  rfl

theorem items?_more {item : Json} {items : List Json} {more : List Char}
    (h : value? parse n cs = some (item, ',' :: more))
    (hmore : items? parse n more = some (items, rest)) :
    items? parse (n + 1) cs = some (item :: items, rest) := by
  rw [items?, h]
  show (items? parse n more).bind (fun r => some (item :: r.1, r.2)) = _
  rw [hmore, Option.bind_some]

theorem key?_quoted {key : String} (hn : key.toList.length < n) :
    key? n (quoted key ++ ':' :: rest) = some (key, rest) := by
  have hopen (cs : List Char) : skipBlanks ('"' :: cs) = '"' :: cs := rfl
  have hcolon (cs : List Char) : skipBlanks (':' :: cs) = ':' :: cs := rfl
  rw [quoted_append, key?, hopen]
  simp only [characters?_flatMap_escape _ key.toList hn, Option.bind_eq_bind, Option.bind_some,
    hcolon, String.ofList_toList]
  rfl

section Member

variable {key : String} {value : Json} (hn : key.toList.length < n)
include hn

theorem members?_last (h : value? parse n cs = some (value, '\x7d' :: rest)) :
    members? parse (n + 1) (quoted key ++ ':' :: cs) = some ([(key, value)], rest) := by
  rw [members?, key?_quoted hn, Option.bind_eq_bind, Option.bind_some]
  dsimp only
  rw [h]
  rfl

theorem members?_more {members : List (String × Json)} {more : List Char}
    (h : value? parse n cs = some (value, ',' :: more))
    (hmore : members? parse n more = some (members, rest)) :
    members? parse (n + 1) (quoted key ++ ':' :: cs) = some ((key, value) :: members, rest) := by
  rw [members?, key?_quoted hn, Option.bind_eq_bind, Option.bind_some]
  dsimp only
  rw [h]
  show (members? parse n more).bind (fun r => some ((key, value) :: r.1, r.2)) = _
  rw [hmore, Option.bind_some]

end Member

mutual
/-- **A document is read back** if no number goes on with what stands behind it. -/
theorem value?_chars : ∀ (j : Json) {n : Nat} {rest : List Char}, (chars j).length ≤ n →
    Ends rest → value? parse n (chars j ++ rest) = some (reread parse j, rest)
  | null, n + 4, rest, hn, hrest => rfl
  | bool true, n + 4, rest, hn, hrest => rfl
  | bool false, n + 5, rest, hn, hrest => rfl
  | integer i, n, rest, hn, hrest => by
    have hne := integerText_ne_nil i
    obtain ⟨n, rfl⟩ := Nat.exists_eq_add_one_of_ne_zero
      ((List.length_pos_of_ne_nil hne).trans_le hn).ne'
    show value? parse (n + 1) (integerText i ++ rest) = _
    rw [value?_number hne (isNumeric_integerText i) hrest, numberOf_integerText]
    rfl
  | number x, n, rest, hn, hrest => by
    change (doubleText x).length ≤ n at hn
    show value? parse n (doubleText x ++ rest) = _
    by_cases hx : x.isFinite
    · have hne := doubleText_ne_nil hx
      obtain ⟨n, rfl⟩ := Nat.exists_eq_add_one_of_ne_zero
        ((List.length_pos_of_ne_nil hne).trans_le hn).ne'
      rw [value?_number hne (isNumeric_doubleText hx) hrest, numberOf_doubleText parse hx, reread,
        if_pos hx]
      rfl
    · rw [doubleText_of_not_isFinite hx] at hn ⊢
      rw [value?_null hn, reread, if_neg hx]
  | text s, n + 1, rest, hn, hrest =>
    value?_text (Nat.lt_of_succ_lt_succ ((length_lt_quoted s).trans_le hn))
  | array [], n + 2, rest, hn, hrest => rfl
  | array (item :: items), n + 1, rest, hn, hrest => by
    have hlength : (itemChars (item :: items)).length < n := by
      rw [chars_array, List.length_cons, List.length_append, List.length_singleton] at hn
      omega
    have hitems := @items?_itemChars (item :: items) (List.cons_ne_nil _ _) n rest hlength
    obtain ⟨c, cs, hcs, hskip, hc⟩ := head_itemChars item items
    rw [chars_array, List.cons_append, List.append_assoc, List.singleton_append]
    rw [hcs, List.cons_append] at hitems ⊢
    exact value?_array (hskip _) hc hitems
  | object [], n + 2, rest, hn, hrest => rfl
  | object (m :: ms), n + 1, rest, hn, hrest => by
    have hlength : (memberChars (m :: ms)).length < n := by
      rw [chars_object, List.length_cons, List.length_append, List.length_singleton] at hn
      omega
    have hmembers := @members?_memberChars (m :: ms) (List.cons_ne_nil _ _) n rest hlength
    obtain ⟨cs, hcs⟩ := head_memberChars m ms
    rw [chars_object, List.cons_append, List.append_assoc, List.singleton_append]
    rw [hcs, List.cons_append] at hmembers ⊢
    exact value?_object hmembers

theorem items?_itemChars : ∀ items : List Json, items ≠ [] → ∀ {n : Nat} {rest : List Char},
    (itemChars items).length < n →
      items? parse n (itemChars items ++ ']' :: rest) = some (rereadItems parse items, rest)
  | [], h, _, _, _ => absurd rfl h
  | [item], _, n + 1, rest, hn =>
    items?_last (value?_chars item (Nat.le_of_lt_succ hn) (ends_cons (by decide)))
  | item :: next :: items, _, n + 1, rest, hn => by
    rw [itemChars, List.length_append, List.length_cons] at hn
    rw [itemChars, List.append_assoc]
    exact items?_more (value?_chars item (by omega) (ends_cons (by decide)))
      (items?_itemChars (next :: items) (List.cons_ne_nil _ _) (by omega))

theorem members?_memberChars : ∀ members : List (String × Json), members ≠ [] →
    ∀ {n : Nat} {rest : List Char}, (memberChars members).length < n →
      members? parse n (memberChars members ++ '\x7d' :: rest) =
        some (rereadMembers parse members, rest)
  | [], h, _, _, _ => absurd rfl h
  | [(key, value)], _, n + 1, rest, hn => by
    have hkey := length_lt_quoted key
    rw [memberChars, List.length_append, List.length_cons] at hn
    rw [memberChars, List.append_assoc]
    exact members?_last (by omega) (value?_chars value (by omega) (ends_cons (by decide)))
  | (key, value) :: next :: ms, _, n + 1, rest, hn => by
    have hkey := length_lt_quoted key
    rw [memberChars] at hn ⊢
    simp only [List.length_append, List.length_cons] at hn
    rw [List.append_assoc, List.cons_append, List.append_assoc]
    exact members?_more (by omega) (value?_chars value (by omega) (ends_cons (by decide)))
      (members?_memberChars (next :: ms) (List.cons_ne_nil _ _) (by omega))
end

/-- **A document is one line, and a reader gets it back.** Nothing in its text is below the space.
Whatever `parse` makes of the texts of doubles, what is read has the same structure, the same keys
in their order, the same texts and the same integers. -/
theorem read_render (parse : List Char → Double) (j : Json) :
    (∀ c ∈ (render j).toList, IsPrintable c) ∧ read parse (render j) = some (reread parse j) := by
  have htext : (render j).toList = chars j := String.toList_ofList
  refine ⟨htext ▸ isPrintable_chars j, ?_⟩
  have hread := @value?_chars parse j _ [] le_rfl nofun
  rw [List.append_nil] at hread
  rw [read, htext, hread]
  rfl

/-- A text that closes its quotes and goes on with another member stays a text. -/
example : render (.object [("note", .text "\",\"admin\":true,\n\x01")]) =
    "\x7b\"note\":\"\\\",\\\"admin\\\":true,\\n\\u0001\"\x7d" := by decide +kernel

end Redaction.Json
