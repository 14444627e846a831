import Redaction.Assembly
import Redaction.Proofs.CodeNames
import Redaction.Proofs.Literals

/-!
# Generated code has printable characters only

What is written for an implementation consists of fixed words, names and literals, and of the paths
that the options give. None of the former has a control character in it, and between them stand
spaces and brackets, so the text of an implementation is one line if these paths have none either
(`isPrintable_text`).
-/

namespace Redaction.Code

open Json (IsPrintable isPrintable_of_isNumeric)
open Number (digitsOf isDigit_of_mem_digitsOf isDigit_of_mem_paddedDigits)

/-! ### Texts -/

/-- **All characters of a text are printable.** -/
def IsShown (s : String) : Prop := ∀ c ∈ s.toList, IsPrintable c

instance (s : String) : Decidable (IsShown s) := List.decidableBAll IsPrintable s.toList

theorem isShown_append {s t : String} (hs : IsShown s) (ht : IsShown t) : IsShown (s ++ t) := by
  unfold IsShown
  rw [String.toList_append]
  exact List.forall_mem_append.mpr ⟨hs, ht⟩

theorem isShown_ofList {cs : List Char} (h : ∀ c ∈ cs, IsPrintable c) :
    IsShown (String.ofList cs) := by
  unfold IsShown
  rwa [String.toList_ofList]

/-- What no control character is makes a character printable. -/
theorem isPrintable_of_controls {p : Char → Bool} {c : Char}
    (hp : ∀ n < 0x20, ¬ p (Char.ofNat n)) (hc : p c) : IsPrintable c := by
  by_contra h
  have hlt : c.toNat < 0x20 := not_le.mp h
  exact hp _ hlt (by rwa [Char.ofNat_toNat])

theorem isShown_of_isIdentifier {s : String} (h : isIdentifier s.toList) : IsShown s := by
  unfold IsShown
  generalize s.toList = cs at h ⊢
  cases cs with
  | nil => exact fun c hc => absurd hc List.not_mem_nil
  | cons c cs =>
    obtain ⟨hc, hcs⟩ := Bool.and_eq_true_iff.mp h
    refine List.forall_mem_cons.mpr ⟨isPrintable_of_controls (by decide) hc, fun d hd => ?_⟩
    exact isPrintable_of_controls (by decide) (List.all_eq_true.mp hcs d hd)

theorem IsName.isShown {s : String} (h : IsName s) : IsShown s := by
  cases h with
  | plain h => exact isShown_of_isIdentifier h
  | raw h => exact isShown_append (by decide) (isShown_of_isIdentifier h)

/-- **All words of a path are printable.** -/
def Path.IsShown (p : Path) : Prop := ∀ w ∈ p.words, Code.IsShown w

instance (p : Path) : Decidable p.IsShown := inferInstanceAs (Decidable (∀ w ∈ p.words, IsShown w))

theorem isShown_literal (s : String) : IsShown (Text.Quoted.literal s) := fun _ hc =>
  isPrintable_of_controls (by decide) (Literal.isVisible_literal s _ hc)

/-! ### Tokens -/

namespace Token

mutual
/-- All words of a token are printable. -/
def IsShown : Token → Prop
  | word s => Code.IsShown s
  | parens inner => AreShown inner
  | braces inner => AreShown inner

/-- **All words of a list of tokens are printable.** -/
def AreShown : List Token → Prop
  | [] => True
  | t :: ts => t.IsShown ∧ AreShown ts
end

@[simp] theorem isShown_word {s : String} : (word s).IsShown ↔ Code.IsShown s := by
  rw [IsShown]

@[simp] theorem isShown_parens {inner : List Token} : (parens inner).IsShown ↔ AreShown inner := by
  rw [IsShown]

@[simp] theorem isShown_braces {inner : List Token} : (braces inner).IsShown ↔ AreShown inner := by
  rw [IsShown]

@[simp] theorem areShown_nil : AreShown [] := by
  rw [AreShown]
  trivial

@[simp] theorem areShown_cons {t : Token} {ts : List Token} :
    AreShown (t :: ts) ↔ t.IsShown ∧ AreShown ts := by
  rw [AreShown]

theorem areShown_iff {ts : List Token} : AreShown ts ↔ ∀ t ∈ ts, t.IsShown := by
  induction ts with
  | nil => simp
  | cons t ts ih => simp [ih]

@[simp] theorem areShown_append {ts us : List Token} :
    AreShown (ts ++ us) ↔ AreShown ts ∧ AreShown us := by
  simp only [areShown_iff, List.forall_mem_append]

theorem areShown_flatMap {α : Type} {as : List α} {tokens : α → List Token}
    (h : ∀ a ∈ as, AreShown (tokens a)) : AreShown (as.flatMap tokens) := by
  refine areShown_iff.mpr fun t ht => ?_
  obtain ⟨a, ha, ht⟩ := List.mem_flatMap.mp ht
  exact areShown_iff.mp (h a ha) t ht

theorem areShown_words {ws : List String} (h : ∀ w ∈ ws, Code.IsShown w) : AreShown (words ws) := by
  refine areShown_iff.mpr fun t ht => ?_
  obtain ⟨w, hw, rfl⟩ := List.mem_map.mp ht
  exact isShown_word.mpr (h w hw)

theorem areShown_joined : ∀ {ws : List String}, (∀ w ∈ ws, Code.IsShown w) → AreShown (joined ws)
  | [], _ => areShown_nil
  | [w], h => by simpa [joined] using h w List.mem_cons_self
  | w :: next :: ws, h => by
    obtain ⟨hw, hws⟩ := List.forall_mem_cons.mp h
    have hcolons : Code.IsShown "::" := by decide
    simpa [joined, hw, hcolons] using areShown_joined hws

mutual
/-- What is written for a token has spaces and brackets on top of its words. -/
theorem isPrintable_chars : ∀ {t : Token}, t.IsShown → ∀ c ∈ chars t, IsPrintable c
  | word s, h => isShown_word.mp h
  | parens inner, h => by
    have hinner := isPrintable_listChars (isShown_parens.mp h)
    rw [chars, List.cons_append, List.forall_mem_cons, List.forall_mem_append,
      List.forall_mem_singleton]
    exact ⟨by decide, hinner, by decide⟩
  | braces [], _ => by
    rw [chars]
    exact Json.isPrintable_of_all rfl
  | braces (t :: ts), h => by
    have hinner := isPrintable_listChars (isShown_braces.mp h)
    rw [chars, List.cons_append, List.cons_append, List.forall_mem_cons, List.forall_mem_cons,
      List.forall_mem_append]
    exact ⟨by decide, by decide, hinner, Json.isPrintable_of_all rfl⟩

theorem isPrintable_listChars : ∀ {ts : List Token}, AreShown ts →
    ∀ c ∈ listChars ts, IsPrintable c
  | [], _ => by
    rw [listChars]
    exact fun c hc => absurd hc List.not_mem_nil
  | [t], h => by
    rw [listChars]
    exact isPrintable_chars (areShown_cons.mp h).1
  | t :: next :: ts, h => by
    obtain ⟨ht, hts⟩ := areShown_cons.mp h
    rw [listChars, List.forall_mem_append, List.forall_mem_cons]
    exact ⟨isPrintable_chars ht, by decide, isPrintable_listChars hts⟩
end

end Token

/-! ### Code -/

open Token

theorem areShown_number {magnitude : List Char} {suffix : String} (negative : Bool)
    (hm : ∀ c ∈ magnitude, IsPrintable c) (hs : IsShown suffix) :
    AreShown (Literal.number negative magnitude suffix) := by
  have hminus : IsShown "-" := by decide
  have hword := isShown_append (isShown_ofList hm) hs
  unfold Literal.number
  cases negative <;> simp [hminus, hword]

theorem isPrintable_digitsOf (n : Nat) : ∀ c ∈ digitsOf n, IsPrintable c := fun _ hc =>
  isPrintable_of_isNumeric (Json.isNumeric_of_isDigit (isDigit_of_mem_digitsOf hc))

theorem isPrintable_positional (d : Number.Decimal) : ∀ c ∈ d.positional, IsPrintable c := by
  unfold Number.Decimal.positional
  split_ifs
  · refine List.forall_mem_append.mpr ⟨isPrintable_digitsOf _, fun c hc => ?_⟩
    rw [List.eq_of_mem_replicate hc]
    decide
  · dsimp only
    generalize (-d.exponent).toNat = places
    have hdigits : ∀ c ∈ Number.paddedDigits (places + 1) d.digits, IsPrintable c := fun c hc =>
      isPrintable_of_isNumeric (Json.isNumeric_of_isDigit (isDigit_of_mem_paddedDigits hc))
    rw [List.forall_mem_append, List.forall_mem_cons]
    exact ⟨fun c hc => hdigits c (List.mem_of_mem_take hc), by decide,
      fun c hc => hdigits c (List.mem_of_mem_drop hc)⟩

variable {runtime : Path} (hr : runtime.IsShown)

theorem areShown_path {p : Path} (h : p.IsShown) : AreShown p.tokens := areShown_words h

include hr

theorem areShown_runtimeItem {names : List String} (hn : ∀ n ∈ names, IsShown n) :
    AreShown (runtimeItem runtime names) := by
  have hcolons : IsShown "::" := by decide
  simp [runtimeItem, hcolons, areShown_path hr, areShown_joined hn]

theorem areShown_runtimeCall {names : List String} {arg : List Token}
    (hn : ∀ n ∈ names, IsShown n) (ha : AreShown arg) :
    AreShown (runtimeCall runtime names arg) := by
  simp [runtimeCall, areShown_runtimeItem hr hn, ha]

theorem areShown_constant (c : Constant) : AreShown (c.tokens runtime) := by
  have hnull : AreShown (nullTokens runtime) := areShown_runtimeItem hr (by decide)
  unfold Constant.tokens
  split
  · exact hnull
  · next b => exact areShown_runtimeCall hr (by decide) (by cases b <;> simp <;> decide)
  · next s =>
    exact areShown_runtimeCall hr (by decide) (by simp [Literal.text, isShown_literal])
  · next type n =>
    refine areShown_runtimeCall hr (by decide) (areShown_number _ (isPrintable_digitsOf _) ?_)
    cases type <;> decide
  · split
    · exact areShown_runtimeCall hr (by decide)
        (areShown_number _ (isPrintable_positional _) (by decide))
    · exact hnull
  · split
    · exact areShown_runtimeCall hr (by decide)
        (areShown_number _ (isPrintable_positional _) (by decide))
    · exact hnull
  · refine areShown_runtimeCall hr (by decide) (areShown_append.mpr ⟨?_, by simp⟩)
    exact areShown_words (by decide)
  · exact areShown_runtimeCall hr (by decide) (areShown_runtimeCall hr (by decide) areShown_nil)

omit hr in
theorem areShown_fieldTokens {name : String} (h : IsShown name) : AreShown (fieldTokens name) := by
  exact areShown_words (List.forall_mem_cons.mpr ⟨by decide, List.forall_mem_cons.mpr
    ⟨by decide, List.forall_mem_singleton.mpr h⟩⟩)

omit hr in
theorem areShown_access {a : Access} (h : ∀ n ∈ a.names, IsShown n) :
    AreShown a.reference ∧ AreShown a.copy := by
  cases a with
  | field name =>
    have hname := areShown_fieldTokens (List.forall_mem_singleton.mp h)
    have hamp : IsShown "&" := by decide
    exact ⟨by simp [Access.reference, hamp, hname], hname⟩
  | bound =>
    have hvalue : ∀ w ∈ ["value"], IsShown w := by decide
    exact ⟨areShown_words hvalue, areShown_words (by decide)⟩

theorem areShown_renderer {a : Access} (h : ∀ n ∈ a.names, IsShown n) (r : Renderer) :
    AreShown (r.tokens runtime a) := by
  obtain ⟨href, hcopy⟩ := areShown_access h
  cases r with
  | helper k => cases k <;> exact areShown_runtimeCall hr (by decide) href
  | _ => exact areShown_runtimeCall hr (by decide) (by assumption)

omit hr in
theorem areShown_mapCall {field : String} {closure : List Token} (hf : IsShown field)
    (hc : AreShown closure) : AreShown (mapCall field closure) := by
  simp +decide [mapCall, areShown_fieldTokens hf, hc]

omit hr in
theorem areShown_somePattern {inner : List Token} (h : AreShown inner) :
    AreShown (somePattern inner) := by
  simp +decide [somePattern, words, h]

omit hr in
theorem areShown_nonePattern : AreShown nonePattern := areShown_words (by decide)

theorem areShown_expr {e : Expr} (h : ∀ n ∈ e.names, IsShown n) : AreShown (e.tokens runtime) := by
  have hbound (r : Renderer) : AreShown (r.tokens runtime .bound) :=
    areShown_renderer hr (by simp [Access.names]) r
  cases e with
  | constant c => exact areShown_constant hr c
  | render r a => exact areShown_renderer hr h r
  | items field r =>
    have hfield := List.forall_mem_singleton.mp h
    have hclosure : AreShown (words ["|", "value", "|"] ++ r.tokens runtime .bound) := by
      simp +decide [words, hbound]
    exact areShown_runtimeCall hr (by decide) (areShown_append.mpr
      ⟨areShown_mapCall hfield hclosure, by simp +decide⟩)
  | entries field r =>
    have hfield := List.forall_mem_singleton.mp h
    have hclosure : AreShown ([word "|"] ++ [parens (words ["key", ",", "value"])] ++ [word "|"] ++
        [parens (words ["key", ","] ++ r.tokens runtime .bound)]) := by
      simp +decide [words, hbound]
    exact areShown_runtimeCall hr (by decide) (areShown_mapCall hfield hclosure)
  | optional field r =>
    have hfield := areShown_fieldTokens (List.forall_mem_singleton.mp h)
    have hnull : AreShown (nullTokens runtime) := areShown_runtimeItem hr (by decide)
    have hsome : AreShown (somePattern [word "value"]) := areShown_somePattern (by simp +decide)
    simp +decide [Expr.tokens, words, hfield, hsome, areShown_nonePattern, hbound, hnull]

theorem areShown_insertTokens {e : Expr} (key : String) (h : ∀ n ∈ e.names, IsShown n) :
    AreShown (insertTokens runtime key e) := by
  simp +decide [insertTokens, words, Literal.text, isShown_literal, areShown_expr hr h]

theorem areShown_arm {a : Arm} {path : List String} (hp : ∀ n ∈ path, IsShown n)
    (h : ∀ n ∈ a.names, IsShown n) : AreShown (a.tokens runtime path) := by
  obtain ⟨hvariant, hvalue⟩ := List.forall_mem_cons.mp h
  have hjoined : AreShown (joined (path ++ [a.variant])) :=
    areShown_joined (List.forall_mem_append.mpr ⟨hp, List.forall_mem_singleton.mpr hvariant⟩)
  have hbinding : IsShown (if a.binds then "value" else "_") := by split_ifs <;> decide
  have hsome : AreShown (somePattern (joined (path ++ [a.variant]) ++
      [parens [word (if a.binds then "value" else "_")]])) :=
    areShown_somePattern (by simp [hjoined, hbinding])
  simp +decide [Arm.tokens, hsome, areShown_insertTokens hr a.key hvalue]

theorem areShown_statement {st : Statement} (h : ∀ n ∈ st.names, IsShown n) :
    AreShown (st.tokens runtime) := by
  cases st with
  | insert key value => exact areShown_insertTokens hr key h
  | choose field path arms =>
    obtain ⟨hnames, harms⟩ := List.forall_mem_append.mp h
    obtain ⟨hfield, hpath⟩ := List.forall_mem_cons.mp hnames
    have harms : AreShown (arms.flatMap (Arm.tokens runtime path)) := areShown_flatMap fun a ha =>
      areShown_arm hr hpath fun n hn => harms n (List.mem_flatMap.mpr ⟨a, ha, hn⟩)
    simp +decide [Statement.tokens, words, areShown_fieldTokens hfield, harms,
      areShown_nonePattern]

theorem areShown_functionTokens {body : List Statement}
    (h : ∀ n ∈ body.flatMap Statement.names, IsShown n) :
    AreShown (functionTokens runtime body) := by
  have hvalue : AreShown (runtimeItem runtime ["Value"]) := areShown_runtimeItem hr (by decide)
  have hmap : AreShown (emptyMapTokens runtime) := areShown_runtimeCall hr (by decide) areShown_nil
  have hobject : AreShown (runtimeCall runtime ["Value", "Object"] [word "object"]) :=
    areShown_runtimeCall hr (by decide) (by simp +decide)
  have hbinding : AreShown (bindingTokens body.isEmpty) := by
    unfold bindingTokens
    cases body.isEmpty <;> exact areShown_words (by decide)
  have hbody : AreShown (body.flatMap (Statement.tokens runtime)) := areShown_flatMap fun st hst =>
    areShown_statement hr fun n hn => h n (List.mem_flatMap.mpr ⟨st, hst, hn⟩)
  simp +decide [functionTokens, words, hvalue, hmap, hobject, hbinding, hbody]

theorem areShown_logFunctionTokens {log : Path} (hl : log.IsShown) :
    AreShown (logFunctionTokens runtime log) := by
  have hlog := areShown_path hl
  have hjson : AreShown (runtimeCall runtime ["slog", "IntoRedactedJson", "redacted_json"]
      [word "self"]) := areShown_runtimeCall hr (by decide) (by simp +decide)
  simp +decide [logFunctionTokens, words, hlog, hjson]

/-- **The tokens of an implementation are printable** if its names are. -/
theorem areShown_impl {i : Impl} {log : Option Path} (hl : ∀ p, log = some p → p.IsShown)
    (h : ∀ n ∈ i.names, IsShown n) : AreShown (i.tokens runtime log) := by
  obtain ⟨htarget, hbody⟩ := List.forall_mem_append.mp h
  have htarget := areShown_joined htarget
  have hredact : AreShown (runtimeItem runtime ["Redact"]) := areShown_runtimeItem hr (by decide)
  have hfunction := areShown_functionTokens hr hbody
  cases log with
  | none => simp +decide [Impl.tokens, htarget, hredact, hfunction]
  | some log =>
    have hl := hl log rfl
    simp +decide [Impl.tokens, words, htarget, hredact, hfunction, areShown_path hl,
      areShown_logFunctionTokens hr hl]

end Redaction.Code

namespace Redaction

open Code Token

/-- **The paths of options are printable.** Of what paths are made of, only the literals among their
generic arguments may have other characters. -/
structure Options.IsShown (o : Options) : Prop where
  runtime : o.runtime.IsShown
  log : ∀ p, o.log = some p → p.IsShown

/-- **The text of an implementation is printable,** so it is one line. -/
theorem isPrintable_text {required : Requirement} {o : Options} {m : Schema.Message} {text : String}
    (ho : o.IsShown) (h : implText required o m = .ok text) :
    ∀ c ∈ text.toList, Json.IsPrintable c := by
  obtain ⟨i, hi, h⟩ := bind_eq_ok.mp h
  rw [← pure_eq_ok.mp h, Impl.text, Token.text, String.toList_ofList]
  have hnames : ∀ n ∈ i.names, Code.IsShown n := fun n hn => (isName_of_emit hi n hn).isShown
  exact isPrintable_listChars (areShown_impl ho.runtime ho.log hnames)

end Redaction
