import Redaction.Proofs.Literals
import Redaction.Proofs.StrictMasks

/-!
# Literals in emitted code

Every field of a message has an insertion somewhere in the code of its implementation (`Occurs`),
whose key is the literal of the field's key. If the field is redacted, the inserted value is the
code of its mask (`MaskCode`): a literal that is read as the mask, or null for a number that has no
literal.

* `maskCode_ofMask`: the code of a constant, mask by mask.
* `emit_literals`: every key and every mask of a message is in its code and means what it is.
-/

namespace Redaction

open Schema Code Token Number

/-! ### Literals -/

/-- **The word is a literal of the text:** it is read as the text, whatever stands behind it, and no
line ends in it. -/
structure IsTextLiteral (word text : String) : Prop where
  reads : ∀ rest, Literal.Read.text? (word.toList ++ rest) = some (text, rest)
  line : '\n' ∉ word.toList ∧ '\r' ∉ word.toList

/-- **The tokens are a literal of the integer,** which their type has. -/
structure IsIntegerLiteral (ts : List Token) (type : IntegerType) (n : Int) : Prop where
  reads : Literal.Read.integer? ts = some (type, n)
  holds : Literal.Read.Holds type n

/-- **The tokens are a literal of a finite number:** a decimal with its sign that rounds to it. -/
structure IsFloatLiteral (ts : List Token) (width : FloatWidth) (f : Format) (s : Scaled) :
    Prop where
  reads : ∃ d, Literal.Read.float? ts = some (s.negative, width, d) ∧ d.RoundsTo f s

theorem isTextLiteral_literal (s : String) : IsTextLiteral (Text.Quoted.literal s) s := by
  refine ⟨Literal.text?_literal s, fun h => ?_, fun h => ?_⟩
  · exact absurd (Literal.isVisible_literal s _ h) (by decide)
  · exact absurd (Literal.isVisible_literal s _ h) (by decide)

theorem isIntegerLiteral_integer {type : IntegerType} {n : Int}
    (h : Literal.Read.Holds type n) : IsIntegerLiteral (Literal.integer n type.suffix) type n :=
  ⟨Literal.integer?_integer h, h⟩

/-! ### Masks -/

/-- **The code of a mask.** -/
inductive MaskCode (runtime : Path) : Mask → List Token → Prop
  | text {word s : String} : IsTextLiteral word s →
      MaskCode runtime (.text s) (runtimeCall runtime ["Value", "from"] [.word word])
  | signed {n : Int64} {ts : List Token} : IsIntegerLiteral ts .i64 n.toInt →
      MaskCode runtime (.signed n) (runtimeCall runtime ["Value", "from"] ts)
  | unsigned {n : UInt64} {ts : List Token} : IsIntegerLiteral ts .u64 n.toNat →
      MaskCode runtime (.unsigned n) (runtimeCall runtime ["Value", "from"] ts)
  | enum {n : Int32} {ts : List Token} : IsIntegerLiteral ts .i32 n.toInt →
      MaskCode runtime (.enum n) (runtimeCall runtime ["Value", "from"] ts)
  | single {x : Single} {s : Scaled} {ts : List Token} : x.decode = some s →
      IsFloatLiteral ts .single Number.single s →
      MaskCode runtime (.single x) (runtimeCall runtime ["f32_value"] ts)
  | double {x : Double} {s : Scaled} {ts : List Token} : x.decode = some s →
      IsFloatLiteral ts .double Number.double s →
      MaskCode runtime (.double x) (runtimeCall runtime ["f64_value"] ts)
  | noSingle {x : Single} : ¬ x.isFinite → MaskCode runtime (.single x) (nullTokens runtime)
  | noDouble {x : Double} : ¬ x.isFinite → MaskCode runtime (.double x) (nullTokens runtime)
  | bool (b : Bool) : MaskCode runtime (.bool b)
      (runtimeCall runtime ["Value", "Bool"] [.word (if b then "true" else "false")])
  | null : MaskCode runtime .null (nullTokens runtime)
  | emptyList : MaskCode runtime .emptyList (Constant.emptyArray.tokens runtime)
  | emptyMap : MaskCode runtime .emptyMap (Constant.emptyObject.tokens runtime)

variable {runtime : Path}

theorem maskCode_ofMask (mask : Mask) :
    MaskCode runtime mask ((Constant.ofMask mask).tokens runtime) := by
  cases mask with
  | text s => exact .text (isTextLiteral_literal s)
  | signed n => exact .signed (isIntegerLiteral_integer ⟨Int64.le_toInt n, Int64.toInt_lt n⟩)
  | unsigned n =>
    have hlt := n.toNat_lt
    exact .unsigned (isIntegerLiteral_integer ⟨Int.natCast_nonneg _, by omega⟩)
  | enum n => exact .enum (isIntegerLiteral_integer ⟨Int32.le_toInt n, Int32.toInt_lt n⟩)
  | single x =>
    simp only [Constant.ofMask, Constant.tokens]
    cases hx : x.decode with
    | some s => exact .single hx ⟨Literal.float?_float (by decide) s .single⟩
    | none =>
      have hinfinite : ¬ x.isFinite := by simp [Single.isFinite, hx]
      exact .noSingle hinfinite
  | double x =>
    simp only [Constant.ofMask, Constant.tokens]
    cases hx : x.decode with
    | some s => exact .double hx ⟨Literal.float?_float (by decide) s .double⟩
    | none =>
      have hinfinite : ¬ x.isFinite := by simp [Double.isFinite, hx]
      exact .noDouble hinfinite
  | bool b => exact .bool b
  | null => exact .null
  | emptyList => exact .emptyList
  | emptyMap => exact .emptyMap

/-! ### Insertions -/

/-- The insertion of a value under a key that is written as the given word. -/
def insertion (key : String) (value : List Token) : List Token :=
  words ["object", ".", "insert"] ++
    [parens ([word key] ++ words [".", "into"] ++ [parens [], word ","] ++ value), word ";"]

/-- **The code that inserts a field.** -/
inductive InsertionCode (runtime : Path) (strict : Bool) (f : Field) : List Token → Prop
  | redacted {key : String} {mask : Mask} {value : List Token} : IsTextLiteral key f.jsonName →
      f.resolve strict = .ok (some mask) → MaskCode runtime mask value →
      InsertionCode runtime strict f (insertion key value)
  | plain {key : String} {value : List Token} : IsTextLiteral key f.jsonName →
      f.resolve strict = .ok none → InsertionCode runtime strict f (insertion key value)

variable {required : Requirement} {strict : Bool} {f : Field} {m : Message}

/-- A redacted field is inserted with its mask. -/
theorem insertionCode_of_resolve {o : Option Mask} {e : Expr} (ho : resolveMask strict f = .ok o)
    (he : ∀ mask, o = some mask → e = .constant (.ofMask mask)) :
    InsertionCode runtime strict f (insertTokens runtime f.jsonName e) := by
  have hkey := isTextLiteral_literal f.jsonName
  have hresolve : f.resolve strict = .ok o := mapError_eq_ok.mp ho
  cases o with
  | none => exact .plain hkey hresolve
  | some mask =>
    rw [he mask rfl]
    exact .redacted hkey hresolve (maskCode_ofMask mask)

theorem insertionCode_of_fieldExpr {e : Expr} (h : fieldExpr required strict f = .ok e) :
    InsertionCode runtime strict f (insertTokens runtime f.jsonName e) := by
  obtain ⟨o, ho, h⟩ := bind_eq_ok.mp h
  refine insertionCode_of_resolve ho ?_
  rintro mask rfl
  exact (pure_eq_ok.mp h).symm

theorem insertionCode_of_armOf {a : Arm} (h : armOf required strict f = .ok a) :
    InsertionCode runtime strict f (insertTokens runtime a.key a.value) := by
  have hkey := (armOf_ok h).2.1
  obtain ⟨variant, -, h⟩ := bind_eq_ok.mp h
  obtain ⟨o, ho, h⟩ := bind_eq_ok.mp h
  rw [hkey]
  refine insertionCode_of_resolve ho ?_
  rintro mask rfl
  rw [← pure_eq_ok.mp h]

/-! ### Where insertions occur -/

/-- **The code stands somewhere in the tokens,** maybe in a group. -/
inductive Occurs (code : List Token) : List Token → Prop
  | here {ts : List Token} : code <:+: ts → Occurs code ts
  | parens {inner ts : List Token} : Token.parens inner ∈ ts → Occurs code inner → Occurs code ts
  | braces {inner ts : List Token} : Token.braces inner ∈ ts → Occurs code inner → Occurs code ts

theorem Occurs.mono {code ts ts' : List Token} (h : Occurs code ts) (hts : ts <:+: ts') :
    Occurs code ts' := by
  cases h with
  | here h => exact .here (h.trans hts)
  | parens hi h => exact .parens (hts.subset hi) h
  | braces hi h => exact .braces (hts.subset hi) h

theorem Occurs.flatMap {α : Type} {a : α} {as : List α} {tokens : α → List Token}
    {code : List Token} (h : Occurs code (tokens a)) (ha : a ∈ as) :
    Occurs code (as.flatMap tokens) :=
  h.mono (List.infix_of_mem_flatten (List.mem_map_of_mem ha))

theorem occurs_arm {path : List String} {a : Arm} {code : List Token}
    (h : code = insertTokens runtime a.key a.value) : Occurs code (a.tokens runtime path) := by
  refine .braces ?_ (.here (List.infix_refl _))
  simp [Arm.tokens, h]

/-- Every field that shares a statement has an insertion in it. -/
theorem occurs_statement {st : Statement} {g : Field} (h : IsStatement required strict m f st)
    (hg : g ∈ group m f) : ∃ code, InsertionCode runtime strict g code ∧
      Occurs code (st.tokens runtime) := by
  cases h with
  | field ho he =>
    obtain rfl : g = f := by simpa [group, ho] using hg
    exact ⟨_, insertionCode_of_fieldExpr he, .here (List.infix_refl _)⟩
  | @oneof index name place path arms ho hname hplace harms =>
    have hg : g ∈ membersOf m index := by simpa [group, ho] using hg
    obtain ⟨a, ha, harm⟩ := exists_right_of_mem harms hg
    refine ⟨_, insertionCode_of_armOf harm, ?_⟩
    have harms : Occurs (insertTokens runtime a.key a.value)
        (arms.flatMap (Arm.tokens runtime path) ++ nonePattern ++ [word "=>", braces []]) :=
      (((occurs_arm rfl).flatMap ha).mono (List.prefix_append _ _).isInfix).mono
        (List.prefix_append _ _).isInfix
    exact .braces (by simp [Statement.tokens]) harms

theorem occurs_impl {i : Impl} {st : Statement} {code : List Token} (hst : st ∈ i.body)
    (h : Occurs code (st.tokens runtime)) (log : Option Path) :
    Occurs code (i.tokens runtime log) := by
  have hinner : Occurs code (bindingTokens i.body.isEmpty ++ emptyMapTokens runtime ++ [word ";"] ++
      i.body.flatMap (Statement.tokens runtime) ++
      runtimeCall runtime ["Value", "Object"] [word "object"]) :=
    ((h.flatMap hst).mono (List.suffix_append _ _).isInfix).mono
      (List.prefix_append _ _).isInfix
  have hfunction : Occurs code (functionTokens runtime i.body) :=
    .braces (by simp [functionTokens]) hinner
  exact .braces (by simp [Impl.tokens]) hfunction

/-- **The literals of a message mean what they are made from.** Whatever the runtime library and the
log are, the code of its implementation has an insertion for every field. The key is a literal of
the field's key, and the value of a redacted field is the code of the mask that it is resolved to.
-/
theorem emit_literals {i : Impl} (h : emit required strict m = .ok i) (runtime : Path)
    (log : Option Path) : ∀ f ∈ m.fields, ∃ code, InsertionCode runtime strict f code ∧
      Occurs code (i.tokens runtime log) := by
  intro f hf
  obtain ⟨g, hg, hgroup⟩ := List.mem_flatMap.mp (mem_emitted.mpr hf)
  obtain ⟨st, hst, hstatement⟩ := exists_right_of_mem (emit_ok h) hg
  obtain ⟨code, hcode, hoccurs⟩ : ∃ code, InsertionCode runtime strict f code ∧
      Occurs code (st.tokens runtime) := occurs_statement hstatement hgroup
  exact ⟨code, hcode, occurs_impl hst hoccurs log⟩

/-- A message with a key and a mask of which some characters have to be escaped, and with an integer
that is too large for its field. -/
def label : Message where
  id := .ofReference "l.Label"
  file := "label.proto"
  path := ["Label"]
  nested := []
  oneofs := []
  fields := [
    { name := "text", fullName := "l.Label.text", jsonName := "\"text\n"
      category := .scalar .string
      cardinality := .singular, explicitPresence := false, oneof := none
      rules := some { redact := true, mask := some (.string "\x001\\\u0301") } },
    { name := "size", fullName := "l.Label.size", jsonName := "size"
      category := .scalar (.int .signed32)
      cardinality := .singular, explicitPresence := false, oneof := none
      rules := some { redact := true, mask := some (.int 2147483648) } }]

theorem emit_literals_label : ∃ i, emit ⟨[]⟩ false label = .ok i ∧
    ∀ f ∈ label.fields, ∃ code, InsertionCode (.ofCrate "protoredact") false f code ∧
      Occurs code (i.tokens (.ofCrate "protoredact") none) := by
  have hok : (emit ⟨[]⟩ false label).toOption.isSome := by decide +kernel
  obtain ⟨i, hi⟩ := exists_ok_of_isSome hok
  exact ⟨i, hi, emit_literals hi _ none⟩

end Redaction
