import Redaction.Code.Evaluation
import Redaction.Proofs.Alignment
import Redaction.Proofs.Keys
import Redaction.Proofs.OrderedTables
import Redaction.Proofs.Overflows

/-!
# Implementations show the documents of messages

What the code of a message type builds is the document of the message (`endsIf_redact?`), or nothing
in a build that ends where the document overflows. This is so provided that the code is that of the
type's message and fits its layout, that the names in the code are distinct (`Tidy`), and that every
message that it renders has code as well (`Generated`).

The proof is an induction on the message. Code sees the fields of a message as views; a view shows
the documents of the values in its slot if those show theirs (`Shows`). From this follow, one after
the other, the value of an expression (`endsIf_accessExpr`), what a statement adds
(`endsIf_statement`) and the object of a body (`endsIf_foldlM_run`).
-/

namespace Redaction.Code

open Schema Wire

/-! ### Programs whose names are distinct -/

/-- Variants of a oneof are distinct, and keys of a map are scalars that maps may have as keys. -/
def isTidyShape : Shape TypeName → Bool
  | .oneof members => decide (members.map (·.name)).Nodup
  | .map _ key _ => Document.isKey key
  | _ => true

/-- **The names in the code and the keys of the object are distinct,** the members of a oneof stand
side by side, and none of them is a map. -/
structure Tidy (m : Message) (layout : Layout TypeName) : Prop where
  places : (layout.fields.map (·.name)).Nodup
  shapes : ∀ w ∈ layout.fields, isTidyShape w.shape
  keys : (m.fields.map (·.jsonName)).Nodup
  order : ((leaders [] m.fields).flatMap (group m)).map (·.jsonName) = m.fields.map (·.jsonName)
  members : ∀ f ∈ m.fields, f.oneof.isSome → f.cardinality ≠ .map

instance (m : Message) (layout : Layout TypeName) : Decidable (Tidy m layout) :=
  decidable_of_iff
    ((layout.fields.map (·.name)).Nodup ∧ (∀ w ∈ layout.fields, isTidyShape w.shape) ∧
      (m.fields.map (·.jsonName)).Nodup ∧
      ((leaders [] m.fields).flatMap (group m)).map (·.jsonName) = m.fields.map (·.jsonName) ∧
      ∀ f ∈ m.fields, f.oneof.isSome → f.cardinality ≠ .map)
    ⟨fun ⟨hp, hs, hk, ho, hm⟩ => ⟨hp, hs, hk, ho, hm⟩,
      fun ⟨hp, hs, hk, ho, hm⟩ => ⟨hp, hs, hk, ho, hm⟩⟩

/-- **The element is rendered by the program itself:** it is a scalar, a well-known message, or one
of a type that needs redaction and has code. -/
def Covers (required : Requirement) (p : Program) (element : ElementType) : Prop :=
  ∀ type, element = .message type → WellKnown.ofName? type = none →
    required.requires type ∧ (p.impl? type).isSome

/-- **The code of a program is generated for its messages.** -/
structure Generated (required : Requirement) (strict : Bool) (message? : TypeName → Option Message)
    (p : Program) : Prop where
  impl : ∀ {type i}, p.impl? type = some i → ∃ m, message? type = some m ∧
    emit required strict m = .ok i ∧ Fits m (p.layout type) ∧ Tidy m (p.layout type) ∧
      ∀ f ∈ m.fields, ¬ f.isRedacted → Covers required p f.category.element

/-- The rows of the message types. -/
def rowsOf (message? : TypeName → Option Message) (p : Program) (type : TypeName) :
    List Document.Row :=
  match message? type with
  | some m => Document.rowsOf m (p.layout type)
  | none => []

variable {p : Program} {rows : TypeName → List Document.Row}

/-! ### Views -/

theorem views_eq_map (slots : List Slot) : p.views slots = slots.map p.view := by
  induction slots with
  | nil => rfl
  | cons s slots ih => rw [Program.views, ih, List.map_cons]

theorem presentAll_eq_map (vs : List Value) : p.presentAll vs = vs.map p.present := by
  induction vs with
  | nil => rfl
  | cons v vs ih => rw [Program.presentAll, ih, List.map_cons]

theorem presentEntries_eq_map (es : List (Datum × Value)) :
    p.presentEntries es = es.map fun e => (mapKey e.1, p.present e.2) := by
  induction es with
  | nil => rfl
  | cons e es ih => rw [Program.presentEntries, ih, List.map_cons]

/-! ### Scalars, well-known messages and masks -/

theorem scalarJson_ofKind (kind : ScalarKind) (d : Datum) :
    (Renderer.ofKind kind).scalarJson d = Document.ofScalar kind d := by
  rcases kind with _ | _ | width | (_ | _) | _ | _ <;> cases d <;> rfl

theorem present_ofKind (kind : ScalarKind) (slots : List Slot) :
    p.present (.message slots) (.ofKind kind) =
      some ((Renderer.ofKind kind).wrappedJson slots) := by
  rcases kind with _ | _ | width | (_ | _) | _ | _ <;> rw [Program.present] <;> rfl

theorem wrappedJson_ofKind (kind : ScalarKind) (slots : List Slot) :
    (Renderer.ofKind kind).wrappedJson slots = Document.ofWellKnown slots (.wrapper kind) := by
  -- a scalar is read off a lone slot; every other list of slots shows as null on both sides
  rcases slots with _ | ⟨s, _ | ⟨t, slots⟩⟩
  · rfl
  · rcases s with _ | (d | _) | _ | _ | _
    case single.datum => exact scalarJson_ofKind kind d
    all_goals rfl
  · rcases s with _ | (_ | _) | _ | _ | _ <;> rfl

/-- A well-known message shows its document, but for a duration that overflows. -/
theorem endsIf_present_ofWellKnown (known : WellKnown) (slots : List Slot) :
    EndsIf (p.overflow = .panics ∧ known = .duration ∧
        (Render.Duration.ofSlots slots).overflows)
      (Document.ofWellKnown slots known) (p.present (.message slots) (.ofWellKnown known)) := by
  cases known with
  | wrapper kind =>
    rw [Renderer.ofWellKnown, present_ofKind, wrappedJson_ofKind]
    exact .gives (by simp)
  | duration =>
    rw [Program.present]
    exact (Render.Duration.endsIf_json? p.overflow _).congr (by simp)
  | _ =>
    rw [Program.present]
    exact .gives (by simp)

theorem json_ofMask (mask : Mask) : (Constant.ofMask mask).json = Document.ofMask mask := by
  cases mask <;> rfl

/-- A redacted field shows its mask, which is the empty form of what is not a scalar. -/
theorem json_ofMask_mask (f : Schema.Field) :
    (Constant.ofMask f.mask).json = Document.ofRedacted f := by
  rw [json_ofMask, Document.ofRedacted, Field.mask]
  cases f.form with
  | scalar kind => rfl
  | _ => cases f.override? <;> rfl

theorem name_mapKey (d : Datum) : (mapKey d).name = Document.keyText d := by cases d <;> rfl

/-! ### Values -/

/-- **The value shows its document** through the renderer of its element, unless it ends the build.
-/
def Shows (required : Requirement) (p : Program) (rows : TypeName → List Document.Row)
    (v : Value) : Prop :=
  ∀ {element : ElementType} {kind : Kind TypeName}, KindFits element kind →
    v.IsOf p.layout kind → Covers required p element →
      EndsIf (p.overflow = .panics ∧ Document.Overflows rows v element)
        (Document.ofValue rows v element) (p.present v (.ofElement required element))

variable {required : Requirement} {strict : Bool} {m : Message} {f : Schema.Field}

/-- A value alone in its slot shows what the slot is to show. -/
theorem endsIf_single {v : Value} {element : ElementType} {kind : Kind TypeName}
    (h : Shows required p rows v) (hk : KindFits element kind) (hv : v.IsOf p.layout kind)
    (hcovers : Covers required p element) :
    EndsIf (p.overflow = .panics ∧ ∃ w ∈ (Slot.single v).parts, Document.Overflows rows w element)
      (Document.ofSlot rows (.single v) element) (p.present v (.ofElement required element)) := by
  rw [Document.ofSlot]
  exact (h hk hv hcovers).congr (by simp [Slot.parts])

/-- Code collects the entries of a map in a table, and the document sorts them. -/
theorem map_mapKey_eq {key : Scalar} {es : List (Datum × Value)} (json : Value → Json)
    (htidy : Document.isKey key) (hkeys : ∀ e ∈ es, key.admits e.1) (hn : (es.map (·.1)).Nodup) :
    Render.map (es.map fun e => (mapKey e.1, json e.2)) = .object
      ((es.map fun e => (Document.keyText e.1, json e.2)).mergeSort fun a b => a.1 ≤ b.1) := by
  rw [Render.map, List.map_map]
  simp only [Function.comp_def, name_mapKey]
  rw [Ordered.ofList_eq_mergeSort]
  rw [List.map_map]
  exact Document.nodup_keyText htidy hkeys hn

/-- **What an expression shows of a field** that is not redacted, if the values of its slot show
their documents. -/
theorem endsIf_accessExpr {views : Views} {bound : Shown} {place : String} {s : Slot}
    {shape : Shape TypeName} (hfit : ShapeFits f shape) (htidy : isTidyShape shape)
    (hs : s.IsOf p.layout shape) (hview : viewOf views place = p.view s)
    (hparts : ∀ v ∈ s.parts, Shows required p rows v)
    (hcovers : Covers required p f.category.element) :
    EndsIf (p.overflow = .panics ∧ ∃ v ∈ s.parts, Document.Overflows rows v f.category.element)
      (Document.ofSlot rows s f.category.element)
      ((accessExpr f place (.ofElement required f.category.element)).eval views bound) := by
  cases hfit with
  | repeated hc hk =>
    cases hs with
    | @repeated vs _ _ hvs =>
      have hitems := EndsIf.mapM fun v hv => hparts v hv hk (hvs v hv) hcovers
      simp only [accessExpr, hc, Expr.eval, hview, Program.view, presentAll_eq_map, List.mapM_map,
        Document.ofSlot, Document.ofItems_eq_map]
      exact hitems.map Json.array
  | map hc hk =>
    cases hs with
    | @map es _ key kind hn hkeys hvs =>
      have hentries := EndsIf.mapM fun e he =>
        (hparts e.2 (List.mem_map_of_mem he) hk (hvs e he) hcovers).map (mapKey e.1, ·)
      simp only [accessExpr, hc, Expr.eval, hview, Program.view, presentEntries_eq_map,
        List.mapM_map, Document.ofSlot, Document.ofEntries_eq_map]
      rw [← map_mapKey_eq (Document.ofValue rows · f.category.element) htidy hkeys hn]
      exact (hentries.map Render.map).congr
        (by simp only [Slot.parts, List.mem_map, exists_exists_and_eq_and])
  | message hc he =>
    simp only [accessExpr, hc, he]
    cases hs with
    | unset =>
      simp only [Expr.eval, hview, Program.view, Document.ofSlot]
      exact .gives (by simp [Slot.parts])
    | @set v _ _ hv =>
      simp only [Expr.eval, hview, Program.view]
      exact endsIf_single (hparts v List.mem_cons_self) (.message _) hv (he ▸ hcovers)
  | explicit hc he hx =>
    simp only [accessExpr, hc, he, if_pos hx]
    cases hs with
    | unset =>
      simp only [Expr.eval, hview, Program.view, Document.ofSlot]
      exact .gives (by simp [Slot.parts])
    | @set v _ _ hv =>
      simp only [Expr.eval, hview, Program.view]
      exact endsIf_single (hparts v List.mem_cons_self) (.scalar _) hv (he ▸ hcovers)
  | implicit hc he hx =>
    simp only [accessExpr, hc, he, if_neg hx]
    cases hs with
    | @implicit v _ _ hv =>
      simp only [Expr.eval, hview, Program.view]
      exact endsIf_single (hparts v List.mem_cons_self) (.scalar _) hv (he ▸ hcovers)

/-! ### Statements -/

theorem insertMember_of_notMem {key : String} {value : Json} {object : List (String × Json)}
    (h : key ∉ object.map (·.1)) :
    Json.insertMember key value object = object ++ [(key, value)] := by
  induction object with
  | nil => rfl
  | cons x object ih =>
    rw [List.map_cons, List.mem_cons, not_or] at h
    rw [Json.insertMember, if_neg (Ne.symm h.1), ih h.2, List.cons_append]

/-- The view of a field is found under the name that the field has in code. -/
def Sees (p : Program) (views : Views) (w : Wire.Field TypeName) (s : Slot) : Prop :=
  views.find? (·.1.name == w.name) = some (w, p.view s)

theorem Sees.viewOf {views : Views} {w : Wire.Field TypeName} {s : Slot} (h : Sees p views w s) :
    viewOf views w.name = p.view s := by
  rw [Code.viewOf, h, Option.map_some, Option.getD_some]

/-- **What the expression of a field shows:** its mask, or what is in its slot. -/
theorem endsIf_fieldExpr {views : Views} {bound : Shown} {e : Expr} {w : Wire.Field TypeName}
    {s : Slot} (he : fieldExpr required strict f = .ok e) (hname : w.name = codeName f.name)
    (hfit : ShapeFits f w.shape) (htidy : isTidyShape w.shape) (hs : s.IsOf p.layout w.shape)
    (hsees : Sees p views w s)
    (hparts : ∀ v ∈ s.parts, Shows required p rows v)
    (hcovers : ¬ f.isRedacted → Covers required p f.category.element) :
    EndsIf (p.overflow = .panics ∧ Document.RowOverflows rows s (.field f))
      (if f.isRedacted then Document.ofRedacted f
        else Document.ofSlot rows s f.category.element)
      (e.eval views bound) := by
  rw [Document.rowOverflows_field_iff]
  rcases fieldExpr_ok he with ⟨hr, rfl⟩ | ⟨hr, place, hp, rfl⟩
  · rw [if_pos hr, Expr.eval, json_ofMask_mask]
    exact .gives (by simp [hr])
  · have hview := hsees.viewOf
    rw [hname, codeName, hp, Option.getD_some] at hview
    rw [if_neg hr]
    exact (endsIf_accessExpr hfit htidy hs hview hparts (hcovers hr)).congr (by simp [hr])

/-- What an alternative shows. -/
theorem endsIf_arm {views : Views} {a : Arm} {member : Member TypeName} {v : Value}
    (ha : armOf required strict f = .ok a) (hfit : MemberFits f member)
    (hv : v.IsOf p.layout member.kind) (hmap : f.cardinality ≠ .map)
    (hshows : Shows required p rows v)
    (hcovers : ¬ f.isRedacted → Covers required p f.category.element) :
    EndsIf (p.overflow = .panics ∧ ¬ f.isRedacted ∧
        Document.Overflows rows v f.category.element)
      (if f.isRedacted then Document.ofRedacted f
        else Document.ofValue rows v f.category.element)
      (a.value.eval views (p.present v)) := by
  rw [(armOf_ok ha).2.2]
  by_cases hr : f.isRedacted
  · rw [if_pos hr, if_pos hr, Expr.eval, json_ofMask_mask]
    exact .gives (by simp [hr])
  · rw [if_neg hr, if_neg hr, Expr.eval]
    exact (hshows (hfit.kind hmap) hv (hcovers hr)).congr (by simp [hr])

/-- Alternatives have the variants of the members that they stand for. -/
theorem variants_eq_names {fs : List Schema.Field} {arms : List Arm}
    {members : List (Member TypeName)}
    (harms : List.Forall₂ (fun g a => armOf required strict g = .ok a) fs arms)
    (hfits : List.Forall₂ MemberFits fs members) :
    arms.map (·.variant) = members.map (·.name) := by
  induction harms generalizing members with
  | nil => cases hfits; rfl
  | cons ha _ ih =>
    cases hfits with
    | cons hx hfits =>
      rw [List.map_cons, List.map_cons, ih hfits, hx.name, codeTypeName, (armOf_ok ha).1,
        Option.getD_some]

/-- The member with a number is the alternative under that number. -/
theorem exists_alternative {fs : List Schema.Field} {members : List (Member TypeName)}
    {number : Nat} {member : Member TypeName} (hfits : List.Forall₂ MemberFits fs members)
    (hm : members.find? (·.number == number) = some member) :
    ∃ g ∈ fs, MemberFits g member ∧
      ((members.map (·.number)).zip fs).lookup number = some g := by
  induction hfits with
  | nil => cases hm
  | @cons g x fs members hx _ ih =>
    rw [List.map_cons, List.zip_cons_cons, List.lookup_cons]
    rw [List.find?_cons] at hm
    by_cases hnum : x.number = number
    · rw [beq_iff_eq.mpr hnum, Option.some.injEq] at hm
      subst hm
      exact ⟨g, List.mem_cons_self, hx, by rw [beq_iff_eq.mpr hnum.symm]⟩
    · rw [beq_eq_false_iff_ne.mpr hnum] at hm
      obtain ⟨h, hh, hfit, hlookup⟩ := ih hm
      exact ⟨h, List.mem_cons_of_mem _ hh, hfit, by
        rw [beq_eq_false_iff_ne.mpr (Ne.symm hnum)]; exact hlookup⟩

/-- **The statement of a oneof** adds the member of the alternative that is set, if one is. -/
theorem endsIf_choose {views : Views} {place : Nat} {path : List String} {arms : List Arm}
    {members : List (Member TypeName)} {w : Wire.Field TypeName} {s : Slot}
    {object : List (String × Json)}
    (harms : List.Forall₂ (fun g a => armOf required strict g = .ok a) (membersOf m place) arms)
    (hfits : List.Forall₂ MemberFits (membersOf m place) members)
    (hshape : w.shape = .oneof members) (htidy : isTidyShape w.shape)
    (hs : s.IsOf p.layout w.shape) (hsees : Sees p views w s)
    (hparts : ∀ v ∈ s.parts, Shows required p rows v)
    (hmaps : ∀ g ∈ membersOf m place, g.cardinality ≠ .map)
    (hcovers : ∀ g ∈ membersOf m place, ¬ g.isRedacted →
      Covers required p g.category.element)
    (hkeys : ∀ g ∈ membersOf m place, g.jsonName ∉ object.map (·.1)) :
    EndsIf (p.overflow = .panics ∧ Document.RowOverflows rows s
        (.oneof ((members.map (·.number)).zip (membersOf m place))))
      (object ++ Document.ofChoice rows s ((members.map (·.number)).zip (membersOf m place)))
      ((Statement.choose w.name path arms).run views object) := by
  rw [hshape] at hs htidy
  rw [Statement.run, armFor, hsees]
  cases hs with
  | unchosen =>
    simp only [Program.view, Document.ofChoice, List.append_nil]
    exact .gives fun hends => Document.not_rowOverflows_unchosen _ hends.2
  | @member v n _ kind hkind hv =>
    rw [Shape.memberKind?, Option.map_eq_some_iff] at hkind
    obtain ⟨member, hfind, rfl⟩ := hkind
    obtain ⟨g, hg, hfit, hlookup⟩ := exists_alternative hfits hfind
    obtain ⟨a, hmem, ha⟩ := exists_right_of_mem harms hg
    have hvariants : (arms.map (·.variant)).Nodup := by
      rw [variants_eq_names harms hfits]
      exact of_decide_eq_true htidy
    have harm : arms.find? (·.variant == member.name) = some a := by
      rw [hfit.name, codeTypeName, (armOf_ok ha).1]
      exact find?_eq_some_of_nodup hvariants hmem
    have hvalue : EndsIf _ _ (a.value.eval views (p.present v)) :=
      endsIf_arm ha hfit hv (hmaps g hg) (hparts v List.mem_cons_self) (hcovers g hg)
    simp only [Program.view, variantOf, hshape, hfind, harm, Option.map_some, Option.bind_some,
      Document.ofChoice, hlookup, (armOf_ok ha).2.1, Document.rowOverflows_oneof_iff hlookup]
    rw [← insertMember_of_notMem (hkeys g hg)]
    exact hvalue.map (Json.insertMember g.jsonName · object)

/-! ### Bodies -/

/-- The code finds the view of the field, and what is in its slot shows as it should. -/
structure Ready (required : Requirement) (p : Program) (rows : TypeName → List Document.Row)
    (views : Views) (r : Wire.Field TypeName × Slot) : Prop where
  tidy : isTidyShape r.1.shape
  sees : Sees p views r.1 r.2
  shows : ∀ v ∈ r.2.parts, Shows required p rows v

/-- The rows of a message have the keys of the fields that stand for them. -/
theorem keys_rowOf {w : Wire.Field TypeName} (h : RowFits m f w) :
    (Document.rowOf m f w).keys = (group m f).map (·.jsonName) := by
  cases h with
  | field ho hname hfit => simp [Document.rowOf, group, ho, Document.Row.keys]
  | @oneof place members ho hname hshape hfits =>
    simp only [Document.rowOf, group, ho, hshape, Document.Row.keys]
    have hlength : (membersOf m place).length ≤ (members.map (·.number)).length := by
      rw [List.length_map, hfits.length_eq]
    conv_rhs => rw [← List.map_snd_zip hlength, List.map_map]
    rfl

/-- What is known of the fields of a message whose code is generated. -/
structure Sound (required : Requirement) (p : Program) (m : Message) : Prop where
  maps : ∀ f ∈ m.fields, f.oneof.isSome → f.cardinality ≠ .map
  covers : ∀ f ∈ m.fields, ¬ f.isRedacted → Covers required p f.category.element

/-- **A statement adds the members of its row.** -/
theorem endsIf_statement {views : Views} {st : Statement} {r : Wire.Field TypeName × Slot}
    {object : List (String × Json)} (hm : Sound required p m) (hf : f ∈ m.fields)
    (hst : IsStatement required strict m f st) (hfit : RowFits m f r.1)
    (hs : r.2.IsOf p.layout r.1.shape) (hr : Ready required p rows views r)
    (hkeys : ∀ g ∈ group m f, g.jsonName ∉ object.map (·.1)) :
    EndsIf (p.overflow = .panics ∧ Document.RowOverflows rows r.2 (Document.rowOf m f r.1))
      (object ++ Document.members rows [r.2] [Document.rowOf m f r.1])
      (st.run views object) := by
  cases hfit with
  | field ho hname hfit =>
    cases hst with
    | oneof ho' => rw [ho] at ho'; cases ho'
    | @field e _ he =>
      have hrow : Document.rowOf m f r.1 = .field f := by rw [Document.rowOf, ho]
      have hvalue : EndsIf _ _ (e.eval views fun _ => some .null) :=
        endsIf_fieldExpr he hname hfit hr.tidy hs hr.sees hr.shows (hm.covers f hf)
      rw [hrow, Statement.run, Document.members, Document.members,
        ← insertMember_of_notMem (hkeys f (by rw [group, ho]; exact List.mem_cons_self))]
      exact hvalue.map (Json.insertMember f.jsonName · object)
  | @oneof place members ho hname hshape hfits =>
    cases hst with
    | field ho' => rw [ho] at ho'; cases ho'
    | @oneof index name place' path arms ho' hn hp harms =>
      rw [ho, Option.some.injEq] at ho'
      subst ho'
      rw [hn, Option.getD_some, codeName, hp, Option.getD_some] at hname
      have hrow : Document.rowOf m f r.1 =
          .oneof ((members.map (·.number)).zip (membersOf m place)) := by
        rw [Document.rowOf, ho, hshape]
      have hmem {g : Schema.Field} (hg : g ∈ membersOf m place) :
          g ∈ m.fields ∧ g.oneof.isSome := by
        obtain ⟨hg, ho⟩ := mem_membersOf.mp hg
        exact ⟨hg, by rw [ho]; rfl⟩
      rw [hrow, ← hname, Document.members, Document.members, List.append_nil]
      exact endsIf_choose harms hfits hshape hr.tidy hs hr.sees hr.shows
        (fun g hg => hm.maps g (hmem hg).1 (hmem hg).2) (fun g hg => hm.covers g (hmem hg).1)
        (fun g hg => hkeys g (by rwa [group, ho]))

/-- **A body adds the members of the message,** if all their keys are new and distinct. -/
theorem endsIf_foldlM_run {views : Views} (hm : Sound required p m) {fs : List Schema.Field}
    {body : List Statement} {rs : List (Wire.Field TypeName × Slot)} {object : List (String × Json)}
    (hsts : List.Forall₂ (IsStatement required strict m) fs body)
    (hfits : List.Forall₂ (fun f r => RowFits m f r.1 ∧ r.2.IsOf p.layout r.1.shape) fs rs)
    (hfs : ∀ f ∈ fs, f ∈ m.fields) (hrs : ∀ r ∈ rs, Ready required p rows views r)
    (hn : (object.map (·.1) ++ (fs.flatMap (group m)).map (·.jsonName)).Nodup) :
    EndsIf (p.overflow = .panics ∧ Document.RowsOverflow rows (rs.map (·.2))
        (List.zipWith (Document.rowOf m) fs (rs.map (·.1))))
      (object ++ Document.members rows (rs.map (·.2))
        (List.zipWith (Document.rowOf m) fs (rs.map (·.1))))
      (body.foldlM (Statement.run views) object) := by
  induction hsts generalizing rs object with
  | nil =>
    cases hfits
    simp only [List.map_nil, Document.members, List.append_nil]
    exact .gives fun hends => Document.not_rowsOverflow_nil _ hends.2
  | @cons f st fs body hst hsts ih =>
    cases hfits with
    | @cons _ r _ rs hr hfits =>
      obtain ⟨hfit, hs⟩ := hr
      rw [List.flatMap_cons, List.map_append] at hn
      have hkeys : ∀ g ∈ group m f, g.jsonName ∉ object.map (·.1) := fun g hg hk =>
        (List.nodup_append.mp hn).2.2 _ hk _
          (List.mem_append_left _ (List.mem_map_of_mem hg)) rfl
      have hrun := endsIf_statement hm (hfs f List.mem_cons_self) hst hfit hs
        (hrs r List.mem_cons_self) hkeys
      have hrow : ((Document.members rows [r.2] [Document.rowOf m f r.1]).map (·.1)).Sublist
          ((group m f).map (·.jsonName)) := by
        rw [← keys_rowOf hfit, ← List.flatMap_singleton Document.Row.keys]
        exact Document.keys_members [r.2] [Document.rowOf m f r.1]
      -- what the statement wrote are keys of its row, so the keys stay distinct
      have hn' : ((object ++ Document.members rows [r.2] [Document.rowOf m f r.1]).map (·.1) ++
          (fs.flatMap (group m)).map (·.jsonName)).Nodup := by
        rw [List.map_append, List.append_assoc]
        exact hn.sublist ((hrow.append (List.Sublist.refl _)).append_left _)
      have hrest := ih hfits (fun g hg => hfs g (List.mem_cons_of_mem _ hg))
        (fun r hr => hrs r (List.mem_cons_of_mem _ hr)) hn'
      rw [List.append_assoc, ← Document.members_cons] at hrest
      exact (hrun.bind hrest).congr
        (by rw [← and_or_left]; exact and_congr_right fun _ => Document.rowsOverflow_cons_iff.symm)

/-! ### Messages -/

/-- Fields with distinct names find their own views. -/
theorem sees_of_mem_zip {layout : Layout TypeName} {slots : List Slot}
    (hn : (layout.fields.map (·.name)).Nodup) (hlength : slots.length = layout.fields.length)
    {r : Wire.Field TypeName × Slot} (hr : r ∈ layout.fields.zip slots) :
    Sees p (layout.fields.zip (slots.map p.view)) r.1 r.2 := by
  have hkeys : ((layout.fields.zip (slots.map p.view)).map (·.1.name)).Nodup := by
    have hle : layout.fields.length ≤ (slots.map p.view).length := by
      rw [List.length_map, hlength]
    rw [← List.map_fst_zip hle, List.map_map] at hn
    exact hn
  refine find?_eq_some_of_nodup (a := (r.1, p.view r.2)) hkeys ?_
  rw [List.zip_map_right]
  exact List.mem_map.mpr ⟨r, hr, rfl⟩

variable {message? : TypeName → Option Message}

/-- The code of a type builds the document of a message whose values show theirs. -/
theorem endsIf_present_redact (hg : Generated required strict message? p) {type : TypeName}
    {i : Impl} (hi : p.impl? type = some i) {slots : List Slot}
    (hs : SlotsOf p.layout slots (p.layout type).fields)
    (hparts : ∀ s ∈ slots, ∀ v ∈ s.parts, Shows required p (rowsOf message? p) v) :
    EndsIf (p.overflow = .panics ∧
        Document.RowsOverflow (rowsOf message? p) slots (rowsOf message? p type))
      (.object (Document.members (rowsOf message? p) slots (rowsOf message? p type)))
      (p.present (.message slots) (.redact type)) := by
  obtain ⟨m, hm, hemit, hfits, htidy, hcovers⟩ := hg.impl hi
  have hrows : rowsOf message? p type = Document.rowsOf m (p.layout type) := by rw [rowsOf, hm]
  have hready : ∀ r ∈ (p.layout type).fields.zip slots, Ready required p (rowsOf message? p)
      ((p.layout type).fields.zip (slots.map p.view)) r := fun r hr =>
    { tidy := htidy.shapes r.1 (List.of_mem_zip hr).1
      sees := sees_of_mem_zip htidy.places hs.length_eq hr
      shows := hparts r.2 (List.of_mem_zip hr).2 }
  have hkeys : ((([] : List (String × Json)).map (·.1)) ++
      ((leaders [] m.fields).flatMap (group m)).map (·.jsonName)).Nodup := by
    rw [htidy.order]
    exact htidy.keys
  have hrun := endsIf_foldlM_run ⟨htidy.members, hcovers⟩ (emit_ok hemit)
    (forall₂_zip_of_forall₂ hfits hs) (fun f hf => mem_of_mem_leaders hf) hready hkeys
  have hlength := hs.length_eq
  rw [List.map_fst_zip (by omega), List.map_snd_zip (by omega), ← Document.rowsOf, ← hrows,
    List.nil_append] at hrun
  rw [Program.present]
  simp only [hi]
  rw [runBody, views_eq_map]
  exact hrun.map Json.object

/-- **Every value shows its document.** -/
theorem shows_of_generated (hg : Generated required strict message? p) (v : Value) :
    Shows required p (rowsOf message? p) v := by
  induction v using Value.induct with
  | datum d =>
    intro element kind hfit hv hcovers
    cases hv
    cases hfit with
    | scalar s =>
      rw [Renderer.ofElement, Document.ofValue, ← scalarJson_ofKind, Program.present]
      exact .gives fun h => Document.not_overflows_datum _ _ h.2
  | message slots ih =>
    intro element kind hfit hv hcovers
    cases hv with
    | @message _ type hs =>
      cases hfit with
      | message =>
        rw [Renderer.ofElement, Document.ofValue]
        cases hk : WellKnown.ofName? type with
        | some known =>
          rw [Document.overflows_wellKnown_iff hk]
          exact endsIf_present_ofWellKnown known slots
        | none =>
          obtain ⟨hreq, hi⟩ := hcovers type rfl hk
          obtain ⟨i, hi⟩ := Option.isSome_iff_exists.mp hi
          dsimp only
          rw [if_pos hreq, Document.overflows_message_iff hk]
          exact endsIf_present_redact hg hi hs ih

/-- What a build does about overflow is no part of the code. -/
theorem Generated.inBuild (hg : Generated required strict message? p) (o : Render.Overflow) :
    Generated required strict message? (p.inBuild o) := ⟨hg.impl⟩

/-- **The redacted form of a message is its document,** in every build that it does not end. -/
theorem endsIf_redact? (hg : Generated required strict message? p) {type : TypeName}
    (hi : (p.impl? type).isSome) {slots : List Slot}
    (hs : SlotsOf p.layout slots (p.layout type).fields) (o : Render.Overflow) :
    EndsIf (o = .panics ∧
        Document.RowsOverflow (rowsOf message? p) slots (rowsOf message? p type))
      (.object (Document.members (rowsOf message? p) slots (rowsOf message? p type)))
      ((p.inBuild o).redact? type slots) := by
  obtain ⟨i, hi⟩ := Option.isSome_iff_exists.mp hi
  exact endsIf_present_redact (hg.inBuild o) hi hs fun _ _ v _ =>
    shows_of_generated (hg.inBuild o) v

/-! ### Keys -/

theorem flatMap_keys_zipWith {fs : List Schema.Field} {ws : List (Wire.Field TypeName)}
    (h : List.Forall₂ (RowFits m) fs ws) :
    (List.zipWith (Document.rowOf m) fs ws).flatMap Document.Row.keys =
      (fs.flatMap (group m)).map (·.jsonName) := by
  induction h with
  | nil => rfl
  | cons hf _ ih =>
    rw [List.zipWith_cons_cons, List.flatMap_cons, keys_rowOf hf, ih, List.flatMap_cons,
      List.map_append]

/-- **The keys of a document are keys of fields,** in the order of declaration. -/
theorem keys_members_sublist {layout : Layout TypeName} (hfits : Fits m layout)
    (htidy : Tidy m layout) (slots : List Slot) :
    ((Document.members rows slots (Document.rowsOf m layout)).map (·.1)).Sublist
      (m.fields.map (·.jsonName)) := by
  rw [← htidy.order, ← flatMap_keys_zipWith hfits]
  exact Document.keys_members slots _

/-- **Every field outside of a oneof has its member,** which shows what is in the slot of its name.
-/
theorem exists_member_of_field (hf : f.oneof = none) {fs : List Schema.Field}
    {rs : List (Wire.Field TypeName × Slot)}
    (h : List.Forall₂ (fun f r => RowFits m f r.1) fs rs) (hmem : f ∈ fs) :
    ∃ r ∈ rs, r.1.name = codeName f.name ∧
      (f.jsonName, if f.isRedacted then Document.ofRedacted f
        else Document.ofSlot rows r.2 f.category.element) ∈
        Document.members rows (rs.map (·.2))
          (List.zipWith (Document.rowOf m) fs (rs.map (·.1))) := by
  induction h with
  | nil => cases hmem
  | @cons g r fs rs hfit _ ih =>
    rw [List.map_cons, List.map_cons, List.zipWith_cons_cons, Document.members_cons]
    rcases List.mem_cons.mp hmem with rfl | hmem
    · refine ⟨r, List.mem_cons_self, ?_, List.mem_append_left _ ?_⟩
      · cases hfit with
        | field _ hname => exact hname
        | oneof ho => rw [hf] at ho; cases ho
      · rw [Document.rowOf, hf, Document.members]
        exact List.mem_cons_self
    · obtain ⟨r', hr', hname, hshow⟩ := ih hmem
      exact ⟨r', List.mem_cons_of_mem _ hr', hname, List.mem_append_right _ hshow⟩

/-- **Every oneof that is set has its member,** that of the field with the variant that is set. -/
theorem exists_member_of_oneof {fs : List Schema.Field} {rs : List (Wire.Field TypeName × Slot)}
    (h : List.Forall₂ (fun f r => RowFits m f r.1 ∧ r.2.IsOf p.layout r.1.shape) fs rs)
    {w : Wire.Field TypeName} {number : Nat} {v : Value} (hmem : (w, .member number v) ∈ rs) :
    ∃ g ∈ m.fields, variantOf w number = some (codeTypeName g.name) ∧
      (g.jsonName, if g.isRedacted then Document.ofRedacted g
        else Document.ofValue rows v g.category.element) ∈
        Document.members rows (rs.map (·.2))
          (List.zipWith (Document.rowOf m) fs (rs.map (·.1))) := by
  induction h with
  | nil => cases hmem
  | @cons f r fs rs hr _ ih =>
    rw [List.map_cons, List.map_cons, List.zipWith_cons_cons, Document.members_cons]
    rcases List.mem_cons.mp hmem with rfl | hmem
    · obtain ⟨hfit, hs⟩ := hr
      cases hfit with
      | field _ _ hfit => generalize w.shape = shape at hfit hs; cases hfit <;> cases hs
      | @oneof place members ho _ hshape hfits =>
        dsimp only at hshape hs
        rw [hshape] at hs
        cases hs with
        | member hkind _ =>
          rw [Shape.memberKind?, Option.map_eq_some_iff] at hkind
          obtain ⟨member, hfind, -⟩ := hkind
          obtain ⟨g, hg, hfit, hlookup⟩ := exists_alternative hfits hfind
          refine ⟨g, (mem_membersOf.mp hg).1, ?_, List.mem_append_left _ ?_⟩
          · simp only [variantOf, hshape, hfind, Option.map_some, hfit.name]
          · simp only [Document.rowOf, ho, hshape, Document.members, Document.ofChoice, hlookup,
              List.append_nil, List.mem_singleton]
    · obtain ⟨g, hg, hvariant, hshow⟩ := ih hmem
      exact ⟨g, hg, hvariant, List.mem_append_right _ hshow⟩

/-- **The members show all of the message:** their keys are those of fields in the order of
declaration, every field outside of a oneof has its member, and so has every alternative that is
set. -/
structure Complete (rows : TypeName → List Document.Row) (m : Message) (layout : Layout TypeName)
    (slots : List Slot) (members : List (String × Json)) : Prop where
  order : (members.map (·.1)).Sublist (m.fields.map (·.jsonName))
  fields : ∀ f ∈ m.fields, f.oneof = none → ∃ r ∈ layout.fields.zip slots,
    r.1.name = codeName f.name ∧
      (f.jsonName, if f.isRedacted then Document.ofRedacted f
        else Document.ofSlot rows r.2 f.category.element) ∈ members
  oneofs : ∀ w number v, (w, Slot.member number v) ∈ layout.fields.zip slots → ∃ g ∈ m.fields,
    variantOf w number = some (codeTypeName g.name) ∧
      (g.jsonName, if g.isRedacted then Document.ofRedacted g
        else Document.ofValue rows v g.category.element) ∈ members

theorem complete_members {layout : Layout TypeName} {slots : List Slot} (hfits : Fits m layout)
    (htidy : Tidy m layout) (hs : SlotsOf p.layout slots layout.fields) :
    Complete rows m layout slots (Document.members rows slots (Document.rowsOf m layout)) := by
  have hrows := forall₂_zip_of_forall₂ hfits hs
  have hlength := hs.length_eq
  have hmembers : Document.members rows slots (Document.rowsOf m layout) =
      Document.members rows ((layout.fields.zip slots).map (·.2))
        (List.zipWith (Document.rowOf m) (leaders [] m.fields)
          ((layout.fields.zip slots).map (·.1))) := by
    rw [List.map_fst_zip (by omega), List.map_snd_zip (by omega), Document.rowsOf]
  refine ⟨keys_members_sublist hfits htidy slots, fun f hf ho => ?_, fun w number v hmem => ?_⟩
  · rw [hmembers]
    exact exists_member_of_field ho (hrows.imp fun _ _ h => h.1) (mem_leaders_of_none ho hf)
  · rw [hmembers]
    exact exists_member_of_oneof hrows hmem

end Redaction.Code
