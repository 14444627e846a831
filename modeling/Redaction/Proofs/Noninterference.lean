import Redaction.Proofs.Dynamics
import Redaction.Proofs.Refinement

/-!
# Redacted content does not show

Messages that agree up to redacted content have one document, and so one redacted form
(`redact?_eq_of_agree`). The induction is on the first of the two messages; a value is `Blind` if it
shows the same as every value that agrees with it. A slot shows the same as one that agrees with it
if its values are blind (`ofSlot_eq_of_agrees`), then so does a row, and so does the message. By the
same induction, messages that agree overflow together (`overflowsAlike`).
-/

namespace Redaction.Code

open Schema Wire Document

variable {required : Requirement} {strict : Bool} {p : Program} {rows : TypeName → List Row}
  {m : Message} {f : Schema.Field}

/-- **The value shows the same as every value that agrees with it.** -/
def Blind (required : Requirement) (p : Program) (rows : TypeName → List Row) (a : Value) : Prop :=
  ∀ {b : Value} {element : ElementType} {kind : Kind TypeName}, Agrees rows element a b →
    KindFits element kind → a.IsOf p.layout kind → b.IsOf p.layout kind →
    Covers required p element → ofValue rows a element = ofValue rows b element

/-! ### Fields -/

/-- Single values that agree show the same, and so do unset ones. -/
theorem ofSlot_eq_of_optional {element : ElementType} {kind : Kind TypeName} {n : Nat} {a b : Slot}
    (hk : KindFits element kind) (ha : a.IsOf p.layout (.optional n kind))
    (hb : b.IsOf p.layout (.optional n kind)) (h : SlotAgrees rows element a b)
    (hparts : ∀ v ∈ a.parts, Blind required p rows v) (hcovers : Covers required p element) :
    ofSlot rows a element = ofSlot rows b element := by
  cases h with
  | unset => rfl
  | single h =>
    cases ha with
    | set hv =>
      cases hb with
      | set hw =>
        rw [ofSlot, ofSlot]
        exact hparts _ List.mem_cons_self h hk hv hw hcovers
  | repeated => cases ha
  | map => cases ha

/-- Lists show the same if their items agree one by one. -/
theorem ofItems_eq_of_agrees {element : ElementType} {kind : Kind TypeName} {vs ws : List Value}
    (hk : KindFits element kind) (hvs : ∀ v ∈ vs, v.IsOf p.layout kind)
    (hws : ∀ w ∈ ws, w.IsOf p.layout kind) (hlength : vs.length = ws.length)
    (hitems : ∀ (i : Nat) v w, vs[i]? = some v → ws[i]? = some w → Agrees rows element v w)
    (hblind : ∀ v ∈ vs, Blind required p rows v) (hcovers : Covers required p element) :
    ofItems rows vs element = ofItems rows ws element := by
  rw [ofItems_eq_map, ofItems_eq_map]
  refine List.ext_getElem (by simpa using hlength) fun i hi hi' => ?_
  rw [List.length_map] at hi hi'
  rw [List.getElem_map, List.getElem_map]
  have hv := List.getElem_mem hi
  have hagree := hitems i _ _ (List.getElem?_eq_getElem hi) (List.getElem?_eq_getElem hi')
  exact hblind _ hv hagree hk (hvs _ hv) (hws _ (List.getElem_mem hi')) hcovers

/-- The entries of maps with the same keys show the same, but for their order. -/
theorem ofEntries_perm_of_agrees {element : ElementType} {kind : Kind TypeName}
    {es fs : List (Datum × Value)} (hk : KindFits element kind) (hes : (es.map (·.1)).Nodup)
    (hfs : (fs.map (·.1)).Nodup) (hvals : ∀ e ∈ es, e.2.IsOf p.layout kind)
    (hvals' : ∀ e ∈ fs, e.2.IsOf p.layout kind) (hsame : SameKeys es fs)
    (hentries : ∀ k v w, (k, v) ∈ es → (k, w) ∈ fs → Agrees rows element v w)
    (hblind : ∀ v ∈ es.map (·.2), Blind required p rows v) (hcovers : Covers required p element) :
    (ofEntries rows es element).Perm (ofEntries rows fs element) := by
  rw [ofEntries_eq_map, ofEntries_eq_map]
  refine perm_map_of_sameKeys (g := fun v => ofValue rows v element) hes hfs hsame
    fun k v w hv hw => ?_
  exact hblind v (List.mem_map_of_mem hv) (hentries k v w hv hw) hk (hvals _ hv) (hvals' _ hw)
    hcovers

/-- **Slots that agree show the same.** -/
theorem ofSlot_eq_of_agrees {shape : Shape TypeName} {a b : Slot} (hfit : ShapeFits f shape)
    (htidy : isTidyShape shape) (ha : a.IsOf p.layout shape) (hb : b.IsOf p.layout shape)
    (h : SlotAgrees rows f.category.element a b) (hparts : ∀ v ∈ a.parts, Blind required p rows v)
    (hcovers : Covers required p f.category.element) :
    ofSlot rows a f.category.element = ofSlot rows b f.category.element := by
  cases hfit with
  | repeated hc hk =>
    cases ha with
    | @repeated vs _ _ hvs =>
      cases hb with
      | @repeated ws _ _ hws =>
        cases h with
        | repeated hlength hitems =>
          rw [ofSlot, ofSlot,
            ofItems_eq_of_agrees hk hvs hws hlength hitems hparts hcovers]
  | map hc hk =>
    cases ha with
    | @map es _ _ _ hes hkeys hvals =>
      cases hb with
      | @map fs _ _ _ hfs hkeys' hvals' =>
        cases h with
        | map hsame hentries =>
          have hnodup : ((ofEntries rows es f.category.element).map (·.1)).Nodup := by
            rw [ofEntries_eq_map, List.map_map]
            exact nodup_keyText htidy hkeys hes
          have hperm := ofEntries_perm_of_agrees hk hes hfs hvals hvals' hsame hentries hparts hcovers
          rw [ofSlot, ofSlot, ← Ordered.ofList_eq_mergeSort hnodup,
            ← Ordered.ofList_eq_mergeSort ((hperm.map (·.1)).nodup_iff.mp hnodup),
            Ordered.ofList_eq_of_perm hnodup hperm]
  | message hc he =>
    rw [he] at h hcovers ⊢
    exact ofSlot_eq_of_optional (.message _) ha hb h hparts hcovers
  | explicit hc he hx =>
    rw [he] at h hcovers ⊢
    exact ofSlot_eq_of_optional (.scalar _) ha hb h hparts hcovers
  | implicit hc he hx =>
    rw [he] at h hcovers ⊢
    cases ha with
    | implicit hv =>
      cases hb with
      | implicit hw =>
        cases h with
        | single h =>
          rw [ofSlot, ofSlot]
          exact hparts _ List.mem_cons_self h (.scalar _) hv hw hcovers

/-! ### Rows -/

/-- **Rows that agree show the same.** -/
theorem members_eq_of_rowAgrees {w : Wire.Field TypeName} {a b : Slot} (hm : Sound required p m)
    (hf : f ∈ m.fields) (hfit : RowFits m f w) (htidy : isTidyShape w.shape)
    (ha : a.IsOf p.layout w.shape) (hb : b.IsOf p.layout w.shape)
    (h : RowAgrees rows (rowOf m f w) a b) (hparts : ∀ v ∈ a.parts, Blind required p rows v) :
    members rows [a] [rowOf m f w] = members rows [b] [rowOf m f w] := by
  cases hfit with
  | field ho hname hfit =>
    have hrow : rowOf m f w = .field f := by rw [rowOf, ho]
    rw [hrow] at h ⊢
    rw [members, members, members]
    by_cases hr : f.isRedacted
    · rw [if_pos hr, if_pos hr]
    · rw [if_neg hr, if_neg hr]
      cases h with
      | redacted _ _ hr' => exact absurd hr' hr
      | field h => rw [ofSlot_eq_of_agrees hfit htidy ha hb h hparts (hm.covers f hf hr)]
  | @oneof place members' ho hname hshape hfits =>
    have hrow : rowOf m f w = .oneof ((members'.map (·.number)).zip (membersOf m place)) := by
      rw [rowOf, ho, hshape]
    rw [hrow] at h ⊢
    rw [hshape] at ha hb
    rw [members, members, members, List.append_nil, List.append_nil]
    cases h with
    | unset => rfl
    | hidden v w hlookup hr => simp only [ofChoice, hlookup, if_pos hr]
    | @shown _ n g v w hlookup h =>
      cases ha with
      | @member _ _ _ kind hkind hv =>
        cases hb with
        | @member _ _ _ kind' hkind' hw =>
          obtain rfl := Option.some.inj (hkind.symm.trans hkind')
          rw [Shape.memberKind?, Option.map_eq_some_iff] at hkind
          obtain ⟨member, hfind, rfl⟩ := hkind
          obtain ⟨g', hg, hfit, hlookup'⟩ := exists_alternative hfits hfind
          obtain rfl := Option.some.inj (hlookup.symm.trans hlookup')
          obtain ⟨hmem, hgo⟩ := mem_membersOf.mp hg
          have hsome : g.oneof.isSome := by rw [hgo]; rfl
          simp only [ofChoice, hlookup]
          by_cases hr : g.isRedacted
          · rw [if_pos hr, if_pos hr]
          · rw [if_neg hr, if_neg hr, hparts v List.mem_cons_self h
              (hfit.kind (hm.maps g hmem hsome)) hv hw (hm.covers g hmem hr)]

/-- Messages whose rows agree show the same. -/
theorem members_eq_of_rowsAgree (hm : Sound required p m) :
    ∀ {fs : List Schema.Field} {ws : List (Wire.Field TypeName)} {as bs : List Slot},
      (∀ f ∈ fs, f ∈ m.fields) → List.Forall₂ (RowFits m) fs ws →
      (∀ w ∈ ws, isTidyShape w.shape) → SlotsOf p.layout as ws → SlotsOf p.layout bs ws →
      RowsAgree rows (List.zipWith (rowOf m) fs ws) as bs →
      (∀ s ∈ as, ∀ v ∈ s.parts, Blind required p rows v) →
      members rows as (List.zipWith (rowOf m) fs ws) =
        members rows bs (List.zipWith (rowOf m) fs ws)
  | _, _, _, _, _, .nil, _, .nil, .nil, _, _ => rfl
  | f :: fs, w :: ws, a :: as, b :: bs, hfs, .cons hfit hfits, htidy, .cons ha has, .cons hb hbs,
      .cons h hs, hparts => by
    rw [List.zipWith_cons_cons, members_cons, members_cons _ _ bs,
      members_eq_of_rowAgrees hm (hfs f List.mem_cons_self) hfit (htidy w List.mem_cons_self)
        ha hb h
        (hparts a List.mem_cons_self),
      members_eq_of_rowsAgree hm (fun g hg => hfs g (List.mem_cons_of_mem _ hg)) hfits
        (fun w hw => htidy w (List.mem_cons_of_mem _ hw)) has hbs hs
        fun s hs => hparts s (List.mem_cons_of_mem _ hs)]

/-! ### Messages -/

/-- Of a packed message only the type shows, which is its first field. -/
theorem typeUrlOf_eq_of_head? {as bs : List Slot} (h : as.head? = bs.head?) :
    Render.typeUrlOf as = Render.typeUrlOf bs := by
  match as, bs, h with
  | [], [], _ => rfl
  | s :: as, t :: bs, h =>
    obtain rfl := Option.some.inj h
    cases s <;> rfl

variable {message? : TypeName → Option Message}

theorem members_eq_of_agree (hg : Generated required strict message? p) {type : TypeName}
    (hi : (p.impl? type).isSome) {as bs : List Slot}
    (ha : SlotsOf p.layout as (p.layout type).fields)
    (hb : SlotsOf p.layout bs (p.layout type).fields)
    (h : RowsAgree (rowsOf message? p) (rowsOf message? p type) as bs)
    (hparts : ∀ s ∈ as, ∀ v ∈ s.parts, Blind required p (rowsOf message? p) v) :
    members (rowsOf message? p) as (rowsOf message? p type) =
      members (rowsOf message? p) bs (rowsOf message? p type) := by
  obtain ⟨i, hi⟩ := Option.isSome_iff_exists.mp hi
  obtain ⟨m, hm, -, hfits, htidy, hcovers⟩ := hg.impl hi
  have hrows : rowsOf message? p type = Document.rowsOf m (p.layout type) := by rw [rowsOf, hm]
  rw [hrows] at h ⊢
  exact members_eq_of_rowsAgree ⟨htidy.members, hcovers⟩ (fun f hf => mem_of_mem_leaders hf) hfits
    htidy.shapes ha hb h hparts

/-- **Every value is blind** to what redaction hides in it. -/
theorem blind_of_generated (hg : Generated required strict message? p) (hd : HasDynamics p.layout)
    (a : Value) : Blind required p (rowsOf message? p) a := by
  induction a using Value.induct with
  | datum d =>
    intro b element kind h hfit ha hb hcovers
    cases h with
    | scalar => rfl
    | dynamic _ _ hs => cases hs; rfl
  | message as ih =>
    intro b element kind h hfit ha hb hcovers
    cases h with
    | wellKnown => rfl
    | dynamic hk hdyn hs =>
      cases hs with
      | message hs =>
        cases hfit
        rw [ofValue, ofValue, hk]
        exact ofWellKnown_eq_of_same hd hk hdyn ha.slots hb.slots (.message hs)
    | packed hk hhead =>
      rw [ofValue, ofValue, hk]
      simp only [ofWellKnown, typeUrlOf_eq_of_head? hhead]
    | message hk hrows =>
      cases hfit
      rw [ofValue, ofValue, hk]
      exact congrArg _ (members_eq_of_agree hg (hcovers _ rfl hk).2 ha.slots hb.slots hrows ih)

/-! ### Overflow -/

/-- **Values that agree overflow together.** -/
def OverflowsAlike (rows : TypeName → List Row) (a : Value) : Prop :=
  ∀ {b : Value} {element : ElementType}, Agrees rows element a b →
    (Overflows rows a element ↔ Overflows rows b element)

/-- What one of several values has, the value at its place has, where the places correspond. -/
theorem exists_mem_of_getElem? {α : Type} {P Q : α → Prop} {as bs : List α}
    (hlength : as.length = bs.length)
    (h : ∀ (i : Nat) a b, as[i]? = some a → bs[i]? = some b → P a → Q b) :
    (∃ a ∈ as, P a) → ∃ b ∈ bs, Q b := by
  rintro ⟨a, ha, hP⟩
  obtain ⟨i, hi, rfl⟩ := List.getElem_of_mem ha
  have hi' : i < bs.length := hlength ▸ hi
  exact ⟨bs[i], List.getElem_mem hi',
    h i _ _ (List.getElem?_eq_getElem hi) (List.getElem?_eq_getElem hi') hP⟩

/-- What one of several entries has, the entry under its key has, where the keys do. -/
theorem exists_value_of_keys {κ α : Type} {P Q : α → Prop} {as bs : List (κ × α)}
    (hkeys : ∀ k ∈ as.map (·.1), k ∈ bs.map (·.1))
    (h : ∀ k a b, (k, a) ∈ as → (k, b) ∈ bs → P a → Q b) :
    (∃ a ∈ as.map (·.2), P a) → ∃ b ∈ bs.map (·.2), Q b := by
  rintro ⟨a, ha, hP⟩
  obtain ⟨e, he, rfl⟩ := List.mem_map.mp ha
  obtain ⟨e', he', hkey⟩ := List.mem_map.mp (hkeys e.1 (List.mem_map_of_mem he))
  exact ⟨e'.2, List.mem_map_of_mem he', h e.1 e.2 e'.2 he (hkey ▸ he') hP⟩

theorem exists_overflows_iff_of_slotAgrees {element : ElementType} {a b : Slot}
    (h : SlotAgrees rows element a b) (hparts : ∀ v ∈ a.parts, OverflowsAlike rows v) :
    (∃ v ∈ a.parts, Overflows rows v element) ↔ ∃ w ∈ b.parts, Overflows rows w element := by
  cases h with
  | unset => rfl
  | single h => simpa [Slot.parts] using hparts _ List.mem_cons_self h
  | @repeated _ vs ws hlength hitems =>
    have halike (i : Nat) (v w : Value) (hv : vs[i]? = some v) (hw : ws[i]? = some w) :=
      hparts v (List.mem_of_getElem? hv) (hitems i v w hv hw)
    exact ⟨exists_mem_of_getElem? hlength fun i v w hv hw => (halike i v w hv hw).mp,
      exists_mem_of_getElem? hlength.symm fun i w v hw hv => (halike i v w hv hw).mpr⟩
  | @map _ as bs hsame hentries =>
    have halike (k : Datum) (v w : Value) (hv : (k, v) ∈ as) (hw : (k, w) ∈ bs) :=
      hparts v (List.mem_map_of_mem hv) (hentries k v w hv hw)
    exact ⟨exists_value_of_keys (fun k => (hsame k).mp) fun k v w hv hw =>
        (halike k v w hv hw).mp,
      exists_value_of_keys (fun k => (hsame k).mpr) fun k w v hw hv => (halike k v w hv hw).mpr⟩

theorem rowOverflows_iff_of_agrees {row : Row} {a b : Slot} (h : RowAgrees rows row a b)
    (hparts : ∀ v ∈ a.parts, OverflowsAlike rows v) :
    RowOverflows rows a row ↔ RowOverflows rows b row := by
  cases h with
  | redacted a b hr => simp [rowOverflows_field_iff, hr]
  | field h =>
    rw [rowOverflows_field_iff, rowOverflows_field_iff,
      exists_overflows_iff_of_slotAgrees h hparts]
  | unset => rfl
  | hidden a b hlookup hr =>
    simp [rowOverflows_oneof_iff hlookup, hr]
  | shown hlookup h =>
    rw [rowOverflows_oneof_iff hlookup, rowOverflows_oneof_iff hlookup,
      hparts _ List.mem_cons_self h]

theorem rowsOverflow_iff_of_agree {rs : List Row} {as bs : List Slot}
    (h : RowsAgree rows rs as bs) (hparts : ∀ s ∈ as, ∀ v ∈ s.parts, OverflowsAlike rows v) :
    RowsOverflow rows as rs ↔ RowsOverflow rows bs rs := by
  match h with
  | .nil => rfl
  | .cons h hs =>
    obtain ⟨hpart, hparts⟩ := List.forall_mem_cons.mp hparts
    rw [rowsOverflow_cons_iff, rowsOverflow_cons_iff, rowOverflows_iff_of_agrees h hpart,
      rowsOverflow_iff_of_agree hs hparts]

theorem overflowsAlike (rows : TypeName → List Row) (a : Value) : OverflowsAlike rows a := by
  induction a using Value.induct with
  | datum d =>
    intro b element h
    cases h with
    | scalar => rfl
    | dynamic _ _ hs => cases hs; rfl
  | message as ih =>
    intro b element h
    cases h with
    | wellKnown => rfl
    | @dynamic _ known _ _ hk hdyn hs =>
      have hne : known ≠ .duration := by rintro rfl; cases hdyn
      exact iff_of_false (not_overflows_wellKnown hk hne _) (not_overflows_wellKnown hk hne _)
    | packed hk =>
      exact iff_of_false (not_overflows_wellKnown hk nofun _) (not_overflows_wellKnown hk nofun _)
    | message hk hrows =>
      rw [overflows_message_iff hk, overflows_message_iff hk]
      exact rowsOverflow_iff_of_agree hrows ih

/-! ### Redacted forms -/

/-- **Messages that agree up to redacted content have one redacted form,** or none in a build that
one of them ends. -/
theorem redact?_eq_of_agree (hg : Generated required strict message? p) (hd : HasDynamics p.layout)
    {type : TypeName} (hi : (p.impl? type).isSome) {as bs : List Slot}
    (ha : SlotsOf p.layout as (p.layout type).fields)
    (hb : SlotsOf p.layout bs (p.layout type).fields)
    (h : RowsAgree (rowsOf message? p) (rowsOf message? p type) as bs) (o : Render.Overflow) :
    (p.inBuild o).redact? type as = (p.inBuild o).redact? type bs := by
  have hform := endsIf_redact? hg hi hb o
  rw [← members_eq_of_agree hg hi ha hb h fun _ _ v _ => blind_of_generated hg hd v,
    ← rowsOverflow_iff_of_agree h fun _ _ v _ => overflowsAlike _ v] at hform
  exact (endsIf_redact? hg hi ha o).unique hform

end Redaction.Code
