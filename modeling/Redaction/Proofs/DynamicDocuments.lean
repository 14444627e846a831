import Redaction.Proofs.Dynamics
import Redaction.Proofs.IntegralDoubles

/-!
# Documents as dynamic values

A document with finite numbers, and with no key twice in an object, has a form as a dynamic value
(`Dynamic.ofJson`). That form shows as the document, with the members of objects in the order of
their keys and with numbers as doubles show (`shown`). Dynamic values with such a form show the
same only if they are the same (`Dynamic.Same`), but for the sign of a zero and for the order of
the fields of structs.
-/

namespace Redaction.Render

open Number

/-! ### Documents -/

mutual
/-- **A document in the form of a dynamic value.** -/
def Dynamic.ofJson : Json → Dynamic
  | .null => .null
  | .bool b => .bool b
  | .integer n => .number (.ofInteger n)
  | .number x => .number x
  | .text s => .text s
  | .array items => .list (Dynamic.ofItems items)
  | .object members => .struct (Dynamic.ofMembers members)

def Dynamic.ofItems : List Json → List Dynamic
  | [] => []
  | item :: rest => Dynamic.ofJson item :: Dynamic.ofItems rest

def Dynamic.ofMembers : List (String × Json) → List (String × Dynamic)
  | [] => []
  | (key, value) :: rest => (key, Dynamic.ofJson value) :: Dynamic.ofMembers rest
end

mutual
/-- **A document as it shows:** its numbers as doubles, the members of its objects in the order of
their keys. -/
def shown : Json → Json
  | .null => .null
  | .bool b => .bool b
  | .integer n => double (.ofInteger n)
  | .number x => double x
  | .text s => .text s
  | .array items => .array (shownItems items)
  | .object members => .object ((shownMembers members).mergeSort fun a b => a.1 ≤ b.1)

def shownItems : List Json → List Json
  | [] => []
  | item :: rest => shown item :: shownItems rest

def shownMembers : List (String × Json) → List (String × Json)
  | [] => []
  | (key, value) :: rest => (key, shown value) :: shownMembers rest
end

/-- **The document has finite numbers, and no key twice in an object.** -/
inductive HasForm : Json → Prop
  | null : HasForm .null
  | bool (b : Bool) : HasForm (.bool b)
  | integer {n : Int} : (Double.ofInteger n).isFinite → HasForm (.integer n)
  | number {x : Double} : x.isFinite → HasForm (.number x)
  | text (s : String) : HasForm (.text s)
  | array {items : List Json} : (∀ j ∈ items, HasForm j) → HasForm (.array items)
  | object {members : List (String × Json)} : (members.map (·.1)).Nodup →
      (∀ m ∈ members, HasForm m.2) → HasForm (.object members)

theorem ofItems_eq_map (items : List Json) : Dynamic.ofItems items = items.map Dynamic.ofJson := by
  induction items with
  | nil => rfl
  | cons item rest ih => rw [Dynamic.ofItems, ih, List.map_cons]

theorem ofMembers_eq_map (members : List (String × Json)) :
    Dynamic.ofMembers members = members.map fun m => (m.1, Dynamic.ofJson m.2) := by
  induction members with
  | nil => rfl
  | cons m rest ih => rw [Dynamic.ofMembers, ih, List.map_cons]

theorem shownItems_eq_map (items : List Json) : shownItems items = items.map shown := by
  induction items with
  | nil => rfl
  | cons item rest ih => rw [shownItems, ih, List.map_cons]

theorem shownMembers_eq_map (members : List (String × Json)) :
    shownMembers members = members.map fun m => (m.1, shown m.2) := by
  induction members with
  | nil => rfl
  | cons m rest ih => rw [shownMembers, ih, List.map_cons]

namespace Dynamic

theorem jsonItems_eq_map (items : List Dynamic) : jsonItems items = items.map json := by
  induction items with
  | nil => rfl
  | cons item rest ih => rw [jsonItems, ih, List.map_cons]

theorem jsonFields_eq_map (fields : List (String × Dynamic)) :
    jsonFields fields = fields.map fun f => (f.1, f.2.json) := by
  induction fields with
  | nil => rfl
  | cons f rest ih => rw [jsonFields, ih, List.map_cons]

/-! ### Dynamic values that are documents -/

/-- **The value is a document:** its kind and those of its parts are set, its numbers are finite,
and no name comes twice among the fields of a struct. -/
inductive IsDocument : Dynamic → Prop
  | null : IsDocument .null
  | number {x : Double} : x.isFinite → IsDocument (.number x)
  | text (s : String) : IsDocument (.text s)
  | bool (b : Bool) : IsDocument (.bool b)
  | struct {fields : List (String × Dynamic)} : (fields.map (·.1)).Nodup →
      (∀ f ∈ fields, IsDocument f.2) → IsDocument (.struct fields)
  | list {items : List Dynamic} : (∀ u ∈ items, IsDocument u) → IsDocument (.list items)

/-- **The values are the same** up to the sign of zeros and the order of fields. -/
inductive Same : Dynamic → Dynamic → Prop
  | null : Same .null .null
  | number {x y : Double} : x = y ∨ x.value? = some 0 ∧ y.value? = some 0 →
      Same (.number x) (.number y)
  | text (s : String) : Same (.text s) (.text s)
  | bool (b : Bool) : Same (.bool b) (.bool b)
  | struct {us vs : List (String × Dynamic)} : Document.SameKeys us vs →
      (∀ k u v, (k, u) ∈ us → (k, v) ∈ vs → Same u v) → Same (.struct us) (.struct vs)
  | list {us vs : List Dynamic} : List.Forall₂ Same us vs → Same (.list us) (.list vs)

theorem keys_jsonFields (fields : List (String × Dynamic)) :
    (jsonFields fields).map (·.1) = fields.map (·.1) := by
  rw [jsonFields_eq_map, List.map_map]
  rfl

theorem mem_jsonFields {fields : List (String × Dynamic)} {key : String} {u : Dynamic}
    (h : (key, u) ∈ fields) : (key, u.json) ∈ jsonFields fields := by
  rw [jsonFields_eq_map]
  exact List.mem_map_of_mem h

/-- The form of a document is a document. -/
theorem isDocument_ofJson {j : Json} (h : HasForm j) : (ofJson j).IsDocument := by
  induction h with
  | null => exact .null
  | bool b => exact .bool b
  | integer hn => exact .number hn
  | number hx => exact .number hx
  | text s => exact .text s
  | array _ ih =>
    refine .list fun u hu => ?_
    rw [ofItems_eq_map, List.mem_map] at hu
    obtain ⟨j, hj, rfl⟩ := hu
    exact ih j hj
  | object hnodup _ ih =>
    rw [ofJson, ofMembers_eq_map]
    refine .struct (by rwa [List.map_map]) fun f hf => ?_
    obtain ⟨m, hm, rfl⟩ := List.mem_map.mp hf
    exact ih m hm

/-- **The form of a document shows as the document.** -/
theorem json_ofJson {j : Json} (h : HasForm j) : (ofJson j).json = shown j := by
  induction h with
  | null => rfl
  | bool b => rfl
  | integer hn => rfl
  | number hx => rfl
  | text s => rfl
  | @array items _ ih =>
    have hitems : jsonItems (ofItems items) = shownItems items := by
      rw [jsonItems_eq_map, ofItems_eq_map, shownItems_eq_map, List.map_map]
      exact List.map_congr_left ih
    rw [ofJson, json, hitems, shown]
  | @object members hnodup _ ih =>
    have hmembers : jsonFields (ofMembers members) = shownMembers members := by
      rw [jsonFields_eq_map, ofMembers_eq_map, shownMembers_eq_map, List.map_map]
      exact List.map_congr_left fun m hm => congrArg (Prod.mk m.1) (ih m hm)
    have hkeys : ((shownMembers members).map (·.1)).Nodup := by
      rw [shownMembers_eq_map, List.map_map]
      exact hnodup
    rw [ofJson, json, hmembers, shown, Ordered.ofList_eq_mergeSort hkeys]

end Dynamic

/-! ### Numbers -/

/-- A finite double shows as an integer that it is, or as itself. -/
theorem double_cases {x : Double} (hx : x.isFinite) :
    (∃ n : Int, x.value? = some (n : ℚ) ∧ double x = .integer n) ∨ double x = .number x := by
  have hdouble : Json.ofDouble x = .number x := if_pos hx
  cases hn : x.integral with
  | none =>
    right
    rw [double, hn]
    exact hdouble
  | some n =>
    rcases Nat.lt_or_ge n.natAbs (2 ^ 53) with hlt | hle
    · exact Or.inl ⟨n, Double.integral_eq_some_iff.mp hn, double_of_lt hn hlt⟩
    · exact Or.inr ((double_of_le hn hle).trans hdouble)

theorem double_of_zero {x : Double} (hx : x.value? = some 0) : double x = .integer 0 :=
  double_of_lt (Double.integral_eq_some_iff.mpr (by rw [hx, Int.cast_zero])) (by decide)

/-- **Finite doubles that show the same** are the same, or zeros. -/
theorem double_eq_iff {x y : Double} (hx : x.isFinite) (hy : y.isFinite) :
    double x = double y ↔ x = y ∨ x.value? = some 0 ∧ y.value? = some 0 := by
  constructor
  · intro h
    rcases double_cases hx with ⟨n, hvalue, hn⟩ | hnumber <;>
      rcases double_cases hy with ⟨m, hvalue', hm⟩ | hnumber'
    · rw [hn, hm] at h
      obtain rfl := Json.integer.inj h
      by_cases hzero : (n : ℚ) = 0
      · rw [hzero] at hvalue hvalue'
        exact Or.inr ⟨hvalue, hvalue'⟩
      · exact Or.inl (Double.eq_of_value? hvalue hvalue' hzero)
    · rw [hn, hnumber'] at h
      cases h
    · rw [hnumber, hm] at h
      cases h
    · rw [hnumber, hnumber'] at h
      exact Or.inl (Json.number.inj h)
  · rintro (rfl | ⟨hx, hy⟩)
    · rfl
    · rw [double_of_zero hx, double_of_zero hy]

/-- **An integer shows as itself** if it is below `2 ^ 53`. -/
theorem shown_integer {n : Int} (hn : n.natAbs < 2 ^ 53) : shown (.integer n) = .integer n :=
  double_of_lt (Double.integral_eq_some_iff.mpr (Double.value?_ofInteger hn)) hn

/-! ### Values that show the same -/

namespace Dynamic

/-- The kinds of documents. -/
inductive Kind where
  | null
  | bool
  | number
  | text
  | array
  | object

def kindOfJson : Json → Kind
  | .null => .null
  | .bool _ => .bool
  | .integer _ | .number _ => .number
  | .text _ => .text
  | .array _ => .array
  | .object _ => .object

/-- The kind of the document that a value describes. -/
def kind : Dynamic → Kind
  | unset | null => .null
  | number _ => .number
  | text _ => .text
  | bool _ => .bool
  | struct _ => .object
  | list _ => .array

variable {u v : Dynamic}

theorem kind_json (h : u.IsDocument) : kindOfJson u.json = u.kind := by
  cases h with
  | number hx =>
    rcases double_cases hx with ⟨n, -, hn⟩ | hn
    all_goals
      rw [json, hn]
      rfl
  | _ => rfl

theorem kind_of_json_eq (hu : u.IsDocument) (hv : v.IsDocument) (h : u.json = v.json) :
    u.kind = v.kind := by
  rw [← kind_json hu, h, kind_json hv]

theorem kind_of_same (h : u.Same v) : u.kind = v.kind := by
  cases h <;> rfl

/-- Values of two kinds are not the same, and do not show the same. -/
theorem json_eq_iff_of_kind_ne (hu : u.IsDocument) (hv : v.IsDocument) (h : u.kind ≠ v.kind) :
    u.json = v.json ↔ u.Same v :=
  iff_of_false (fun hjson => h (kind_of_json_eq hu hv hjson)) fun hsame => h (kind_of_same hsame)

/-- Lists show the same if their items do, one by one. -/
theorem map_json_eq_iff {us vs : List Dynamic}
    (h : ∀ u ∈ us, ∀ v ∈ vs, (u.json = v.json ↔ u.Same v)) :
    us.map json = vs.map json ↔ List.Forall₂ Same us vs := by
  induction us generalizing vs with
  | nil => simp [eq_comm]
  | cons u us ih =>
    cases vs with
    | nil => simp
    | cons v vs =>
      have hrest : ∀ u ∈ us, ∀ v ∈ vs, (u.json = v.json ↔ u.Same v) := fun u hu v hv =>
        h u (List.mem_cons_of_mem _ hu) v (List.mem_cons_of_mem _ hv)
      rw [List.map_cons, List.map_cons, List.cons_eq_cons, List.forall₂_cons, ih hrest,
        h u List.mem_cons_self v List.mem_cons_self]

/-- Structs show the same if they have the same fields, and these show the same. -/
theorem ofList_jsonFields_eq_iff {us vs : List (String × Dynamic)} (hus : (us.map (·.1)).Nodup)
    (hvs : (vs.map (·.1)).Nodup)
    (h : ∀ k u v, (k, u) ∈ us → (k, v) ∈ vs → (u.json = v.json ↔ u.Same v)) :
    Ordered.ofList (jsonFields us) = Ordered.ofList (jsonFields vs) ↔
      Document.SameKeys us vs ∧ ∀ k u v, (k, u) ∈ us → (k, v) ∈ vs → u.Same v := by
  have hkeys : ((jsonFields us).map (·.1)).Nodup := by rwa [keys_jsonFields]
  have hkeys' : ((jsonFields vs).map (·.1)).Nodup := by rwa [keys_jsonFields]
  constructor
  · intro heq
    have hperm : (jsonFields us).Perm (jsonFields vs) :=
      Ordered.perm_of_ofList_eq hkeys hkeys' heq
    refine ⟨fun k => ?_, fun k u v hu hv => (h k u v hu hv).mp ?_⟩
    · rw [← keys_jsonFields us, ← keys_jsonFields vs]
      exact (hperm.map (·.1)).mem_iff
    · have hmem : (k, u.json) ∈ jsonFields vs := hperm.mem_iff.mp (mem_jsonFields hu)
      rw [← Ordered.lookup_eq_some_iff hkeys'] at hmem
      rw [(Ordered.lookup_eq_some_iff hkeys').mpr (mem_jsonFields hv)] at hmem
      exact (Option.some.inj hmem).symm
  · rintro ⟨hsame, hvalues⟩
    refine Ordered.ofList_eq_of_perm hkeys ?_
    rw [jsonFields_eq_map, jsonFields_eq_map]
    exact @Document.perm_map_of_sameKeys _ _ _ _ id json _ _ hus hvs hsame
      fun k u v hu hv => (h k u v hu hv).mpr (hvalues k u v hu hv)

/-- **Documents show the same exactly if they are the same.** -/
theorem json_eq_iff_same (hu : u.IsDocument) :
    ∀ {v : Dynamic}, v.IsDocument → (u.json = v.json ↔ u.Same v) := by
  induction hu with
  | null =>
    intro v hv
    have hdiffer := json_eq_iff_of_kind_ne .null hv
    cases hv with
    | null => exact iff_of_true rfl .null
    | _ => exact hdiffer fun h => by cases h
  | number hx =>
    intro v hv
    have hdiffer := json_eq_iff_of_kind_ne (.number hx) hv
    cases hv with
    | number hy =>
      rw [json, json, double_eq_iff hx hy]
      exact ⟨.number, fun h => by cases h with | number h => exact h⟩
    | _ => exact hdiffer fun h => by cases h
  | text s =>
    intro v hv
    have hdiffer := json_eq_iff_of_kind_ne (.text s) hv
    cases hv with
    | text t =>
      refine ⟨fun h => ?_, fun h => by cases h; rfl⟩
      obtain rfl := Json.text.inj h
      exact .text s
    | _ => exact hdiffer fun h => by cases h
  | bool b =>
    intro v hv
    have hdiffer := json_eq_iff_of_kind_ne (.bool b) hv
    cases hv with
    | bool c =>
      refine ⟨fun h => ?_, fun h => by cases h; rfl⟩
      obtain rfl := Json.bool.inj h
      exact .bool b
    | _ => exact hdiffer fun h => by cases h
  | @struct us hnodup hus ih =>
    intro v hv
    have hdiffer := json_eq_iff_of_kind_ne (.struct hnodup hus) hv
    cases hv with
    | @struct vs hnodup' hvs =>
      have hiff := ofList_jsonFields_eq_iff hnodup hnodup'
        fun k u v hu hv => ih (k, u) hu (hvs (k, v) hv)
      rw [json, json, Json.object.injEq, hiff]
      exact ⟨fun h => .struct h.1 h.2, fun h => by cases h with | struct hk hv => exact ⟨hk, hv⟩⟩
    | _ => exact hdiffer fun h => by cases h
  | @list us hus ih =>
    intro v hv
    have hdiffer := json_eq_iff_of_kind_ne (.list hus) hv
    cases hv with
    | @list vs hvs =>
      have hiff := map_json_eq_iff fun u hu v hv => ih u hu (hvs v hv)
      rw [json, json, Json.array.injEq, jsonItems_eq_map, jsonItems_eq_map, hiff]
      exact ⟨.list, fun h => by cases h with | list h => exact h⟩
    | _ => exact hdiffer fun h => by cases h

/-- **Dynamic values show as the documents that they describe:** the form of a document shows as the
document, its members in the order of their keys and its numbers as doubles, so that integers below
`2 ^ 53` stay what they are; and documents show the same exactly if they are the same. -/
theorem json_describes :
    (∀ j, HasForm j → (ofJson j).IsDocument ∧ (ofJson j).json = shown j) ∧
      (∀ n : Int, n.natAbs < 2 ^ 53 → shown (.integer n) = .integer n) ∧
      ∀ u v : Dynamic, u.IsDocument → v.IsDocument → (u.json = v.json ↔ u.Same v) :=
  ⟨fun _ h => ⟨isDocument_ofJson h, json_ofJson h⟩, fun _ hn => shown_integer hn,
    fun _ _ hu hv => json_eq_iff_same hu hv⟩

/-- A document whose members are not in the order of their keys. -/
def invoice : Json := .object [("lines", .array [.null, .bool true]), ("due", .integer 30)]

theorem hasForm_invoice : HasForm invoice := by
  have hlines : HasForm (.array [.null, .bool true]) :=
    .array (List.forall_mem_cons.mpr ⟨.null, List.forall_mem_singleton.mpr (.bool true)⟩)
  have hdue : HasForm (.integer 30) := .integer (by decide +kernel)
  exact .object (by decide) (List.forall_mem_cons.mpr ⟨hlines, List.forall_mem_singleton.mpr hdue⟩)

theorem json_describes_invoice :
    HasForm invoice ∧
      (ofJson invoice).json =
        .object [("due", .integer 30), ("lines", .array [.null, .bool true])] ∧
      (number ⟨0⟩).json = (number ⟨0x8000000000000000⟩).json := by
  obtain ⟨hforms, hintegers, hsame⟩ := json_describes
  have hdue : shown (.integer 30) = .integer 30 := hintegers 30 (by decide)
  have hshown : shown invoice =
      .object [("due", shown (.integer 30)), ("lines", .array [.null, .bool true])] := by
    simp [invoice, shown, shownMembers, shownItems, List.mergeSort]
  have hzero {x : Double} (h : x.integral = some 0) : x.value? = some 0 := by
    rw [Double.integral_eq_some_iff.mp h, Int.cast_zero]
  have hzeros : (number ⟨0⟩).Same (number ⟨0x8000000000000000⟩) :=
    .number (Or.inr ⟨hzero (by decide +kernel), hzero (by decide +kernel)⟩)
  refine ⟨hasForm_invoice, ?_, (hsame _ _ (.number (by decide)) (.number (by decide))).mpr hzeros⟩
  rw [(hforms _ hasForm_invoice).2, hshown, hdue]

end Dynamic

end Redaction.Render
