import Redaction.Proofs.Keys
import Redaction.Proofs.OrderedTables
import Redaction.Proofs.Refinement

/-!
# Objects of maps

The entries of a map come in any order, and its keys become texts. As different keys of one type
have different texts (`MapKey.name_injOn`), no entry replaces another one, and the object has them
all in the order of their texts, in whatever order they came (`map_eq_of_perm`). Adding these
members to an object one by one would keep them and their order (`ofMembers_eq`).
-/

namespace Redaction.Render

open Wire (Scalar)

variable {type : Scalar} {entries entries' : List (MapKey × Json)}

/-- **The key is one of a scalar type** that maps may have as keys. -/
def MapKey.IsOf (type : Scalar) (key : MapKey) : Prop :=
  Document.isKey type ∧ ∃ d, type.admits d ∧ Code.mapKey d = key

/-- **Different keys of one type have different texts.** -/
theorem MapKey.name_injOn {a b : MapKey} (ha : a.IsOf type) (hb : b.IsOf type)
    (h : a.name = b.name) : a = b := by
  obtain ⟨hkey, x, hx, rfl⟩ := ha
  obtain ⟨-, y, hy, rfl⟩ := hb
  rw [Code.name_mapKey, Code.name_mapKey] at h
  rw [Document.keyText_injOn hkey hx hy h]

/-- An entry with the text of its key. -/
def named (e : MapKey × Json) : String × Json := (e.1.name, e.2)

theorem nodup_names (htype : ∀ e ∈ entries, e.1.IsOf type) (hkeys : (entries.map (·.1)).Nodup) :
    ((entries.map named).map (·.1)).Nodup := by
  have hnames : (entries.map named).map (·.1) = (entries.map (·.1)).map MapKey.name := by
    rw [List.map_map, List.map_map]
    rfl
  rw [hnames]
  refine hkeys.map_on fun a ha b hb hab => ?_
  obtain ⟨e, he, rfl⟩ := List.mem_map.mp ha
  obtain ⟨e', he', rfl⟩ := List.mem_map.mp hb
  exact MapKey.name_injOn (htype e he) (htype e' he') hab

/-! ### The order of members -/

theorem foldl_insertMember : ∀ {members object : List (String × Json)},
    ((object ++ members).map (·.1)).Nodup →
      members.foldl (fun ms m => Json.insertMember m.1 m.2 ms) object = object ++ members
  | [], object, _ => by rw [List.foldl_nil, List.append_nil]
  | m :: members, object, h => by
    have hassoc : object ++ m :: members = (object ++ [m]) ++ members := by simp
    have hnew : m.1 ∉ object.map (·.1) := fun hmem => by
      rw [List.map_append, List.nodup_append] at h
      exact h.2.2 _ hmem _ (List.mem_map_of_mem List.mem_cons_self) rfl
    rw [List.foldl_cons, Code.insertMember_of_notMem hnew, hassoc]
    exact foldl_insertMember (hassoc ▸ h)

/-- **Members with different keys keep their order** as they are added to an object. -/
theorem ofMembers_eq {members : List (String × Json)} (h : (members.map (·.1)).Nodup) :
    Json.ofMembers members = .object members := by
  rw [Json.ofMembers, foldl_insertMember (by rwa [List.nil_append]), List.nil_append]

/-- **The object of a map does not depend on the order of its entries and has all of them:** one
member for each, under the text of its key, and these texts increase. -/
theorem map_eq_of_perm (htype : ∀ e ∈ entries, e.1.IsOf type) (hkeys : (entries.map (·.1)).Nodup)
    (h : entries.Perm entries') :
    ∃ members : List (String × Json), map entries = .object members ∧
      map entries' = .object members ∧ Json.ofMembers members = .object members ∧
      members.Perm (entries.map fun e => (e.1.name, e.2)) ∧
      (members.map (·.1)).Pairwise (· < ·) := by
  have hnames : ((entries.map named).map (·.1)).Nodup := nodup_names htype hkeys
  have hsorted : Ordered.Sorted (Ordered.ofList (entries.map named)) := Ordered.sorted_ofList _
  have hsame : Ordered.ofList (entries.map named) = Ordered.ofList (entries'.map named) :=
    Ordered.ofList_eq_of_perm hnames (h.map named)
  refine ⟨Ordered.ofList (entries.map named), rfl, ?_, ofMembers_eq hsorted.nodup,
    Ordered.perm_ofList hnames, List.pairwise_map.mpr hsorted⟩
  rw [hsame]
  rfl

/-- The entries of a map in which texts are not in the order of the numbers that they write. -/
def heights : List (MapKey × Json) :=
  [(.integer 10, .null), (.integer 2, .bool true), (.integer (-1), .bool false)]

theorem map_eq_of_perm_heights : (∀ e ∈ heights, e.1.IsOf .int64) ∧
    ∃ members : List (String × Json), map heights = .object members ∧
      map heights.reverse = .object members ∧ members.length = 3 ∧
      members.map (·.1) = ["-1", "10", "2"] := by
  have hinteger (n : Int) : (MapKey.integer n).IsOf .int64 := ⟨rfl, .integer n, rfl, rfl⟩
  have htype : ∀ e ∈ heights, e.1.IsOf .int64 := by simp [heights, hinteger]
  obtain ⟨members, hmap, hreverse, -, hperm, -⟩ :=
    map_eq_of_perm htype (by decide) heights.reverse_perm.symm
  have hobject : map heights =
      .object [("-1", .bool false), ("10", .null), ("2", .bool true)] := rfl
  obtain rfl := Json.object.inj (hmap.symm.trans hobject)
  exact ⟨htype, _, hmap, hreverse, rfl, rfl⟩

end Redaction.Render
