import Mathlib.Data.List.Lex
import Redaction.Proofs.Contents

/-!
# The order of declarations

A message of a file has an address: the places, counted from zero, of the messages around it, each
among its siblings, and its own (`LiesAt`). Addresses are compared lexicographically, so what is
inside a message comes right behind it and before its next sibling.

* `exists_inOrder`: the walk goes along the addresses of the messages that are not hidden, in
  increasing order.
* `exists_places`: so do the messages that are read from a file.
-/

namespace Redaction.Schema

/-! ### Addresses -/

/-- **The address of a message:** the place of the outermost message around it among those of the
file, of the next among those directly inside that one, and so on to its own. -/
inductive LiesAt : List MessageDescriptor → List Nat → List MessageDescriptor →
    MessageDescriptor → Prop
  | outermost {ms : List MessageDescriptor} {i : Nat} {m : MessageDescriptor} : ms[i]? = some m →
      LiesAt ms [i] [m] m
  | inside {ms chain : List MessageDescriptor} {i : Nat} {address : List Nat}
      {outer m : MessageDescriptor} : ms[i]? = some outer →
      LiesAt outer.nested address chain m → LiesAt ms (i :: address) (outer :: chain) m

variable {ms chain : List MessageDescriptor} {m n : MessageDescriptor} {address : List Nat}

theorem LiesAt.isChain (h : LiesAt ms address chain m) : Chain ms chain m := by
  induction h with
  | outermost hm => exact .outermost (List.mem_of_getElem? hm)
  | inside ho _ ih => exact .inside (List.mem_of_getElem? ho) ih

theorem LiesAt.ne_nil (h : LiesAt ms address chain m) : address ≠ [] := by
  cases h <;> exact List.cons_ne_nil _ _

/-- The address behind one more message. -/
def behind : List Nat → List Nat
  | [] => []
  | i :: address => (i + 1) :: address

theorem behind_lt_behind {a b : List Nat} (ha : a ≠ []) (hb : b ≠ []) (h : a < b) :
    behind a < behind b := by
  obtain ⟨i, a, rfl⟩ := List.exists_cons_of_ne_nil ha
  obtain ⟨j, b, rfl⟩ := List.exists_cons_of_ne_nil hb
  rw [List.cons_lt_cons_iff] at h
  refine List.cons_lt_cons_iff.mpr ?_
  rcases h with h | ⟨rfl, h⟩
  · exact Or.inl (Nat.succ_lt_succ h)
  · exact Or.inr ⟨rfl, h⟩

theorem zero_cons_lt_behind {a b : List Nat} (hb : b ≠ []) : 0 :: a < behind b := by
  obtain ⟨j, b, rfl⟩ := List.exists_cons_of_ne_nil hb
  exact List.cons_lt_cons_iff.mpr (Or.inl (Nat.succ_pos j))

/-- **What lies in a list** is its first message, lies inside it, or lies in the rest. -/
theorem liesAt_cons_iff : LiesAt (m :: ms) address chain n ↔
    (address = [0] ∧ chain = [m] ∧ n = m) ∨
    (∃ a c, address = 0 :: a ∧ chain = m :: c ∧ LiesAt m.nested a c n) ∨
    (∃ a, address = behind a ∧ LiesAt ms a chain n) := by
  constructor
  · intro h
    cases h with
    | @outermost _ i _ hm =>
      cases i with
      | zero => exact Or.inl ⟨rfl, by rw [Option.some.inj hm], (Option.some.inj hm).symm⟩
      | succ i => exact Or.inr (Or.inr ⟨[i], rfl, .outermost hm⟩)
    | @inside _ c i a o _ ho h =>
      cases i with
      | zero =>
        obtain rfl := Option.some.inj ho
        exact Or.inr (Or.inl ⟨a, c, rfl, rfl, h⟩)
      | succ i => exact Or.inr (Or.inr ⟨i :: a, rfl, .inside ho h⟩)
  · rintro (⟨rfl, rfl, rfl⟩ | ⟨a, c, rfl, rfl, h⟩ | ⟨a, rfl, h⟩)
    · exact .outermost rfl
    · exact .inside rfl h
    · cases h with
      | outermost hm => exact .outermost hm
      | inside ho h => exact .inside ho h

/-! ### The order of the walk -/

/-- A message with its address and the chain that ends with it. -/
structure Place where
  address : List Nat
  chain : List MessageDescriptor
  message : MessageDescriptor

/-- A place inside the first message. -/
def Place.within (m : MessageDescriptor) (p : Place) : Place :=
  ⟨0 :: p.address, m :: p.chain, p.message⟩

/-- A place behind the first message. -/
def Place.after (p : Place) : Place := ⟨behind p.address, p.chain, p.message⟩

/-- **The places are those of the messages that are not hidden,** by increasing addresses. -/
structure InOrder (ms : List MessageDescriptor) (places : List Place) : Prop where
  sorted : places.Pairwise fun p q => p.address < q.address
  mem_iff : ∀ a c m, ⟨a, c, m⟩ ∈ places ↔ LiesAt ms a c m ∧ ∀ o ∈ c, ¬ o.isMapEntry

theorem InOrder.ne_nil {places : List Place} (h : InOrder ms places) {p : Place} (hp : p ∈ places) :
    p.address ≠ [] := ((h.mem_iff _ _ _).mp hp).1.ne_nil

/-- The places of a message and of those inside it, given what is directly inside it. -/
def firstPlaces (m : MessageDescriptor) (inner : List Place) : List Place :=
  if m.isMapEntry then [] else ⟨[0], [m], m⟩ :: inner.map (Place.within m)

theorem mem_firstPlaces {inner : List Place} : ⟨address, chain, n⟩ ∈ firstPlaces m inner ↔
    ¬ m.isMapEntry ∧ ((address = [0] ∧ chain = [m] ∧ n = m) ∨
      ∃ a c, address = 0 :: a ∧ chain = m :: c ∧ ⟨a, c, n⟩ ∈ inner) := by
  unfold firstPlaces
  split_ifs with hm
  · simp [hm]
  · rw [List.mem_cons, List.mem_map, and_iff_right hm]
    refine or_congr (by simp) ?_
    constructor
    · rintro ⟨⟨a, c, n⟩, hp, h⟩
      cases h
      exact ⟨a, c, rfl, rfl, hp⟩
    · rintro ⟨a, c, rfl, rfl, hp⟩
      exact ⟨_, hp, rfl⟩

theorem sorted_firstPlaces {inner : List Place} (hinner : InOrder m.nested inner) :
    (firstPlaces m inner).Pairwise fun p q => p.address < q.address := by
  unfold firstPlaces
  split_ifs
  · exact .nil
  · refine .cons (fun p hp => ?_) (List.pairwise_map.mpr (hinner.sorted.imp fun h =>
      List.cons_lt_cons_iff.mpr (Or.inr ⟨rfl, h⟩)))
    obtain ⟨q, hq, rfl⟩ := List.mem_map.mp hp
    obtain ⟨i, a, ha⟩ := List.exists_cons_of_ne_nil (hinner.ne_nil hq)
    exact List.cons_lt_cons_iff.mpr (Or.inr ⟨rfl, ha ▸ List.nil_lt_cons i a⟩)

/-- The places in the first message come before those in the others. -/
theorem InOrder.cons {inner others : List Place} (hinner : InOrder m.nested inner)
    (hothers : InOrder ms others) :
    InOrder (m :: ms) (firstPlaces m inner ++ others.map Place.after) := by
  have hzero : ∀ p ∈ firstPlaces m inner, ∃ a, p.address = 0 :: a := by
    intro p hp
    obtain ⟨-, ⟨ha, -, -⟩ | ⟨a, -, ha, -, -⟩⟩ := mem_firstPlaces.mp hp
    · exact ⟨[], ha⟩
    · exact ⟨a, ha⟩
  constructor
  · refine List.pairwise_append.mpr ⟨sorted_firstPlaces hinner, ?_, fun p hp q hq => ?_⟩
    · refine List.pairwise_map.mpr (hothers.sorted.imp_of_mem fun {p q} hp hq h => ?_)
      exact behind_lt_behind (hothers.ne_nil hp) (hothers.ne_nil hq) h
    · obtain ⟨a, ha⟩ := hzero p hp
      obtain ⟨r, hr, rfl⟩ := List.mem_map.mp hq
      exact ha ▸ zero_cons_lt_behind (hothers.ne_nil hr)
  · intro a c n
    rw [List.mem_append, liesAt_cons_iff, mem_firstPlaces, List.mem_map]
    constructor
    · rintro (⟨hm, ⟨rfl, rfl, rfl⟩ | ⟨a, c, rfl, rfl, h⟩⟩ | ⟨⟨b, c, n⟩, hp, h⟩)
      · exact ⟨Or.inl ⟨rfl, rfl, rfl⟩, by simpa using hm⟩
      · obtain ⟨hl, hc⟩ := (hinner.mem_iff _ _ _).mp h
        exact ⟨Or.inr (Or.inl ⟨a, c, rfl, rfl, hl⟩), List.forall_mem_cons.mpr ⟨hm, hc⟩⟩
      · obtain ⟨hl, hc⟩ := (hothers.mem_iff _ _ _).mp hp
        cases h
        exact ⟨Or.inr (Or.inr ⟨b, rfl, hl⟩), hc⟩
    · rintro ⟨⟨rfl, rfl, rfl⟩ | ⟨a, c, rfl, rfl, hl⟩ | ⟨b, rfl, hl⟩, hc⟩
      · exact Or.inl ⟨hc n List.mem_cons_self, Or.inl ⟨rfl, rfl, rfl⟩⟩
      · obtain ⟨hm, hc⟩ := List.forall_mem_cons.mp hc
        exact Or.inl ⟨hm, Or.inr ⟨a, c, rfl, rfl, (hinner.mem_iff _ _ _).mpr ⟨hl, hc⟩⟩⟩
      · exact Or.inr ⟨⟨b, c, n⟩, (hothers.mem_iff _ _ _).mpr ⟨hl, hc⟩, rfl⟩

/-- **The walk goes along the addresses in increasing order,** outer before nested, and leaves out
what is hidden. -/
theorem exists_inOrder : ∀ (ms : List MessageDescriptor) (path : List String),
    ∃ places, InOrder ms places ∧
      walkMessages path ms = places.map fun p => (path ++ p.chain.map ownName, p.message)
  | [], path => by
    refine ⟨[], ⟨.nil, fun a c m => ⟨nofun, fun h => absurd h.1.isChain not_chain_nil⟩⟩, ?_⟩
    rw [walkMessages]
    rfl
  | d :: ds, path => by
    have hlt := sizeOf_nested_lt d
    obtain ⟨inner, hinner, hwalk⟩ := exists_inOrder d.nested (path ++ [ownName d])
    obtain ⟨others, hothers, hwalk'⟩ := exists_inOrder ds path
    refine ⟨_, hinner.cons hothers, ?_⟩
    rw [walkMessages_cons, List.map_append, hwalk, hwalk', List.map_map]
    congr 1
    unfold firstPlaces
    split_ifs
    · rfl
    · rw [List.map_cons, List.map_map]
      refine congrArg _ (List.map_congr_left fun p _ => ?_)
      exact Prod.ext append_map_cons.symm rfl
termination_by ms => sizeOf ms

/-! ### The messages of a file -/

/-- **The file declares the message at the address,** and it is not hidden. -/
def DeclaredAt (index : Index) (file : FileDescriptor) (address : List Nat) (m : Message) : Prop :=
  ∃ chain d, LiesAt file.message address chain d ∧ (∀ o ∈ chain, ¬ o.isMapEntry) ∧
    Message.ofDescriptor index file (chain.map ownName) d = .ok m

/-- **The messages of a file come by increasing addresses,** each of them once and no other. -/
theorem exists_places {index : Index} {file : FileDescriptor}
    (h : ∃ ms, fileMessages index file = .ok ms) :
    ∃ places : List (List Nat × Message), places.Pairwise (fun p q => p.1 < q.1) ∧
      (∀ a m, (a, m) ∈ places ↔ DeclaredAt index file a m) ∧
      places.map (·.2) = messagesIn index file := by
  obtain ⟨ms, h⟩ := h
  obtain ⟨places, ⟨hsorted, hmem⟩, hwalk⟩ := exists_inOrder file.message []
  let read (p : Place) := Message.ofDescriptor index file (p.chain.map ownName) p.message
  have hread : List.Forall₂ (fun p m => read p = .ok m) places ms := by
    have := mapM_eq_ok.mp h
    rwa [hwalk, List.forall₂_map_left_iff] at this
  refine ⟨places.filterMap fun p => (read p).toOption.map (p.address, ·), ?_, fun a m => ?_, ?_⟩
  · refine hsorted.filterMap _ fun p q hpq x hx y hy => ?_
    obtain ⟨m, -, rfl⟩ := Option.map_eq_some_iff.mp hx
    obtain ⟨n, -, rfl⟩ := Option.map_eq_some_iff.mp hy
    exact hpq
  · rw [List.mem_filterMap]
    constructor
    · rintro ⟨⟨a, c, d⟩, hp, hm⟩
      obtain ⟨n, hn, he⟩ := Option.map_eq_some_iff.mp hm
      cases he
      obtain ⟨hl, hc⟩ := (hmem _ _ _).mp hp
      exact ⟨c, d, hl, hc, eq_ok_of_toOption hn⟩
    · rintro ⟨c, d, hl, hc, hm⟩
      refine ⟨⟨a, c, d⟩, (hmem _ _ _).mpr ⟨hl, hc⟩, ?_⟩
      rw [show read ⟨a, c, d⟩ = .ok m from hm]
      rfl
  · rw [messagesIn_eq h]
    clear h hsorted hmem hwalk
    induction hread with
    | nil => rfl
    | cons hm _ ih =>
      rw [List.filterMap_cons, hm]
      exact congrArg _ ih

/-- The messages of a file are those that it declares somewhere. -/
theorem mem_messagesIn {index : Index} {file : FileDescriptor}
    (h : ∃ ms, fileMessages index file = .ok ms) {m : Message} :
    m ∈ messagesIn index file ↔ ∃ address, DeclaredAt index file address m := by
  obtain ⟨places, -, hmem, hmessages⟩ := exists_places h
  rw [← hmessages, List.mem_map]
  constructor
  · rintro ⟨⟨a, m⟩, hp, rfl⟩
    exact ⟨a, (hmem a m).mp hp⟩
  · rintro ⟨a, ha⟩
    exact ⟨(a, m), (hmem a m).mpr ha, rfl⟩

end Redaction.Schema
