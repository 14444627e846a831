import Redaction.Proofs.DeclarationOrder

/-!
# Where declarations stand

Every message and every enum of some files stands at a site: the place of its file, the address of
the message there, and for an enum its place among those of that message, or of the file. The index
goes over the sites, each once, and has for each of them the full name and what is declared there.

* `DeclaresAt`: what the files declare at a site.
* `exists_sited`, `mem_declarations_iff`: the index has the declarations of all sites and no other.
* `nodup_keys_iff`: its names are distinct exactly if no two sites have one name (`NamesDistinct`).
* `exists_sites_of_firstRepeated`: the name that is reported when they are not is that of two sites.
-/

namespace Redaction.Schema

variable {ms : List MessageDescriptor} {m : MessageDescriptor} {package : String}
  {path : List String} {files : List FileDescriptor} {file : FileDescriptor}

/-! ### Sites -/

/-- A declaration under its full name. -/
abbrev Named := String × Declaration

/-- The place of a message or an enum: the address of a message, and the place of one of its enums
if it is not the message itself. -/
abbrev LocalSite := List Nat × Option Nat

/-- **What stands at a site among messages.** -/
inductive StandsAt (package : String) (path : List String) (ms : List MessageDescriptor) :
    LocalSite → Named → Prop
  | message {address : List Nat} {chain : List MessageDescriptor} {m : MessageDescriptor} :
      LiesAt ms address chain m → StandsAt package path ms (address, none)
        (qualify package (path ++ chain.map ownName), .message m)
  | enumeration {address : List Nat} {chain : List MessageDescriptor} {m : MessageDescriptor}
      {place : Nat} {e : EnumDescriptor} : LiesAt ms address chain m → m.enum[place]? = some e →
      StandsAt package path ms (address, some place)
        (qualify package (path ++ chain.map ownName ++ [e.name.getD ""]), .enumeration)

/-- What stands at a site of a file, whose own enums have no address. -/
inductive StandsIn (file : FileDescriptor) : LocalSite → Named → Prop
  | enumeration {place : Nat} {e : EnumDescriptor} : file.enum[place]? = some e →
      StandsIn file ([], some place)
        (qualify (file.package.getD "") [e.name.getD ""], .enumeration)
  | inside {site : LocalSite} {d : Named} :
      StandsAt (file.package.getD "") [] file.message site d → StandsIn file site d

/-- **What files declare at a site,** with its full name; the number is the place of the file. -/
inductive DeclaresAt (files : List FileDescriptor) : Nat × LocalSite → Named → Prop
  | intro {place : Nat} {file : FileDescriptor} {site : LocalSite} {d : Named} :
      files[place]? = some file → StandsIn file site d → DeclaresAt files (place, site) d

theorem StandsAt.ne_nil {site : LocalSite} {d : Named} (h : StandsAt package path ms site d) :
    site.1 ≠ [] := by
  cases h with
  | message h => exact h.ne_nil
  | enumeration h _ => exact h.ne_nil

/-! ### Declarations with their sites -/

/-- **The entries are the declarations of an index with their sites,** each site once. -/
structure Sited {σ : Type} (standsAt : σ → Named → Prop) (index : Index)
    (entries : List (σ × Named)) : Prop where
  nodup : (entries.map (·.1)).Nodup
  mem_iff : ∀ s d, (s, d) ∈ entries ↔ standsAt s d
  index_eq : entries.map (·.2) = index

/-- The enums of a message or a file, with their places. -/
def enumEntries (package : String) (path : List String) (enums : List EnumDescriptor) :
    List (Option Nat × Named) :=
  enums.zipIdx.map fun e => (some e.2, qualify package (path ++ [e.1.name.getD ""]), .enumeration)

theorem mem_enumEntries {enums : List EnumDescriptor} {place : Option Nat} {d : Named} :
    (place, d) ∈ enumEntries package path enums ↔ ∃ i e, place = some i ∧ enums[i]? = some e ∧
      d = (qualify package (path ++ [e.name.getD ""]), .enumeration) := by
  unfold enumEntries
  rw [List.mem_map]
  constructor
  · rintro ⟨⟨e, i⟩, he, h⟩
    obtain ⟨rfl, rfl⟩ := Prod.mk.inj h
    exact ⟨i, e, rfl, List.mem_zipIdx_iff_getElem?.mp he, rfl⟩
  · rintro ⟨i, e, rfl, he, rfl⟩
    exact ⟨(e, i), List.mem_zipIdx_iff_getElem?.mpr he, rfl⟩

theorem nodup_enumEntries (enums : List EnumDescriptor) :
    ((enumEntries package path enums).map (·.1)).Nodup := by
  have hplaces : (enumEntries package path enums).map (·.1) =
      (enums.zipIdx.map (·.2)).map some := by
    unfold enumEntries
    rw [List.map_map, List.map_map]
    rfl
  rw [hplaces]
  rw [List.zipIdx_map_snd]
  exact List.Nodup.map (Option.some_injective _) (List.nodup_range' _)

theorem index_enumEntries (enums : List EnumDescriptor) :
    (enumEntries package path enums).map (·.2) =
      enums.map fun e => (qualify package (path ++ [e.name.getD ""]), .enumeration) := by
  unfold enumEntries
  rw [List.map_map]
  conv_rhs => rw [← List.zipIdx_map_fst 0 enums, List.map_map]
  rfl

/-- A message and its own enums. -/
def ownEntries (package : String) (path : List String) (m : MessageDescriptor) :
    List (Option Nat × Named) :=
  (none, qualify package path, .message m) :: enumEntries package path m.enum

theorem nodup_ownEntries (m : MessageDescriptor) :
    ((ownEntries package path m).map (·.1)).Nodup := by
  refine List.nodup_cons.mpr ⟨fun h => ?_, nodup_enumEntries m.enum⟩
  obtain ⟨⟨place, d⟩, hd, rfl⟩ := List.mem_map.mp h
  obtain ⟨i, e, hnone, -⟩ := mem_enumEntries.mp hd
  cases hnone

/-- **What stands among messages** is the first of them or one of its enums, stands inside it, or
stands among the others. -/
theorem standsAt_cons_iff {address : List Nat} {place : Option Nat} {d : Named} :
    StandsAt package path (m :: ms) (address, place) d ↔
      (address = [0] ∧ (place, d) ∈ ownEntries package (path ++ [ownName m]) m) ∨
      (∃ a, address = 0 :: a ∧ StandsAt package (path ++ [ownName m]) m.nested (a, place) d) ∨
      (∃ a, address = behind a ∧ StandsAt package path ms (a, place) d) := by
  constructor
  · intro h
    cases h with
    | message h =>
      rcases liesAt_cons_iff.mp h with ⟨rfl, rfl, rfl⟩ | ⟨a, c, rfl, rfl, hin⟩ | ⟨a, rfl, hin⟩
      · exact Or.inl ⟨rfl, List.mem_cons_self⟩
      · exact Or.inr (Or.inl ⟨a, rfl, append_map_cons ▸ .message hin⟩)
      · exact Or.inr (Or.inr ⟨a, rfl, .message hin⟩)
    | enumeration h he =>
      rcases liesAt_cons_iff.mp h with ⟨rfl, rfl, rfl⟩ | ⟨a, c, rfl, rfl, hin⟩ | ⟨a, rfl, hin⟩
      · exact Or.inl ⟨rfl, List.mem_cons_of_mem _ (mem_enumEntries.mpr ⟨_, _, rfl, he, rfl⟩)⟩
      · exact Or.inr (Or.inl ⟨a, rfl, append_map_cons ▸ .enumeration hin he⟩)
      · exact Or.inr (Or.inr ⟨a, rfl, .enumeration hin he⟩)
  · rintro (⟨rfl, h⟩ | ⟨a, rfl, h⟩ | ⟨a, rfl, h⟩)
    · have hm : LiesAt (m :: ms) [0] [m] m := .outermost rfl
      rcases List.mem_cons.mp h with h | h
      · obtain ⟨rfl, rfl⟩ := Prod.mk.inj h
        exact .message hm
      · obtain ⟨i, e, rfl, he, rfl⟩ := mem_enumEntries.mp h
        exact .enumeration hm he
    · cases h with
      | message h =>
        rw [← append_map_cons]
        exact .message (.inside rfl h)
      | enumeration h he =>
        rw [← append_map_cons]
        exact .enumeration (.inside rfl h) he
    · cases h with
      | message h => exact .message (liesAt_cons_iff.mpr (Or.inr (Or.inr ⟨a, rfl, h⟩)))
      | enumeration h he =>
        exact .enumeration (liesAt_cons_iff.mpr (Or.inr (Or.inr ⟨a, rfl, h⟩))) he

theorem behind_injective : Function.Injective behind := by
  intro a b h
  cases a <;> cases b <;> simp_all [behind]

theorem zero_cons_ne_behind (a b : List Nat) : 0 :: a ≠ behind b := by
  cases b <;> simp [behind]

/-- The entries of the first message and its enums, of what is inside it, and of the others. -/
def consEntries (own : List (Option Nat × Named)) (inner others : List (LocalSite × Named)) :
    List (LocalSite × Named) :=
  own.map (fun e => (([0], e.1), e.2)) ++ (inner.map (fun e => ((0 :: e.1.1, e.1.2), e.2)) ++
    others.map (fun e => ((behind e.1.1, e.1.2), e.2)))

theorem mem_consEntries {own : List (Option Nat × Named)} {inner others : List (LocalSite × Named)}
    {address : List Nat} {place : Option Nat} {d : Named} :
    ((address, place), d) ∈ consEntries own inner others ↔
      (address = [0] ∧ (place, d) ∈ own) ∨
      (∃ a, address = 0 :: a ∧ ((a, place), d) ∈ inner) ∨
      ∃ a, address = behind a ∧ ((a, place), d) ∈ others := by
  unfold consEntries
  rw [List.mem_append, List.mem_append, List.mem_map, List.mem_map, List.mem_map]
  refine or_congr ⟨?_, ?_⟩ (or_congr ⟨?_, ?_⟩ ⟨?_, ?_⟩)
  · rintro ⟨⟨i, e⟩, he, h⟩
    cases h
    exact ⟨rfl, he⟩
  · rintro ⟨rfl, h⟩
    exact ⟨_, h, rfl⟩
  · rintro ⟨⟨⟨a, i⟩, e⟩, he, h⟩
    cases h
    exact ⟨a, rfl, he⟩
  · rintro ⟨a, rfl, h⟩
    exact ⟨_, h, rfl⟩
  · rintro ⟨⟨⟨a, i⟩, e⟩, he, h⟩
    cases h
    exact ⟨a, rfl, he⟩
  · rintro ⟨a, rfl, h⟩
    exact ⟨_, h, rfl⟩

/-- The three parts share no site, as no address inside the first message is empty. -/
theorem nodup_consEntries {own : List (Option Nat × Named)}
    {inner others : List (LocalSite × Named)} (hown : (own.map (·.1)).Nodup)
    (hinner : (inner.map (·.1)).Nodup) (hothers : (others.map (·.1)).Nodup)
    (hne : ∀ e ∈ inner, e.1.1 ≠ []) : ((consEntries own inner others).map (·.1)).Nodup := by
  have hwithin : Function.Injective fun s : LocalSite => ((0 :: s.1, s.2) : LocalSite) := by
    rintro ⟨a, i⟩ ⟨b, j⟩ h
    simpa using h
  have hafter : Function.Injective fun s : LocalSite => ((behind s.1, s.2) : LocalSite) := by
    rintro ⟨a, i⟩ ⟨b, j⟩ h
    obtain ⟨hab, hij⟩ := Prod.mk.inj h
    exact Prod.ext (behind_injective hab) hij
  have hown := hown.map (Prod.mk_right_injective [0])
  have hinner := hinner.map hwithin
  have hothers := hothers.map hafter
  rw [List.map_map] at hown hinner hothers
  unfold consEntries
  rw [List.map_append, List.map_append, List.map_map, List.map_map, List.map_map]
  refine List.nodup_append.mpr ⟨hown, List.nodup_append.mpr ⟨hinner, hothers, ?_⟩, ?_⟩
  · rintro s hs s' hs' rfl
    obtain ⟨e, -, rfl⟩ := List.mem_map.mp hs
    obtain ⟨e', -, h⟩ := List.mem_map.mp hs'
    exact zero_cons_ne_behind _ _ (congrArg Prod.fst h).symm
  · rintro s hs s' hs' rfl
    obtain ⟨e, -, rfl⟩ := List.mem_map.mp hs
    rcases List.mem_append.mp hs' with hs' | hs'
    · obtain ⟨e', he', h⟩ := List.mem_map.mp hs'
      exact hne e' he' (List.cons.inj (congrArg Prod.fst h)).2
    · obtain ⟨e', -, h⟩ := List.mem_map.mp hs'
      exact zero_cons_ne_behind _ _ (congrArg Prod.fst h).symm

theorem Sited.cons {inner others : List (LocalSite × Named)}
    (hinner : Sited (StandsAt package (path ++ [ownName m]) m.nested)
      (Index.ofMessages package (path ++ [ownName m]) m.nested) inner)
    (hothers : Sited (StandsAt package path ms) (Index.ofMessages package path ms) others) :
    Sited (StandsAt package path (m :: ms)) (Index.ofMessages package path (m :: ms))
      (consEntries (ownEntries package (path ++ [ownName m]) m) inner others) := by
  constructor
  · exact nodup_consEntries (nodup_ownEntries m) hinner.nodup hothers.nodup fun e he =>
      ((hinner.mem_iff _ _).mp he).ne_nil
  · rintro ⟨address, place⟩ d
    rw [standsAt_cons_iff, mem_consEntries]
    simp only [hinner.mem_iff, hothers.mem_iff]
  · have hown : (ownEntries package (path ++ [ownName m]) m).map (·.2) = _ :=
      congrArg (_ :: ·) (index_enumEntries m.enum)
    unfold consEntries
    rw [ofMessages_cons, ← hinner.index_eq, ← hothers.index_eq, List.map_append, List.map_append,
      List.map_map, List.map_map, List.map_map, List.append_assoc]
    exact congrArg (· ++ _) hown

/-- The index of messages has what stands among them. -/
theorem exists_sited_messages (package : String) :
    ∀ (ms : List MessageDescriptor) (path : List String),
      ∃ entries, Sited (StandsAt package path ms) (Index.ofMessages package path ms) entries
  | [], path => by
    refine ⟨[], .nil, fun s d => ⟨nofun, fun h => ?_⟩, by rw [Index.ofMessages]; rfl⟩
    cases h with
    | message h => exact absurd h.isChain not_chain_nil
    | enumeration h _ => exact absurd h.isChain not_chain_nil
  | m :: ms, path => by
    have hlt := sizeOf_nested_lt m
    obtain ⟨inner, hinner⟩ := exists_sited_messages package m.nested (path ++ [ownName m])
    obtain ⟨others, hothers⟩ := exists_sited_messages package ms path
    exact ⟨_, hinner.cons hothers⟩
termination_by ms => sizeOf ms

/-- The index of a file has what stands in it. -/
theorem exists_sited_file (file : FileDescriptor) :
    ∃ entries, Sited (StandsIn file) (Index.ofFile file) entries := by
  obtain ⟨inner, hinner⟩ := exists_sited_messages (file.package.getD "") file.message []
  let own := enumEntries (file.package.getD "") [] file.enum
  refine ⟨own.map (fun e => (([], e.1), e.2)) ++ inner, ?_, fun s d => ?_, ?_⟩
  · rw [List.map_append, List.map_map]
    refine List.nodup_append.mpr ⟨?_, hinner.nodup, ?_⟩
    · have := (@nodup_enumEntries (file.package.getD "") [] file.enum).map
        (Prod.mk_right_injective ([] : List Nat))
      rwa [List.map_map] at this
    · rintro s hs s' hs' rfl
      obtain ⟨e, -, rfl⟩ := List.mem_map.mp hs
      obtain ⟨⟨s', d⟩, he, rfl⟩ := List.mem_map.mp hs'
      exact ((hinner.mem_iff _ _).mp he).ne_nil rfl
  · rw [List.mem_append, List.mem_map, hinner.mem_iff]
    constructor
    · rintro (⟨⟨place, d⟩, he, h⟩ | h)
      · cases h
        obtain ⟨i, e, rfl, hplace, rfl⟩ := mem_enumEntries.mp he
        exact .enumeration hplace
      · exact .inside h
    · intro h
      cases h with
      | enumeration he => exact Or.inl ⟨_, mem_enumEntries.mpr ⟨_, _, rfl, he, rfl⟩, rfl⟩
      | inside h => exact Or.inr h
  · have hown : own.map (·.2) = _ := index_enumEntries file.enum
    rw [List.map_append, hinner.index_eq, List.map_map, Index.ofFile]
    exact congrArg (· ++ _) hown

/-- **The index of all files has what they declare,** each site once. -/
theorem exists_sited (files : List FileDescriptor) :
    ∃ entries, Sited (DeclaresAt files) (declarations files) entries := by
  choose entriesOf hentries using exists_sited_file
  refine ⟨files.zipIdx.flatMap fun f => (entriesOf f.1).map fun e => ((f.2, e.1), e.2),
    ?_, ?_, ?_⟩
  · rw [List.map_flatMap]
    refine List.nodup_flatMap.mpr ⟨fun f _ => ?_, ?_⟩
    · have := (hentries f.1).nodup.map (Prod.mk_right_injective f.2)
      rwa [List.map_map] at this ⊢
    · have hplaces : files.zipIdx.Pairwise fun f g => f.2 ≠ g.2 :=
          List.pairwise_map.mp (List.zipIdx_map_snd 0 files ▸ List.nodup_range')
      refine hplaces.imp fun {f g} hne s hf hg => hne ?_
      obtain ⟨x, hx, rfl⟩ := List.mem_map.mp hf
      obtain ⟨y, hy, h⟩ := List.mem_map.mp hg
      obtain ⟨e, -, rfl⟩ := List.mem_map.mp hx
      obtain ⟨e', -, rfl⟩ := List.mem_map.mp hy
      exact (congrArg Prod.fst h).symm
  · rintro ⟨place, site⟩ d
    rw [List.mem_flatMap]
    constructor
    · rintro ⟨⟨file, i⟩, hf, he⟩
      obtain ⟨⟨s, e⟩, hs, h⟩ := List.mem_map.mp he
      cases h
      exact .intro (List.mem_zipIdx_iff_getElem?.mp hf) (((hentries file).mem_iff _ _).mp hs)
    · rintro @⟨_, file, _, _, hf, hd⟩
      exact ⟨(file, place), List.mem_zipIdx_iff_getElem?.mpr hf,
        List.mem_map_of_mem (((hentries file).mem_iff _ _).mpr hd)⟩
  · rw [List.map_flatMap, declarations]
    conv_rhs => rw [← List.zipIdx_map_fst 0 files, List.flatMap_map]
    refine List.flatMap_congr fun f _ => ?_
    rw [List.map_map, ← (hentries f.1).index_eq]
    rfl

/-- **The files declare something under a name,** at whatever site. -/
def HasDeclaration (files : List FileDescriptor) (name : String) (d : Declaration) : Prop :=
  ∃ site, DeclaresAt files site (name, d)

theorem mem_declarations_iff {name : String} {d : Declaration} :
    (name, d) ∈ declarations files ↔ HasDeclaration files name d := by
  obtain ⟨entries, hentries⟩ := exists_sited files
  rw [← hentries.index_eq, List.mem_map]
  constructor
  · rintro ⟨⟨s, _⟩, hs, rfl⟩
    exact ⟨s, (hentries.mem_iff _ _).mp hs⟩
  · rintro ⟨s, hs⟩
    exact ⟨_, (hentries.mem_iff _ _).mpr hs, rfl⟩

/-! ### Distinct names -/

/-- **No two sites have one name.** -/
def NamesDistinct (files : List FileDescriptor) : Prop :=
  ∀ s s' name d d', DeclaresAt files s (name, d) → DeclaresAt files s' (name, d') → s = s'

/-- The names of the index are distinct if no two sites have one name. -/
theorem nodup_keys_iff : ((declarations files).map (·.1)).Nodup ↔ NamesDistinct files := by
  obtain ⟨entries, hentries⟩ := exists_sited files
  rw [← hentries.index_eq, List.map_map, List.nodup_map_iff_inj_on (.of_map _ hentries.nodup)]
  constructor
  · intro h s s' name d d' hs hs'
    exact congrArg Prod.fst (h _ ((hentries.mem_iff _ _).mpr hs) _
      ((hentries.mem_iff _ _).mpr hs') rfl)
  · rintro h ⟨s, name, d⟩ hs ⟨s', name', d'⟩ hs' rfl
    refine List.inj_on_of_nodup_map hentries.nodup hs hs' ?_
    exact h s s' name d d' ((hentries.mem_iff _ _).mp hs) ((hentries.mem_iff _ _).mp hs')

/-- A name that is repeated comes up a second time, or has been seen before. -/
theorem firstRepeated_eq_some {name : String} : ∀ {names seen : List String},
    Index.firstRepeated seen names = some name →
      (name ∈ seen ∧ name ∈ names) ∨ [name, name].Sublist names
  | first :: names, seen, h => by
    unfold Index.firstRepeated at h
    split_ifs at h with hfirst
    · rw [Option.some.injEq] at h
      exact Or.inl ⟨h ▸ hfirst, h ▸ List.mem_cons_self⟩
    · rcases firstRepeated_eq_some h with ⟨hseen, hname⟩ | hsub
      · rcases List.mem_cons.mp hseen with rfl | hseen
        · exact Or.inr ((List.singleton_sublist.mpr hname).cons_cons _)
        · exact Or.inl ⟨hseen, List.mem_cons_of_mem _ hname⟩
      · exact Or.inr (hsub.cons _)

/-- **The name that is reported is that of two sites.** -/
theorem exists_sites_of_firstRepeated {name : String}
    (h : Index.firstRepeated [] ((declarations files).map (·.1)) = some name) :
    ∃ s s' d d', s ≠ s' ∧ DeclaresAt files s (name, d) ∧ DeclaresAt files s' (name, d') := by
  obtain ⟨entries, hentries⟩ := exists_sited files
  have hsub := (firstRepeated_eq_some h).resolve_left fun hs => List.not_mem_nil hs.1
  rw [← hentries.index_eq, List.map_map] at hsub
  obtain ⟨pair, hpair, hnames⟩ := List.sublist_map_iff.mp hsub
  match pair, hnames with
  | [(s, first, d), (s', second, d')], hnames =>
    obtain ⟨hfirst, hrest⟩ := List.cons.inj hnames
    obtain ⟨hsecond, -⟩ := List.cons.inj hrest
    obtain rfl : name = first := hfirst
    obtain rfl : name = second := hsecond
    have hne := hentries.nodup.sublist (hpair.map (·.1))
    refine ⟨s, s', d, d', ?_, (hentries.mem_iff _ _).mp (hpair.subset List.mem_cons_self),
      (hentries.mem_iff _ _).mp (hpair.subset (List.mem_cons_of_mem _ List.mem_cons_self))⟩
    simpa using hne

end Redaction.Schema
