import Mathlib.Data.List.Nodup
import Mathlib.Data.List.Pairwise
import Redaction.Proofs.OrderedTables
import Redaction.Schema.Load

/-!
# Where messages are declared

A message is declared in a file, at the end of a chain of messages each of which is declared
directly inside the one before (`Chain`). Two functions go down these chains: the index takes every
message at the end of one, the walk over the messages of a file only those whose chain has no entry
message in it.

* `mem_walkMessages`, `message_mem_ofMessages`: what the walk and the index have, by their chains.
* `DeclaredAs`: a message is declared in one of some files, under its full name.
* `message?_eq_some_iff`: what the index has under a name is what is declared under it.
* `DeclaredAs.unique`: files have an index only if no two chains in them have the same full name.
-/

namespace Redaction.Schema

/-- The name that a message has inside the one around it. -/
def ownName (m : MessageDescriptor) : String := m.name.getD ""

/-- **A message with all messages around it,** the outermost, which is one of `ms`, first, and the
message itself last. -/
inductive Chain : List MessageDescriptor → List MessageDescriptor → MessageDescriptor → Prop
  | outermost {ms : List MessageDescriptor} {m : MessageDescriptor} : m ∈ ms → Chain ms [m] m
  | inside {ms chain : List MessageDescriptor} {outer m : MessageDescriptor} : outer ∈ ms →
      Chain outer.nested chain m → Chain ms (outer :: chain) m

variable {ms chain : List MessageDescriptor} {m n : MessageDescriptor} {package : String}
  {path : List String}

theorem not_chain_nil : ¬ Chain [] chain m := by
  intro h
  cases h with
  | outermost hm => exact absurd hm List.not_mem_nil
  | inside ho _ => exact absurd ho List.not_mem_nil

/-- **Chains that start from the first message** consist of it alone or go on inside it. -/
theorem chain_cons_iff : Chain (m :: ms) chain n ↔
    (chain = [m] ∧ n = m ∨ ∃ rest, chain = m :: rest ∧ Chain m.nested rest n) ∨
      Chain ms chain n := by
  constructor
  · intro h
    cases h with
    | outermost hm =>
      rcases List.mem_cons.mp hm with rfl | hm
      · exact Or.inl (Or.inl ⟨rfl, rfl⟩)
      · exact Or.inr (.outermost hm)
    | inside ho h =>
      rcases List.mem_cons.mp ho with rfl | ho
      · exact Or.inl (Or.inr ⟨_, rfl, h⟩)
      · exact Or.inr (.inside ho h)
  · rintro ((⟨rfl, rfl⟩ | ⟨rest, rfl, h⟩) | h)
    · exact .outermost List.mem_cons_self
    · exact .inside List.mem_cons_self h
    · cases h with
      | outermost hm => exact .outermost (List.mem_cons_of_mem _ hm)
      | inside ho h => exact .inside (List.mem_cons_of_mem _ ho) h

/-- A chain ends with its message. -/
theorem Chain.getLast? (h : Chain ms chain m) : chain.getLast? = some m := by
  induction h with
  | outermost => rfl
  | @inside _ chain _ _ _ _ ih =>
    rw [List.getLast?_cons, ih]
    rfl

theorem sizeOf_nested_lt (m : MessageDescriptor) : sizeOf m.nested < sizeOf m := by
  cases m
  simp only [MessageDescriptor.mk.sizeOf_spec]
  omega

/-! ### The walk -/

theorem walkMessages_cons : walkMessages path (m :: ms) =
    (if m.isMapEntry then []
      else (path ++ [ownName m], m) :: walkMessages (path ++ [ownName m]) m.nested) ++
      walkMessages path ms := by
  cases m
  rw [walkMessages, walkMessage]
  rfl

theorem mem_walkMessages_cons {e : List String × MessageDescriptor} :
    e ∈ walkMessages path (m :: ms) ↔
      (¬ m.isMapEntry ∧
        (e = (path ++ [ownName m], m) ∨ e ∈ walkMessages (path ++ [ownName m]) m.nested)) ∨
      e ∈ walkMessages path ms := by
  rw [walkMessages_cons, List.mem_append]
  split_ifs with h
  · simp [h]
  · rw [List.mem_cons, and_iff_right h]

/-- **The walk takes the messages whose chain has no entry message,** each with the names along its
chain as its path. -/
theorem mem_walkMessages : ∀ {ms : List MessageDescriptor} {path : List String}
    {e : List String × MessageDescriptor}, e ∈ walkMessages path ms ↔
      ∃ chain, Chain ms chain e.2 ∧ e.1 = path ++ chain.map ownName ∧ ∀ o ∈ chain, ¬ o.isMapEntry
  | [], path, e => by
    rw [walkMessages]
    exact ⟨fun h => absurd h List.not_mem_nil, fun ⟨_, h, _⟩ => absurd h not_chain_nil⟩
  | m :: ms, path, e => by
    have hlt := sizeOf_nested_lt m
    rw [mem_walkMessages_cons, @mem_walkMessages m.nested, @mem_walkMessages ms]
    constructor
    · rintro (⟨hm, rfl | ⟨chain, hc, hpath, hchain⟩⟩ | ⟨chain, hc, h⟩)
      · exact ⟨[m], chain_cons_iff.mpr (Or.inl (Or.inl ⟨rfl, rfl⟩)), rfl, by simpa using hm⟩
      · exact ⟨m :: chain, chain_cons_iff.mpr (Or.inl (Or.inr ⟨chain, rfl, hc⟩)),
          hpath.trans (List.append_assoc _ _ _), List.forall_mem_cons.mpr ⟨hm, hchain⟩⟩
      · exact ⟨chain, chain_cons_iff.mpr (Or.inr hc), h⟩
    · rintro ⟨chain, hc, hpath, hchain⟩
      rcases chain_cons_iff.mp hc with (⟨rfl, hm⟩ | ⟨rest, rfl, hrest⟩) | hc
      · exact Or.inl ⟨hchain m List.mem_cons_self, Or.inl (Prod.ext hpath hm)⟩
      · obtain ⟨hm, hchain⟩ := List.forall_mem_cons.mp hchain
        exact Or.inl ⟨hm, Or.inr ⟨rest, hrest, hpath.trans (List.append_cons _ _ _), hchain⟩⟩
      · exact Or.inr ⟨chain, hc, hpath, hchain⟩
termination_by ms => sizeOf ms

/-! ### The index -/

theorem ofMessages_cons : Index.ofMessages package path (m :: ms) =
    (qualify package (path ++ [ownName m]), .message m) ::
      m.enum.map (fun e =>
        (qualify package (path ++ [ownName m] ++ [e.name.getD ""]), .enumeration)) ++
      Index.ofMessages package (path ++ [ownName m]) m.nested ++
      Index.ofMessages package path ms := by
  cases m
  rw [Index.ofMessages, Index.ofMessage]
  rfl

theorem message_mem_ofMessages_cons {name : String} :
    (name, .message n) ∈ Index.ofMessages package path (m :: ms) ↔
      ((name = qualify package (path ++ [ownName m]) ∧ n = m) ∨
        (name, .message n) ∈ Index.ofMessages package (path ++ [ownName m]) m.nested) ∨
      (name, .message n) ∈ Index.ofMessages package path ms := by
  rw [ofMessages_cons]
  simp [or_assoc]

/-- **The index has every message,** under the names along its chain. -/
theorem message_mem_ofMessages : ∀ {ms : List MessageDescriptor} {path : List String}
    {name : String} {n : MessageDescriptor},
    (name, .message n) ∈ Index.ofMessages package path ms ↔
      ∃ chain, Chain ms chain n ∧ name = qualify package (path ++ chain.map ownName)
  | [], path, name, n => by
    rw [Index.ofMessages]
    exact ⟨fun h => absurd h List.not_mem_nil, fun ⟨_, h, _⟩ => absurd h not_chain_nil⟩
  | m :: ms, path, name, n => by
    have hlt := sizeOf_nested_lt m
    rw [message_mem_ofMessages_cons, @message_mem_ofMessages m.nested,
      @message_mem_ofMessages ms]
    constructor
    · rintro ((⟨rfl, rfl⟩ | ⟨chain, hc, rfl⟩) | ⟨chain, hc, h⟩)
      · exact ⟨[n], chain_cons_iff.mpr (Or.inl (Or.inl ⟨rfl, rfl⟩)), rfl⟩
      · exact ⟨m :: chain, chain_cons_iff.mpr (Or.inl (Or.inr ⟨chain, rfl, hc⟩)),
          congrArg (qualify package) (List.append_assoc _ _ _)⟩
      · exact ⟨chain, chain_cons_iff.mpr (Or.inr hc), h⟩
    · rintro ⟨chain, hc, rfl⟩
      rcases chain_cons_iff.mp hc with (⟨rfl, rfl⟩ | ⟨rest, rfl, hrest⟩) | hc
      · exact Or.inl (Or.inl ⟨rfl, rfl⟩)
      · exact Or.inl (Or.inr ⟨rest, hrest, congrArg (qualify package) (List.append_cons _ _ _)⟩)
      · exact Or.inr ⟨chain, hc, rfl⟩
termination_by ms => sizeOf ms

/-! ### Names are distinct -/

theorem firstRepeated_eq_none_iff : ∀ {names seen : List String},
    Index.firstRepeated seen names = none ↔ names.Nodup ∧ ∀ name ∈ names, name ∉ seen
  | [], seen => by simp [Index.firstRepeated]
  | name :: names, seen => by
    unfold Index.firstRepeated
    split_ifs with h
    · simp [h]
    · rw [firstRepeated_eq_none_iff]
      simp only [List.nodup_cons, List.mem_cons, forall_eq_or_imp, not_or]
      grind

variable {files : List FileDescriptor} {index : Index}

/-- **Files have an index if no name is declared twice.** -/
theorem ofFiles_eq_ok_iff : Index.ofFiles files = .ok index ↔
    ((files.flatMap Index.ofFile).map (·.1)).Nodup ∧ files.flatMap Index.ofFile = index := by
  unfold Index.ofFiles
  dsimp only
  split
  · next name h =>
    refine ⟨nofun, fun hn => ?_⟩
    rw [firstRepeated_eq_none_iff.mpr ⟨hn.1, fun _ _ => List.not_mem_nil⟩] at h
    cases h
  · next h => rw [Except.ok.injEq, iff_and_self]; exact fun _ => (firstRepeated_eq_none_iff.mp h).1

/-- The names along a chain are a key of the index. -/
theorem Chain.mem_keys (h : Chain ms chain m) : qualify package (path ++ chain.map ownName) ∈
    (Index.ofMessages package path ms).map (·.1) :=
  List.mem_map_of_mem (message_mem_ofMessages.mpr ⟨chain, h, rfl⟩)

theorem append_map_cons {rest : List MessageDescriptor} :
    path ++ (m :: rest).map ownName = path ++ [ownName m] ++ rest.map ownName :=
  List.append_cons _ _ _

theorem Chain.mem_keys_nested {rest : List MessageDescriptor} (h : Chain m.nested rest n) :
    qualify package (path ++ (m :: rest).map ownName) ∈
      (Index.ofMessages package (path ++ [ownName m]) m.nested).map (·.1) := by
  rw [append_map_cons]
  exact h.mem_keys

/-- Names are distinct if the first message, what is inside it, and the others do not share any. -/
theorem nodup_ofMessages_cons (h : ((Index.ofMessages package path (m :: ms)).map (·.1)).Nodup) :
    let own := qualify package (path ++ [ownName m])
    let nested := (Index.ofMessages package (path ++ [ownName m]) m.nested).map (·.1)
    let others := (Index.ofMessages package path ms).map (·.1)
    (∀ name ∈ nested, own ≠ name) ∧ (∀ name ∈ others, own ≠ name) ∧
      (∀ name ∈ nested, ∀ name' ∈ others, name ≠ name') ∧ nested.Nodup ∧ others.Nodup := by
  rw [ofMessages_cons] at h
  simp only [List.map_append, List.map_cons, List.cons_append, List.nodup_cons, List.mem_append,
    not_or, List.nodup_append] at h
  obtain ⟨⟨⟨-, hown⟩, hown'⟩, ⟨⟨-, hnested, -⟩, hothers, hdis⟩⟩ := h
  exact ⟨fun name hm he => hown (he ▸ hm), fun name hm he => hown' (he ▸ hm),
    fun name hm => hdis name (Or.inr hm), hnested, hothers⟩

/-- **A name leads down one chain,** if names are distinct. -/
theorem Chain.unique : ∀ {ms : List MessageDescriptor} {path : List String}
    {c c' : List MessageDescriptor} {m m' : MessageDescriptor},
    ((Index.ofMessages package path ms).map (·.1)).Nodup → Chain ms c m → Chain ms c' m' →
    qualify package (path ++ c.map ownName) = qualify package (path ++ c'.map ownName) → c = c'
  | [], _, _, _, _, _, _, h, _, _ => absurd h not_chain_nil
  | o :: ms, path, c, c', m, m', hn, h, h', heq => by
    have hlt := sizeOf_nested_lt o
    obtain ⟨hown, hown', hdis, hnested, hothers⟩ := nodup_ofMessages_cons hn
    rcases chain_cons_iff.mp h with (⟨rfl, -⟩ | ⟨r, rfl, hr⟩) | hc <;>
      rcases chain_cons_iff.mp h' with (⟨rfl, -⟩ | ⟨r', rfl, hr'⟩) | hc'
    · rfl
    · exact absurd heq (hown _ hr'.mem_keys_nested)
    · exact absurd heq (hown' _ hc'.mem_keys)
    · exact absurd heq.symm (hown _ hr.mem_keys_nested)
    · rw [append_map_cons, append_map_cons] at heq
      rw [unique hnested hr hr' heq]
    · exact absurd heq (hdis _ hr.mem_keys_nested _ hc'.mem_keys)
    · exact absurd heq.symm (hown' _ hc.mem_keys)
    · exact absurd heq.symm (hdis _ hr'.mem_keys_nested _ hc.mem_keys)
    · exact unique hothers hc hc' heq
termination_by ms => sizeOf ms

/-! ### Files -/

/-- **A message is declared under a full name,** at the end of a chain in one of the files. -/
def DeclaredAs (files : List FileDescriptor) (name : String) (chain : List MessageDescriptor)
    (m : MessageDescriptor) : Prop :=
  ∃ file ∈ files, Chain file.message chain m ∧
    name = qualify (file.package.getD "") (chain.map ownName)

variable {name : String}

/-- The index of a file has the messages of the file. -/
theorem message_mem_ofFile {file : FileDescriptor} : (name, .message m) ∈ Index.ofFile file ↔
    ∃ chain, Chain file.message chain m ∧
      name = qualify (file.package.getD "") (chain.map ownName) := by
  unfold Index.ofFile
  dsimp only
  rw [List.mem_append, message_mem_ofMessages]
  simp

theorem message_mem_flatMap : (name, .message m) ∈ files.flatMap Index.ofFile ↔
    ∃ chain, DeclaredAs files name chain m := by
  simp only [List.mem_flatMap, message_mem_ofFile, DeclaredAs]
  constructor
  · rintro ⟨file, hf, chain, h⟩; exact ⟨chain, file, hf, h⟩
  · rintro ⟨chain, file, hf, h⟩; exact ⟨file, hf, chain, h⟩

/-- **What the index has under a name** is the message that is declared under it. -/
theorem message?_eq_some_iff (hi : Index.ofFiles files = .ok index) :
    index.message? name = some m ↔ ∃ chain, DeclaredAs files name chain m := by
  obtain ⟨hn, rfl⟩ := ofFiles_eq_ok_iff.mp hi
  rw [← message_mem_flatMap, ← Ordered.lookup_eq_some_iff hn, Index.message?]
  split
  · next d h => simp [h]
  · next h => simpa using h m

/-- What is in the lists of two items tells that they are one, if nothing is repeated. -/
theorem eq_of_mem_flatMap {α κ : Type} {f : α → List κ} {l : List α} (h : (l.flatMap f).Nodup)
    {x y : α} (hx : x ∈ l) (hy : y ∈ l) {k : κ} (hkx : k ∈ f x) (hky : k ∈ f y) : x = y := by
  by_contra hne
  have : Std.Symm (Function.onFun List.Disjoint f) := ⟨fun _ _ h _ hy hx => h hx hy⟩
  exact (List.nodup_flatMap.mp h).2.forall hx hy hne hkx hky

/-- **Under one name there is one chain,** in all files together, and so one message. -/
theorem DeclaredAs.unique (hi : Index.ofFiles files = .ok index) {c c' : List MessageDescriptor}
    (h : DeclaredAs files name c m) (h' : DeclaredAs files name c' n) : c = c' ∧ m = n := by
  obtain ⟨hn, -⟩ := ofFiles_eq_ok_iff.mp hi
  obtain ⟨file, hf, hc, rfl⟩ := h
  obtain ⟨file', hf', hc', heq⟩ := h'
  rw [List.map_flatMap] at hn
  have hmem := List.mem_map_of_mem (f := (·.1)) (message_mem_ofFile.mpr ⟨c, hc, rfl⟩)
  have hmem' := List.mem_map_of_mem (f := (·.1)) (message_mem_ofFile.mpr ⟨c', hc', rfl⟩)
  obtain rfl := eq_of_mem_flatMap hn hf hf' hmem (heq ▸ hmem')
  have hfile := (List.nodup_flatMap.mp hn).1 file hf
  rw [Index.ofFile, List.map_append] at hfile
  obtain rfl := Chain.unique hfile.of_append_right hc hc' heq
  exact ⟨rfl, Option.some.inj (hc.getLast?.symm.trans hc'.getLast?)⟩

end Redaction.Schema
