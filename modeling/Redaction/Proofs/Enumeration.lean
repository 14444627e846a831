import Mathlib.Algebra.GroupWithZero.Nat
import Redaction.Proofs.Assembly

/-!
# The messages that a schema lists

The messages of a file can be read by a loop over a stack of what is still to be done (`StackRun`):
what is on top is read, and what is directly inside it is put on the stack, the first on top. Entry
messages are dropped with all that is inside them. The loop ends with the first message that cannot
be read.

* `stackRun_iff`: the loop is the walk over the messages, whatever it comes to.
* `Place.Made`: what the schema has for the message at a place.
* `ofFiles_enumerates`: every file lists its messages by increasing addresses, and the schema has
  these messages and no other, each once.
-/

namespace Redaction

/-- A longer path adds its last name behind a dot. -/
theorem qualify_append_singleton {package : String} {path : List String} (hpath : path ≠ [])
    (name : String) : qualify package (path ++ [name]) = qualify package path ++ "." ++ name := by
  unfold qualify
  dsimp only
  rw [String.intercalate_append_of_ne_nil hpath (List.cons_ne_nil _ _),
    String.intercalate_singleton]
  split_ifs <;> simp [String.append_assoc]

namespace Schema

variable {index : Index} {file : FileDescriptor} {files : List FileDescriptor}
  {requested : List String} {s : Schema}

/-! ### The walk as a loop -/

/-- A message that is still to be read, with its path. -/
abbrev Pending := List String × MessageDescriptor

/-- Messages that stand side by side, with their paths. -/
def inside (path : List String) (ms : List MessageDescriptor) : List Pending :=
  ms.map fun m => (path ++ [ownName m], m)

/-- Reads a message. -/
def Pending.read (index : Index) (file : FileDescriptor) (p : Pending) : Except Error Message :=
  Message.ofDescriptor index file p.1 p.2

/-- **The loop over a stack,** whose top is the end of the list, and what it comes to. -/
inductive StackRun (index : Index) (file : FileDescriptor) :
    List Pending → Except Error (List Message) → Prop
  | done : StackRun index file [] (.ok [])
  | drop {stack : List Pending} {top : Pending} {r : Except Error (List Message)} :
      top.2.isMapEntry → StackRun index file stack r → StackRun index file (stack ++ [top]) r
  | fail {stack : List Pending} {top : Pending} {e : Error} : ¬ top.2.isMapEntry →
      top.read index file = .error e → StackRun index file (stack ++ [top]) (.error e)
  | take {stack : List Pending} {top : Pending} {m : Message} {r : Except Error (List Message)} :
      ¬ top.2.isMapEntry → top.read index file = .ok m →
      StackRun index file (stack ++ (inside top.1 top.2.nested).reverse) r →
      StackRun index file (stack ++ [top]) (r.map (m :: ·))

/-- What the walk takes of one message. -/
def Pending.taken (p : Pending) : List Pending :=
  if p.2.isMapEntry then [] else p :: walkMessages p.1 p.2.nested

theorem walkMessages_eq_flatMap (path : List String) : ∀ ms : List MessageDescriptor,
    walkMessages path ms = (inside path ms).flatMap Pending.taken
  | [] => by rw [walkMessages]; rfl
  | m :: ms => by
    rw [walkMessages_cons, walkMessages_eq_flatMap path ms]
    rfl

/-- Reads messages one after the other. -/
def readAll (index : Index) (file : FileDescriptor) (stack : List Pending) :
    Except Error (List Message) :=
  (stack.reverse.flatMap Pending.taken).mapM (Pending.read index file)

theorem readAll_drop {stack : List Pending} {top : Pending} (htop : top.2.isMapEntry) :
    readAll index file (stack ++ [top]) = readAll index file stack := by
  unfold readAll
  rw [List.reverse_append, List.reverse_singleton, List.singleton_append, List.flatMap_cons,
    Pending.taken, if_pos htop, List.nil_append]

theorem readAll_take {stack : List Pending} {top : Pending} (htop : ¬ top.2.isMapEntry) :
    readAll index file (stack ++ [top]) = (do
      let m ← top.read index file
      (readAll index file (stack ++ (inside top.1 top.2.nested).reverse)).map (m :: ·)) := by
  unfold readAll
  rw [List.reverse_append, List.reverse_singleton, List.singleton_append, List.flatMap_cons,
    Pending.taken, if_neg htop, List.cons_append, List.mapM_cons, List.reverse_append,
    List.reverse_reverse, List.flatMap_append, walkMessages_eq_flatMap]
  refine congrArg _ (funext fun m => ?_)
  cases ((inside top.1 top.2.nested).flatMap Pending.taken ++
    stack.reverse.flatMap Pending.taken).mapM (Pending.read index file) <;> rfl

theorem StackRun.eq_readAll {stack : List Pending} {r : Except Error (List Message)}
    (h : StackRun index file stack r) : r = readAll index file stack := by
  induction h with
  | done => rfl
  | drop htop _ ih => rw [readAll_drop htop, ih]
  | fail htop he => rw [readAll_take htop, he]; rfl
  | take htop hm _ ih => rw [readAll_take htop, hm, ih]; rfl

/-- How much is on a stack. -/
noncomputable def weight (stack : List Pending) : Nat := (stack.map fun p => sizeOf p.2).sum

theorem weight_inside_lt (path : List String) (ms : List MessageDescriptor) :
    weight (inside path ms) < sizeOf ms := by
  induction ms with
  | nil => simp [weight, inside]
  | cons m ms ih =>
    unfold weight inside at ih ⊢
    simp only [List.map_cons, List.sum_cons, List.cons.sizeOf_spec]
    omega

theorem stackRun_readAll (stack : List Pending) :
    StackRun index file stack (readAll index file stack) := by
  rcases List.eq_nil_or_concat' stack with rfl | ⟨stack, top, rfl⟩
  · exact .done
  · have hweight : weight (stack ++ [top]) = weight stack + sizeOf top.2 := by simp [weight]
    by_cases htop : top.2.isMapEntry
    · have hpos : 0 < sizeOf top.2 := (Nat.zero_le _).trans_lt (sizeOf_nested_lt top.2)
      rw [readAll_drop htop]
      exact .drop htop (stackRun_readAll stack)
    · rw [readAll_take htop]
      cases hm : top.read index file with
      | error e => exact .fail htop hm
      | ok m =>
        -- what goes on the stack weighs less than what comes off it
        have hinner : weight (stack ++ (inside top.1 top.2.nested).reverse) =
            weight stack + weight (inside top.1 top.2.nested) := by simp [weight]
        have hlt := weight_inside_lt top.1 top.2.nested
        have hlt' := sizeOf_nested_lt top.2
        exact .take htop hm (stackRun_readAll _)
termination_by weight stack

/-- **The loop is the walk.** It comes to an end, with the messages of the file or with the first
failure of the walk. -/
theorem stackRun_iff {r : Except Error (List Message)} :
    StackRun index file (inside [] file.message).reverse r ↔ r = fileMessages index file := by
  have hall : readAll index file (inside [] file.message).reverse = fileMessages index file := by
    unfold readAll fileMessages
    rw [List.reverse_reverse, walkMessages_eq_flatMap]
    rfl
  constructor
  · intro h
    exact h.eq_readAll.trans hall
  · rintro rfl
    exact hall ▸ stackRun_readAll _

/-! ### Places -/

namespace Place

/-- The names of the messages around the place, the outermost first, and its own. -/
def path (p : Place) : List String := p.chain.map ownName

/-- The full name of the message at a place of a file. -/
def id (file : FileDescriptor) (p : Place) : TypeName := ⟨qualify (file.package.getD "") p.path⟩

/-- **The message is the one that is declared at the place.** What is nested are the messages
directly inside it that are no entries, in the order of declaration. -/
structure Made (file : FileDescriptor) (p : Place) (m : Message) : Prop where
  id_eq : m.id = p.id file
  file_eq : m.file = file.name.getD ""
  path_eq : m.path = p.path
  nested_eq : m.nested = (p.message.nested.filter (!·.isMapEntry)).map fun n =>
    ⟨qualify (file.package.getD "") (p.path ++ [ownName n])⟩

end Place

theorem Chain.ne_nil {ms chain : List MessageDescriptor} {m : MessageDescriptor}
    (h : Chain ms chain m) : chain ≠ [] := by
  cases h <;> exact List.cons_ne_nil _ _

/-- A chain goes on to what is directly inside its message. -/
theorem Chain.snoc {ms chain : List MessageDescriptor} {m n : MessageDescriptor}
    (h : Chain ms chain m) (hn : n ∈ m.nested) : Chain ms (chain ++ [n]) n := by
  induction h with
  | outermost hm => exact .inside hm (.outermost hn)
  | inside ho _ ih => exact .inside ho (ih hn)

section Plain

variable (hp : PlainNames files) (hf : file ∈ files)
include hp hf

theorem ofReference_qualify {chain : List MessageDescriptor} {m : MessageDescriptor}
    (h : Chain file.message chain m) :
    TypeName.ofReference (qualify (file.package.getD "") (chain.map ownName)) =
      ⟨qualify (file.package.getD "") (chain.map ownName)⟩ :=
  ofReference_eq_self (hp _ ⟨chain, m, file, hf, h, rfl⟩)

/-- What is read from the descriptor at a place is made for the place. -/
theorem Place.made_of_ofDescriptor {p : Place} {m : Message}
    (hc : Chain file.message p.chain p.message)
    (h : Message.ofDescriptor index file p.path p.message = .ok m) : p.Made file m := by
  obtain ⟨fields, -, -, rfl⟩ := message_ofDescriptor_eq_ok_iff.mp h
  have hid := ofReference_qualify hp hf hc
  refine ⟨hid, rfl, rfl, List.map_congr_left fun n hn => ?_⟩
  have hnested := ofReference_qualify hp hf (hc.snoc (List.mem_of_mem_filter hn))
  rw [List.map_append, List.map_singleton] at hnested
  have hpath : p.path ≠ [] := fun h => hc.ne_nil (List.map_eq_nil_iff.mp h)
  unfold Place.path at hpath ⊢
  rw [hid, ← hnested, qualify_append_singleton hpath]
  rfl

/-- The messages of a file have the names of the places that the walk goes along. -/
theorem ids_messagesIn_places {places : List Place} (hplaces : InOrder file.message places)
    (hwalk : walkMessages [] file.message = places.map fun p => ([] ++ p.path, p.message))
    (h : ∃ ms, fileMessages index file = .ok ms) :
    (messagesIn index file).map (·.id) = places.map (Place.id file) := by
  rw [ids_messagesIn h, hwalk, List.map_map]
  refine List.map_congr_left fun p hmem => ?_
  obtain ⟨hl, -⟩ := (hplaces.mem_iff _ _ _).mp hmem
  exact ofReference_qualify hp hf hl.isChain

/-- The schema has what is made for a place that is not hidden. -/
theorem exists_made (requested : List String) (ha : Accepted files) {p : Place}
    (hc : Chain file.message p.chain p.message) (hchain : ∀ o ∈ p.chain, ¬ o.isMapEntry) :
    ∃ m, (schemaOf files requested).message? (p.id file) = some m ∧ p.Made file m := by
  obtain ⟨ms, hms⟩ := ha.readable file hf
  have hw : (p.path, p.message) ∈ walkMessages [] file.message :=
    mem_walkMessages.mpr ⟨p.chain, hc, rfl, hchain⟩
  obtain ⟨m, hm, hread⟩ := exists_right_of_mem (mapM_eq_ok.mp hms) hw
  have hmade := Place.made_of_ofDescriptor hp hf hc hread
  have hall : m ∈ allMessages files :=
    List.mem_flatMap.mpr ⟨file, hf, (messagesIn_eq hms).symm ▸ hm⟩
  exact ⟨m, hmade.id_eq ▸ message?_schemaOf ha hp hall, hmade⟩

/-- What is directly inside a message that is not hidden is visible, unless it is an entry. -/
theorem isVisible_of_mem_nested {p : Place} {m : Message}
    (hc : Chain file.message p.chain p.message) (hchain : ∀ o ∈ p.chain, ¬ o.isMapEntry)
    (hmade : p.Made file m) {t : TypeName} (ht : t ∈ m.nested) : IsVisible files t := by
  rw [hmade.nested_eq] at ht
  obtain ⟨n, hn, rfl⟩ := List.mem_map.mp ht
  obtain ⟨hn, hentry⟩ := List.mem_filter.mp hn
  have hn := hc.snoc hn
  refine ⟨_, _, n, ⟨file, hf, hn, rfl⟩, List.forall_mem_append.mpr ⟨hchain, ?_⟩, ?_⟩
  · simpa using hentry
  · rw [ofReference_qualify hp hf hn, List.map_append]
    rfl

end Plain

/-! ### The schema -/

/-- **What a schema lists,** if names are plain. Each file lists the messages that it declares, but
for entries with all that is inside them, outer before nested and else in the order of declaration,
as the loop takes them. No message is listed twice. The schema has the messages that are listed, and
for each of them the file and the path of its declaration and the messages directly inside it, which
it has too. -/
theorem ofFiles_enumerates (hp : PlainNames files) (h : ofFiles files requested = .ok s) :
    ∃ (index : Index) (places : FileDescriptor → List Place), Index.ofFiles files = .ok index ∧
      List.Forall₂ (fun file f => f.name = file.name.getD "" ∧
          InOrder file.message (places file) ∧
          f.messages = (places file).map (Place.id file) ∧
          ∃ ms, StackRun index file (inside [] file.message).reverse (.ok ms) ∧
            f.messages = ms.map (·.id)) files s.files ∧
      (s.files.flatMap (·.messages)).Nodup ∧
      (s.messages.map (·.1)).Perm (s.files.flatMap (·.messages)) ∧
      ∀ file ∈ files, ∀ p ∈ places file, ∃ m, s.message? (p.id file) = some m ∧ p.Made file m ∧
        ∀ t ∈ m.nested, (s.message? t).isSome := by
  have hvisible (t : TypeName) : (s.message? t).isSome ↔ IsVisible files t :=
    isSome_message?_iff h
  obtain ⟨ha, rfl⟩ := ofFiles_eq_ok_iff_accepted.mp h
  choose places hplaces hwalk using fun file : FileDescriptor => exists_inOrder file.message []
  have hids (file) (hf : file ∈ files) :
      (messagesIn (declarations files) file).map (·.id) = (places file).map (Place.id file) :=
    ids_messagesIn_places hp hf (hplaces file) (hwalk file) (ha.readable file hf)
  have hlisted : (schemaOf files requested).files.flatMap (·.messages) =
      (allMessages files).map (·.id) := by
    rw [schemaOf, List.flatMap_map, allMessages, List.map_flatMap]
    rfl
  refine ⟨declarations files, places, ofFiles_eq_ok_iff.mpr ⟨ha.nodup, rfl⟩, ?_, ?_, ?_, ?_⟩
  · rw [schemaOf, List.forall₂_map_right_iff, List.forall₂_same]
    intro file hf
    obtain ⟨ms, hms⟩ := ha.readable file hf
    refine ⟨rfl, hplaces file, hids file hf, ms, stackRun_iff.mpr hms.symm, ?_⟩
    rw [fileOf, messagesIn_eq hms]
  · rw [hlisted]
    exact nodup_ids ha hp
  · have hperm := (messages_schemaOf_perm requested ha hp).map (·.1)
    rwa [List.map_map, show ((·.1) ∘ fun m : Message => (m.id, m)) = (·.id) from rfl,
      ← hlisted] at hperm
  · intro file hf p hmem
    obtain ⟨hl, hchain⟩ := ((hplaces file).mem_iff _ _ _).mp hmem
    obtain ⟨m, hm, hmade⟩ := exists_made hp hf requested ha hl.isChain hchain
    refine ⟨m, hm, hmade, fun t ht => (hvisible t).mpr ?_⟩
    exact isVisible_of_mem_nested hp hf hl.isChain hchain hmade ht

/-- A file with messages inside messages, and with a map, whose entry message is not listed. -/
def shelves : FileDescriptor :=
  ((FileDescriptor.named "shelves.proto" "a").withMessage
    (((((MessageDescriptor.named "Shelf").withField
      (.map "labels" 1 ".a.Shelf.LabelsEntry")).withNested
      ((MessageDescriptor.named "Book").withNested (.named "Page"))).withNested
      (.mapEntryOf "LabelsEntry" (textField "key" 1) (textField "value" 2))).withNested
      (.named "Label"))).withMessage (.named "Desk")

theorem ofFiles_enumerates_shelves : PlainNames [shelves] ∧
    ∃ s index ms, ofFiles [shelves] ["shelves.proto"] = .ok s ∧
      StackRun index shelves (inside [] shelves.message).reverse (.ok ms) ∧
      ms.map (·.id) = [⟨"a.Shelf"⟩, ⟨"a.Shelf.Book"⟩, ⟨"a.Shelf.Book.Page"⟩, ⟨"a.Shelf.Label"⟩,
        ⟨"a.Desk"⟩] ∧
      (s.messages.map (·.1)).Perm (ms.map (·.id)) := by
  have hp : PlainNames [shelves] := plainNames_of_keys (by decide +kernel)
  have hs : (ofFiles [shelves] ["shelves.proto"]).toOption =
      some (schemaOf [shelves] ["shelves.proto"]) := by decide +kernel
  have hids : (fileOf (declarations [shelves]) ["shelves.proto"] shelves).messages =
      [⟨"a.Shelf"⟩, ⟨"a.Shelf.Book"⟩, ⟨"a.Shelf.Book.Page"⟩, ⟨"a.Shelf.Label"⟩, ⟨"a.Desk"⟩] := by
    decide +kernel
  obtain ⟨index, places, -, hfiles, -, hperm, -⟩ :=
    ofFiles_enumerates hp (eq_ok_of_toOption hs)
  obtain ⟨⟨-, -, -, ms, hrun, hms⟩, -⟩ := List.forall₂_cons.mp hfiles
  have hlisted : (schemaOf [shelves] ["shelves.proto"]).files.flatMap (·.messages) =
      ms.map (·.id) := (List.append_nil _).trans hms
  exact ⟨hp, _, index, ms, eq_ok_of_toOption hs, hrun, hms ▸ hids, hlisted ▸ hperm⟩

end Schema

end Redaction
