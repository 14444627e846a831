import Mathlib.Data.List.Flatten
import Redaction.Proofs.LargerIndex
import Redaction.Proofs.Reachability

/-!
# The schema of accepted files

Loading goes over the files one after the other and may stop anywhere. Where it does not stop, what
comes out is a function of the files alone: `ofFiles_eq_ok_iff_accepted` says when it does not stop
(`Accepted`) and what comes out (`schemaOf`).

* `allMessages`: the messages of all files, file by file, in the order of the walk.
* `nodup_ids`, `message?_schemaOf`: with plain names no two of them have one name, so that each is
  read under its own.
* `requires_ofFiles_iff`: a message needs redaction if it reaches a redacted field among them.

Which files are requested decides nothing but the mark that each of them carries.
-/

namespace Redaction.Schema

variable {index : Index} {files : List FileDescriptor} {requested : List String} {s : Schema}
  {file : FileDescriptor} {m : Message}

/-! ### What files are read to -/

/-- The declarations of all files, whether their names are distinct or not. -/
def declarations (files : List FileDescriptor) : Index := files.flatMap Index.ofFile

/-- The messages of a file, none if they cannot be read. -/
def messagesIn (index : Index) (file : FileDescriptor) : List Message :=
  (fileMessages index file).toOption.getD []

/-- The messages of all files. -/
def allMessages (files : List FileDescriptor) : List Message :=
  files.flatMap (messagesIn (declarations files))

/-- Output is requested for the file. -/
def isRequested (requested : List String) (file : FileDescriptor) : Bool :=
  requested.contains (file.name.getD "")

/-- The file as it stands in a schema. -/
def fileOf (index : Index) (requested : List String) (file : FileDescriptor) : File :=
  { name := file.name.getD ""
    package := file.package.getD ""
    generate := isRequested requested file
    messages := (messagesIn index file).map (·.id) }

/-- **The schema of files,** if they are accepted. -/
def schemaOf (files : List FileDescriptor) (requested : List String) : Schema :=
  { files := files.map (fileOf (declarations files) requested)
    messages := Ordered.ofList ((allMessages files).map fun m => (m.id, m)) }

/-- **Files are accepted** if no name is declared twice and all their messages can be read. -/
structure Accepted (files : List FileDescriptor) : Prop where
  nodup : ((declarations files).map (·.1)).Nodup
  readable : ∀ file ∈ files, ∃ ms, fileMessages (declarations files) file = .ok ms

theorem messagesIn_eq {ms : List Message} (h : fileMessages index file = .ok ms) :
    messagesIn index file = ms := by
  rw [messagesIn, h]
  rfl

theorem Index.Within.messagesIn {index' : Index} (hw : index.Within index')
    (h : ∃ ms, Schema.fileMessages index file = .ok ms) :
    Schema.messagesIn index' file = Schema.messagesIn index file := by
  obtain ⟨ms, h⟩ := h
  rw [messagesIn_eq h, messagesIn_eq (hw.fileMessages _ h)]

/-- Adding files succeeds if each of them can be read, and adds all they have. -/
theorem addFiles_eq_ok_iff : ∀ {files : List FileDescriptor} {s s' : Schema},
    addFiles index requested files s = .ok s' ↔
      (∀ file ∈ files, ∃ ms, fileMessages index file = .ok ms) ∧
        s' = ⟨s.files ++ files.map (fileOf index requested),
          ((files.flatMap (messagesIn index)).map fun m => (m.id, m)).foldl
            (fun table e => Ordered.insert e.1 e.2 table) s.messages⟩
  | [], s, s' => by
    rw [addFiles, Except.ok.injEq, List.map_nil, List.append_nil]
    exact ⟨fun h => ⟨fun file hf => absurd hf List.not_mem_nil, h.symm⟩, fun h => h.2.symm⟩
  | file :: files, s, s' => by
    have hadd {ms : List Message} (hms : fileMessages index file = .ok ms) :
        (⟨(addFile file (isRequested requested file) ms s).files ++
            files.map (fileOf index requested),
          ((files.flatMap (messagesIn index)).map fun m => (m.id, m)).foldl
            (fun table e => Ordered.insert e.1 e.2 table)
            (addFile file (isRequested requested file) ms s).messages⟩ : Schema) =
        ⟨s.files ++ (file :: files).map (fileOf index requested),
          (((file :: files).flatMap (messagesIn index)).map fun m => (m.id, m)).foldl
            (fun table e => Ordered.insert e.1 e.2 table) s.messages⟩ := by
      rw [messages_addFile, List.flatMap_cons, List.map_append, List.foldl_append, List.map_cons,
        List.append_cons, fileOf, messagesIn_eq hms]
      rfl
    rw [addFiles, bind_eq_ok]
    constructor
    · rintro ⟨ms, hms, h⟩
      obtain ⟨hall, rfl⟩ := addFiles_eq_ok_iff.mp h
      exact ⟨List.forall_mem_cons.mpr ⟨⟨ms, hms⟩, hall⟩, hadd hms⟩
    · rintro ⟨hall, rfl⟩
      obtain ⟨⟨ms, hms⟩, hall⟩ := List.forall_mem_cons.mp hall
      exact ⟨ms, hms, addFiles_eq_ok_iff.mpr ⟨hall, (hadd hms).symm⟩⟩

/-- **Files have a schema if they are accepted,** and only one. -/
theorem ofFiles_eq_ok_iff_accepted :
    ofFiles files requested = .ok s ↔ Accepted files ∧ s = schemaOf files requested := by
  rw [ofFiles, bind_eq_ok]
  constructor
  · rintro ⟨index, hi, h⟩
    obtain ⟨hn, rfl⟩ := ofFiles_eq_ok_iff.mp hi
    obtain ⟨hall, rfl⟩ := addFiles_eq_ok_iff.mp h
    exact ⟨⟨hn, hall⟩, rfl⟩
  · rintro ⟨ha, rfl⟩
    exact ⟨_, ofFiles_eq_ok_iff.mpr ⟨ha.nodup, rfl⟩, addFiles_eq_ok_iff.mpr ⟨ha.readable, rfl⟩⟩

/-! ### Names of messages -/

/-- The walk takes its names from the index, in the order they have there. -/
theorem names_walkMessages_sublist (package : String) :
    ∀ (ms : List MessageDescriptor) (path : List String),
      ((walkMessages path ms).map fun e => qualify package e.1).Sublist
        ((Index.ofMessages package path ms).map (·.1))
  | [], _ => by
    rw [walkMessages]
    exact List.nil_sublist _
  | m :: ms, path => by
    have hlt := sizeOf_nested_lt m
    have hnested := names_walkMessages_sublist package m.nested (path ++ [ownName m])
    rw [walkMessages_cons, ofMessages_cons, List.map_append, List.map_append]
    refine List.Sublist.append ?_ (names_walkMessages_sublist package ms path)
    split_ifs
    · exact List.nil_sublist _
    · rw [List.map_cons, List.map_append, List.map_cons, List.cons_append]
      exact (hnested.trans (List.sublist_append_right _ _)).cons_cons _
termination_by ms => sizeOf ms

/-- The messages of a file have the names that the walk takes. -/
theorem ids_messagesIn (h : ∃ ms, fileMessages index file = .ok ms) :
    (messagesIn index file).map (·.id) = (walkMessages [] file.message).map fun e =>
      TypeName.ofReference (qualify (file.package.getD "") e.1) := by
  obtain ⟨ms, h⟩ := h
  rw [messagesIn_eq h, ← List.forall₂_eq_eq_eq, List.forall₂_map_left_iff,
    List.forall₂_map_right_iff]
  exact .flip ((mapM_eq_ok.mp h).imp fun _ _ hd => ofDescriptor_id hd)

/-- **The names of the messages of a file come from the index,** in the order they have there, if
names are plain. -/
theorem names_messagesIn_sublist (hp : PlainNames [file])
    (h : ∃ ms, fileMessages index file = .ok ms) :
    (((messagesIn index file).map (·.id)).map (·.text)).Sublist
      ((Index.ofFile file).map (·.1)) := by
  have hnames : ((messagesIn index file).map (·.id)).map (·.text) =
      (walkMessages [] file.message).map fun e => qualify (file.package.getD "") e.1 := by
    rw [ids_messagesIn h, List.map_map]
    refine List.map_congr_left fun e he => ?_
    obtain ⟨chain, hc, hpath, -⟩ := mem_walkMessages.mp he
    have hplain := hp (qualify (file.package.getD "") e.1)
      ⟨chain, e.2, file, List.mem_cons_self, hc, by rw [hpath, List.nil_append]⟩
    rw [Function.comp_apply, ofReference_eq_self hplain]
  rw [hnames, Index.ofFile, List.map_append]
  exact (names_walkMessages_sublist _ _ _).trans (List.sublist_append_right _ _)

/-- **The names of all messages come from the index,** in the order they have there, if names are
plain. -/
theorem names_allMessages_sublist (ha : Accepted files) (hp : PlainNames files) :
    (((allMessages files).map (·.id)).map (·.text)).Sublist ((declarations files).map (·.1)) := by
  rw [allMessages, List.map_flatMap, List.map_flatMap, declarations, List.map_flatMap]
  refine List.Sublist.flatMap_right _ fun file hf => ?_
  exact names_messagesIn_sublist (hp.of_subset (by simpa using hf)) (ha.readable file hf)

/-- **No two messages have one name,** if names are plain. -/
theorem nodup_ids (ha : Accepted files) (hp : PlainNames files) :
    ((allMessages files).map (·.id)).Nodup :=
  (ha.nodup.sublist (names_allMessages_sublist ha hp)).of_map _

/-! ### What the schema has -/

/-- The table of a schema has the messages of its files under their names. -/
theorem messages_schemaOf_perm (requested : List String) (ha : Accepted files)
    (hp : PlainNames files) :
    (schemaOf files requested).messages.Perm ((allMessages files).map fun m => (m.id, m)) := by
  refine Ordered.perm_ofList ?_
  rw [List.map_map]
  exact nodup_ids ha hp

/-- **A message is read under its own name.** -/
theorem message?_schemaOf (ha : Accepted files) (hp : PlainNames files)
    (hm : m ∈ allMessages files) : (schemaOf files requested).message? m.id = some m :=
  (Ordered.lookup_eq_some_iff (Ordered.sorted_ofList _).nodup).mpr
    ((messages_schemaOf_perm requested ha hp).mem_iff.mpr (List.mem_map_of_mem hm))

end Redaction.Schema

namespace Redaction.Requirement

open Schema

variable {files : List FileDescriptor} {requested : List String} {t : TypeName}

/-- More messages reach more. -/
theorem Reaches.mono {messages messages' : List Message} (h : messages ⊆ messages')
    (hr : Reaches messages t) : Reaches messages' t := by
  obtain ⟨m, hm, hid, n, hmn, ho⟩ := hr
  exact ⟨m, h hm, hid, n, Relation.ReflTransGen.mono (fun _ _ ⟨hn, hf⟩ => ⟨h hn, hf⟩) _ _ hmn, ho⟩

/-- **The message types of files that need redaction,** whatever is requested. -/
def ofFiles (files : List FileDescriptor) : Requirement := ofSchema (schemaOf files [])

theorem ofSchema_schemaOf : ofSchema (schemaOf files requested) = ofFiles files := rfl

/-- **A message type needs redaction exactly if it reaches a redacted field** among the messages of
the files. -/
theorem requires_ofFiles_iff (ha : Accepted files) (hp : PlainNames files) :
    (ofFiles files).requires t ↔ Reaches (allMessages files) t := by
  have hperm : (messagesOf (schemaOf files [])).Perm (allMessages files) := by
    have h := (messages_schemaOf_perm [] ha hp).map (·.2)
    rwa [List.map_map, show ((·.2) ∘ fun m : Message => (m.id, m)) = id from rfl, List.map_id] at h
  exact (requires_iff_reaches _).trans ⟨.mono hperm.subset, .mono hperm.symm.subset⟩

end Redaction.Requirement
