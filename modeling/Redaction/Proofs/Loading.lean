import Redaction.Proofs.Alignment
import Redaction.Proofs.OrderedTables

/-!
# What is in a loaded schema

Every message of a schema is made from a descriptor of one of its files and stands under its own
name (`mem_messages_ofFiles`); the names increase, so that each is there once (`sorted_ofFiles`).
With distinct names the layout of that name is made from the same descriptor, so the two fit
(`fits_of_mem_messages`).
-/

namespace Redaction.Schema

open Wire

variable {index : Index} {requested : List String}

/-- The entry is a message that the file declares, under its own name. -/
def Declares (index : Index) (file : FileDescriptor) (e : TypeName × Message) : Prop :=
  e.1 = e.2.id ∧ ∃ walked ∈ walkMessages [] file.message,
    Message.ofDescriptor index file walked.1 walked.2 = .ok e.2

/-- A file adds its messages under their names. -/
theorem messages_addFile (file : FileDescriptor) (generate : Bool) (ms : List Message)
    (s : Schema) :
    (addFile file generate ms s).messages = (ms.map fun m => (m.id, m)).foldl
      (fun table e => Ordered.insert e.1 e.2 table) s.messages := by
  rw [List.foldl_map]
  rfl

/-- **Adding files** adds messages that they declare, and keeps the names in order. -/
theorem addFiles_ok : ∀ {files : List FileDescriptor} {s s' : Schema},
    addFiles index requested files s = .ok s' → Ordered.Sorted s.messages →
      Ordered.Sorted s'.messages ∧
        ∀ e ∈ s'.messages, e ∈ s.messages ∨ ∃ file ∈ files, Declares index file e
  | [], s, s', h, hs => by
    rw [addFiles, Except.ok.injEq] at h
    subst h
    exact ⟨hs, fun e he => Or.inl he⟩
  | file :: files, s, s', h, hs => by
    obtain ⟨ms, hms, h⟩ := bind_eq_ok.mp h
    have hadd := messages_addFile file (requested.contains (file.name.getD "")) ms s
    obtain ⟨hsorted, hmem⟩ := addFiles_ok h (hadd ▸ Ordered.sorted_foldl hs)
    refine ⟨hsorted, fun e he => ?_⟩
    rcases hmem e he with he | ⟨f, hf, hd⟩
    · rw [hadd] at he
      rcases Ordered.mem_of_mem_foldl he with he | he
      · exact Or.inl he
      · obtain ⟨m, hm, rfl⟩ := List.mem_map.mp he
        obtain ⟨walked, hw, hd⟩ := exists_left_of_mem (mapM_eq_ok.mp hms) hm
        exact Or.inr ⟨file, List.mem_cons_self, rfl, walked, hw, hd⟩
    · exact Or.inr ⟨f, List.mem_cons_of_mem _ hf, hd⟩

variable {files : List FileDescriptor} {s : Schema}

theorem ofFiles_ok (h : ofFiles files requested = .ok s) :
    ∃ index, Index.ofFiles files = .ok index ∧ addFiles index requested files {} = .ok s :=
  bind_eq_ok.mp h

/-- The names of a schema increase. -/
theorem sorted_ofFiles (h : ofFiles files requested = .ok s) : Ordered.Sorted s.messages := by
  obtain ⟨index, -, h⟩ := ofFiles_ok h
  exact (addFiles_ok h List.Pairwise.nil).1

/-- **Every message of a schema is declared by one of its files.** -/
theorem mem_messages_ofFiles (h : ofFiles files requested = .ok s)
    (hi : Index.ofFiles files = .ok index) {e : TypeName × Message} (he : e ∈ s.messages) :
    ∃ file ∈ files, Declares index file e := by
  obtain ⟨index', hi', h⟩ := ofFiles_ok h
  rw [hi, Except.ok.injEq] at hi'
  subst hi'
  exact ((addFiles_ok h List.Pairwise.nil).2 e he).resolve_left List.not_mem_nil

theorem ofDescriptor_id {file : FileDescriptor} {path : List String} {md : MessageDescriptor}
    {m : Message} (h : Message.ofDescriptor index file path md = .ok m) :
    m.id = TypeName.ofReference (qualify (file.package.getD "") path) := by
  obtain ⟨fields, -, -, rfl⟩ := message_ofDescriptor_eq_ok_iff.mp h
  rfl

/-- **A message fits the layout of its name,** if the names of the layouts are distinct. -/
theorem fits_of_mem_messages (h : ofFiles files requested = .ok s)
    (hi : Index.ofFiles files = .ok index) (hn : ((layouts index files).map (·.1)).Nodup)
    {type : TypeName} {m : Message} (hm : (type, m) ∈ s.messages) :
    ∃ layout, (layouts index files).lookup type = some layout ∧ Fits m layout := by
  obtain ⟨file, hf, hid, ⟨path, md⟩, hw, hd⟩ := mem_messages_ofFiles h hi hm
  refine ⟨layoutOf index file type md, (Ordered.lookup_eq_some_iff hn).mpr ?_, fits_ofDescriptor hd⟩
  refine List.mem_flatMap.mpr ⟨file, hf, List.mem_map.mpr ⟨(path, md), hw, ?_⟩⟩
  rw [show type = _ from hid.trans (ofDescriptor_id hd)]

/-- Messages start with slots of their own shapes. -/
theorem ne_implicit_of_mem_layouts {type : TypeName} {layout : Layout TypeName}
    (h : (type, layout) ∈ layouts index files) :
    ∀ w ∈ layout.fields, ∀ n t, w.shape ≠ .implicit n (.message t) := by
  obtain ⟨file, -, h⟩ := List.mem_flatMap.mp h
  obtain ⟨⟨path, md⟩, -, h⟩ := List.mem_map.mp h
  rw [← (Prod.mk.inj h).2]
  exact ne_implicit_of_mem_layoutFields

end Redaction.Schema
