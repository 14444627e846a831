import Redaction.Json.Text
import Redaction.Proofs.Noninterference
import Redaction.Proofs.SampleProgram

/-!
# The messages of the sample show their documents and nothing that is redacted

The theory of documents and of agreement at work on the sample schema, for every type that has code.

* `redact_eq_document`: the redacted form of a message is its document.
* `text_redact_eq_of_agree`: messages that agree up to redacted content have the same redacted text.

Trees, which have a secret and hold other trees, serve as the example of both.
-/

namespace Redaction.Sample

open Code Document Schema Wire

/-! ### Instances and documents -/

/-- The slots are those of a message of the type. -/
def IsInstance (type : TypeName) (slots : List Slot) : Prop :=
  SlotsOf layout slots (layout type).fields

theorem isInstance_emptyMessage (type : TypeName) : IsInstance type (emptyMessage type) :=
  slotsOf_empty (startsEmpty type)

/-- Merging any bytes into a message leaves it one of its type. -/
theorem isInstance_merge {type : TypeName} {slots slots' : List Slot} {bytes : Bytes}
    (hs : IsInstance type slots) (h : merge type slots bytes = .ok slots') :
    IsInstance type slots' := slotsOf_mergeInto startsEmpty hs h

/-- The members that a message of the type is to show. -/
def document (type : TypeName) (slots : List Slot) : List (String × Json) :=
  Document.members rows slots (rows type)

/-- The messages agree up to redacted content. -/
def Agree (type : TypeName) (a b : List Slot) : Prop := RowsAgree rows (rows type) a b

theorem rows_eq {type : TypeName} {m : Message} (hm : schema.message? type = some m) :
    rows type = Document.rowsOf m (layout type) := by
  rw [rows, Code.rowsOf, hm]
  rfl

/-! ### Trees -/

/-- A tree with a label, a secret and children. -/
def tree (label secret : String) (children : List Value) : List Slot :=
  [.single (.datum (.text label)), .single (.datum (.text secret)), .repeated children]

theorem isSome_impl?_tree : (program.impl? treeName).isSome := by
  obtain ⟨-, -, h⟩ := shown
  simp only [hasTree, Bool.and_eq_true, ← requires_eq] at h
  exact isSome_impl? h.1.1.1

theorem isInstance_tree {label secret : String} {children : List Value}
    (h : ∀ v ∈ children, v.IsOf layout (.message treeName)) :
    IsInstance treeName (tree label secret children) := by
  obtain ⟨-, -, hshapes⟩ := shown
  simp only [hasTree, Bool.and_eq_true, decide_eq_true_eq] at hshapes
  have hslots : List.Forall₂ (Slot.IsOf layout) (tree label secret children)
      ((layout treeName).fields.map (·.shape)) := by
    rw [hshapes.1.2]
    exact .cons (.implicit (.datum rfl)) (.cons (.implicit (.datum rfl)) (.cons (.repeated h) .nil))
  exact List.forall₂_map_right_iff.mp hslots

/-- The rows of trees: the label and the children show, the secret is redacted. -/
theorem rows_tree : ∃ label secret children,
    rows treeName = [.field label, .field secret, .field children] ∧
      [label, secret, children].map
        (fun f => (f.jsonName, f.category.element, f.isRedacted, f.mask)) =
        [("label", .scalar .string, false, .text "*"), ("secret", .scalar .string, true, .text "*"),
          ("children", .message treeName, false, .emptyList)] := by
  obtain ⟨-, -, h⟩ := shown
  simp only [hasTree, Bool.and_eq_true, Option.any_eq_true] at h
  obtain ⟨m, hfind, hrows⟩ := h.2
  have hid : m.id = treeName := by simpa using List.find?_some hfind
  have hm : schema.message? treeName = some m := by
    rw [accepted.2, ← hid]
    exact message?_schemaOf accepted.1 plainNames (List.mem_of_find?_eq_some hfind)
  split at hrows
  · next label secret children hr =>
    refine ⟨label, secret, children, ?_, of_decide_eq_true hrows⟩
    rw [rows_eq hm]
    exact hr
  · cases hrows

theorem ofName?_tree : WellKnown.ofName? treeName = none := by
  obtain ⟨-, -, h⟩ := shown
  simp only [hasTree, Bool.and_eq_true, Option.isNone_iff_eq_none] at h
  exact h.1.1.2

theorem document_tree (label secret : String) (children : List Value) :
    document treeName (tree label secret children) =
      [("label", .text label), ("secret", .text "*"),
        ("children", .array (children.map (ofValue rows · (.message treeName))))] := by
  obtain ⟨f, g, h, hrows, hfields⟩ := rows_tree
  simp only [List.map_cons, List.map_nil, List.cons.injEq, Prod.mk.injEq, and_true] at hfields
  obtain ⟨⟨hf, hfe, hfr, -⟩, ⟨hg, -, hgr, hgm⟩, hh, hhe, hhr, -⟩ := hfields
  have hmask : ofRedacted g = .text "*" := by
    rw [← json_ofMask_mask, hgm]
    rfl
  rw [document, hrows, tree, members, members, members, members, hf, hg, hh, hfe, hhe]
  simp only [hfr, hgr, hhr, hmask, Bool.false_eq_true, if_true, if_false]
  rw [ofSlot, ofSlot, ofItems_eq_map, ofValue, ofScalar]

/-- Trees agree if their labels are equal and their children agree, whatever their secrets are. -/
theorem agree_tree {label secret secret' : String} {as bs : List Value}
    (hlength : as.length = bs.length)
    (hitems : ∀ (i : Nat) a b, as[i]? = some a → bs[i]? = some b →
      Agrees rows (.message treeName) a b) :
    Agree treeName (tree label secret as) (tree label secret' bs) := by
  obtain ⟨f, g, h, hrows, hfields⟩ := rows_tree
  simp only [List.map_cons, List.map_nil, List.cons.injEq, Prod.mk.injEq, and_true] at hfields
  obtain ⟨⟨-, hfe, -, -⟩, ⟨-, -, hgr, -⟩, -, hhe, -, -⟩ := hfields
  have hlabel : SlotAgrees rows f.category.element (.single (.datum (.text label)))
      (.single (.datum (.text label))) := by
    rw [hfe]
    exact .single (.scalar _)
  have hchildren : SlotAgrees rows h.category.element (.repeated as) (.repeated bs) := by
    rw [hhe]
    exact .repeated hlength hitems
  rw [Agree, hrows]
  exact .cons (.field hlabel) (.cons (.redacted _ _ hgr) (.cons (.field hchildren) .nil))

/-! ### Documents -/

/-- A duration that the message is to show overflows. -/
def Overflows (type : TypeName) (slots : List Slot) : Prop := RowsOverflow rows slots (rows type)

variable {type : TypeName} {slots : List Slot}

theorem endsIf_redact? (h : (program.impl? type).isSome) (hs : IsInstance type slots)
    (o : Render.Overflow) : EndsIf (o = .panics ∧ Overflows type slots)
      (.object (document type slots)) (redact? o type slots) :=
  Code.endsIf_redact? generated h hs o

theorem redact?_wraps (h : (program.impl? type).isSome) (hs : IsInstance type slots) :
    redact? .wraps type slots = some (.object (document type slots)) :=
  (endsIf_redact? h hs .wraps).eq_some nofun

/-- **The redacted form of a message is its document.** For every message type with code, and every
message of it, whatever bytes have been merged into it: the code builds the object of the members of
the document, and these show all of the message, under distinct keys in the order of declaration.

It does so where overflow wraps. Elsewhere it gives that document or nothing, and the latter exactly
if a duration that the document shows overflows. -/
theorem redact_eq_document {type : TypeName} (h : (program.impl? type).isSome) :
    ∃ m, schema.message? type = some m ∧ (m.fields.map (·.jsonName)).Nodup ∧
      IsInstance type (emptyMessage type) ∧
      (∀ slots bytes slots', IsInstance type slots → merge type slots bytes = .ok slots' →
        IsInstance type slots') ∧
      ∀ slots, IsInstance type slots →
        redact type slots = .object (document type slots) ∧
          (∀ o, (redact? o type slots = none ↔ o = .panics ∧ Overflows type slots) ∧
            ∀ json, redact? o type slots = some json → json = .object (document type slots)) ∧
          Complete rows m (layout type) slots (document type slots) := by
  obtain ⟨i, hi⟩ := Option.isSome_iff_exists.mp h
  obtain ⟨m, hm, -, hfits, htidy, -⟩ := generated.impl hi
  refine ⟨m, hm, htidy.keys, isInstance_emptyMessage type,
    fun slots bytes slots' hs hmerge => isInstance_merge hs hmerge,
    fun slots hs => ⟨?_, fun o => ⟨?_, fun json hjson => ?_⟩, ?_⟩⟩
  · rw [redact, redact?_wraps h hs, Option.getD_some]
  · exact (endsIf_redact? h hs o).eq_none_iff
  · have hsome : redact? o type slots ≠ none := by simp [hjson]
    have hdocument := (endsIf_redact? h hs o).eq_some fun hends =>
      hsome ((endsIf_redact? h hs o).eq_none_iff.mpr hends)
    exact Option.some.inj (hjson.symm.trans hdocument)
  · rw [document, rows_eq hm]
    exact complete_members (p := program) hfits htidy hs

/-- The secrets of a tree and of its children are masked, and all else shows. -/
theorem redact_eq_document_tree :
    (program.impl? treeName).isSome ∧
      redact treeName (tree "oak" "1234" [.message (tree "elm" "5678" [])]) =
        .object [("label", .text "oak"), ("secret", .text "*"), ("children", .array
          [.object [("label", .text "elm"), ("secret", .text "*"), ("children", .array [])]])] := by
  obtain ⟨m, -, -, -, -, h⟩ := redact_eq_document isSome_impl?_tree
  have helm : IsInstance treeName (tree "elm" "5678" []) :=
    isInstance_tree fun v hv => nomatch hv
  have hoak : IsInstance treeName (tree "oak" "1234" [.message (tree "elm" "5678" [])]) :=
    isInstance_tree (List.forall_mem_singleton.mpr (.message helm))
  refine ⟨isSome_impl?_tree, (h _ hoak).1.trans ?_⟩
  have hchild : members rows (tree "elm" "5678" []) (rows treeName) = _ :=
    document_tree "elm" "5678" []
  rw [document_tree, List.map_singleton, ofValue, ofName?_tree]
  dsimp only
  rw [hchild, List.map_nil]

/-! ### Agreement -/

/-- **Redacted content does not show.** Messages of a type with code that agree up to redacted
content have the same redacted form, to the last character of its text. In a build that checks for
overflow, both have one or neither does. -/
theorem text_redact_eq_of_agree {type : TypeName} (h : (program.impl? type).isSome)
    {a b : List Slot} (ha : IsInstance type a) (hb : IsInstance type b) (hab : Agree type a b) :
    (redact type a).render = (redact type b).render ∧
      ∀ o, (redact? o type a).map Json.render = (redact? o type b).map Json.render := by
  have hforms (o : Render.Overflow) : redact? o type a = redact? o type b :=
    redact?_eq_of_agree generated hasDynamics h ha hb hab o
  exact ⟨congrArg (fun x => (x.getD .null).render) (hforms .wraps),
    fun o => congrArg (·.map Json.render) (hforms o)⟩

/-- The secrets of a tree and of its children may be any. -/
theorem text_redact_eq_of_agree_tree :
    tree "oak" "1234" [.message (tree "elm" "5678" [])] ≠
        tree "oak" "" [.message (tree "elm" "90" [])] ∧
      (redact treeName (tree "oak" "1234" [.message (tree "elm" "5678" [])])).render =
        (redact treeName (tree "oak" "" [.message (tree "elm" "90" [])])).render := by
  have hinstance {label secret : String} : IsInstance treeName (tree label secret []) :=
    isInstance_tree fun v hv => nomatch hv
  have hagree : Agrees rows (.message treeName) (.message (tree "elm" "5678" []))
      (.message (tree "elm" "90" [])) :=
    .message ofName?_tree (agree_tree rfl fun i a b ha => nomatch ha)
  have hagrees : Agree treeName (tree "oak" "1234" [.message (tree "elm" "5678" [])])
      (tree "oak" "" [.message (tree "elm" "90" [])]) := by
    refine agree_tree rfl fun i a b ha hb => ?_
    cases i with
    | zero => cases ha; cases hb; exact hagree
    | succ => cases ha
  have hforms := text_redact_eq_of_agree isSome_impl?_tree
    (isInstance_tree (List.forall_mem_singleton.mpr (.message hinstance)))
    (isInstance_tree (List.forall_mem_singleton.mpr (.message hinstance))) hagrees
  exact ⟨by simp [tree], hforms.1⟩

end Redaction.Sample
