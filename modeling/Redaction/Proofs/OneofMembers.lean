import Redaction.Proofs.FieldEmission
import Redaction.Proofs.WellFormedness

/-!
# Fields keep their oneofs

A field that is not synthetic may give the index of a oneof of its message (`GivesIndex`), a number
of 32 bits with a sign. It is kept as a place among the oneofs, or loading fails if there is none.

* `ofFiles_eq_error_of_firstStray`: the failure, if the first thing wrong with the files is a field
  whose oneof its message does not declare (`FirstStray`).
* `oneofs_ofFiles`: no index from zero on is lost, in what is loaded and in what is not.
* `exists_oneof_dropped`: a negative index is lost. The field is read as if it gave none.
-/

namespace Redaction.Schema

variable {index : Index} {files : List FileDescriptor} {requested : List String}
  {file : FileDescriptor} {path : List String} {md : MessageDescriptor} {d : FieldDescriptor}
  {f : Field} {owner : TypeName} {proto3 : Bool} {count place : Nat}

/-! ### Indices of oneofs -/

/-- **The field gives the index,** and its oneof is not a synthetic one. -/
def GivesIndex (d : FieldDescriptor) (i : Int) : Prop :=
  ¬ isSynthetic d ∧ ∃ n, d.oneofIndex = some n ∧ n.toInt = i

/-- **The oneof of the field is the one whose index is given,** if that is not negative. -/
structure KeepsOneof (count : Nat) (d : FieldDescriptor) (f : Field) : Prop where
  kept : ∀ i, GivesIndex d i → 0 ≤ i → ∃ place : Nat, place = i ∧ place < count ∧
    f.oneof = some place
  given : ∀ place, f.oneof = some place → GivesIndex d place

/-- The field gives an index behind those of the oneofs of its message. -/
structure Strays (count : Nat) (d : FieldDescriptor) (place : Nat) : Prop where
  gives : GivesIndex d place
  le : count ≤ place

theorem oneof_eq_some_iff (h : Field.ofDescriptor index owner proto3 d = .ok f) :
    f.oneof = some place ↔ GivesIndex d place := (madeOf_ofDescriptor h).oneof place

/-- Well-formed fields do not stray. -/
theorem FieldWellFormed.not_strays (h : FieldWellFormed files count d) :
    ¬ Strays count d place := by
  rintro ⟨⟨hs, n, hn, hplace⟩, hle⟩
  have := h.oneof hs n hn (by omega)
  omega

/-- A field that does not stray is well formed if it would be with other oneofs. -/
theorem FieldWellFormed.of_not_strays {count' : Nat} (h : FieldWellFormed files count' d)
    (hstray : ∀ place, ¬ Strays count d place) : FieldWellFormed files count d := by
  refine { h with oneof := fun hs n hn hpos => ?_ }
  by_contra hlt
  have hplace : n.toInt = (n.toInt.toNat : Int) := by omega
  exact hstray n.toInt.toNat ⟨⟨hs, n, hn, hplace⟩, by omega⟩

/-! ### Messages with stray fields -/

theorem fullName_ofDescriptor (h : Field.ofDescriptor index owner proto3 d = .ok f) {name : String}
    (hname : d.name = some name) : f.fullName = owner.text ++ "." ++ name := by
  unfold Field.ofDescriptor at h
  rw [hname] at h
  obtain ⟨c, -, h⟩ := bind_eq_ok.mp h
  rw [← pure_eq_ok.mp h]

/-- **The first field that strays is found.** -/
theorem strayMember?_eq_some {after : List FieldDescriptor} (hd : Strays count d place) :
    ∀ {before : List FieldDescriptor} {fields : List Field},
      List.Forall₂ (fun d f => Field.ofDescriptor index owner proto3 d = .ok f)
        (before ++ d :: after) fields →
      (∀ d' ∈ before, ∀ place, ¬ Strays count d' place) →
      ∃ f, Field.ofDescriptor index owner proto3 d = .ok f ∧
        strayMember? count fields = some (f, place)
  | [], _, .cons (b := f) hf _, _ => by
    have ho := (oneof_eq_some_iff hf).mpr hd.gives
    refine ⟨f, hf, ?_⟩
    simp [strayMember?, ho, hd.le]
  | d' :: before, _, .cons (b := g) hg hrest, hbefore => by
    obtain ⟨hnot, hbefore⟩ := List.forall_mem_cons.mp hbefore
    obtain ⟨f, hf, hfound⟩ := strayMember?_eq_some hd hrest hbefore
    refine ⟨f, hf, ?_⟩
    have hnone : (g.oneof.bind fun i => if count ≤ i then some (g, i) else none) = none := by
      cases ho : g.oneof with
      | none => rfl
      | some i =>
        have hlt : ¬ count ≤ i := fun hle => hnot i ⟨(oneof_eq_some_iff hg).mp ho, hle⟩
        simp [hlt]
    unfold strayMember? at hfound ⊢
    rw [List.findSome?_cons, hnone]
    exact hfound

/-- **A message with a stray field is refused,** and the first of them is reported, if all its
fields can be read. -/
theorem message_eq_error_of_strays (hi : Index.ofFiles files = .ok index)
    {before after : List FieldDescriptor} {name : String}
    (hfields : md.field = before ++ d :: after)
    (hread : ∀ d ∈ md.field, ∃ n, FieldWellFormed files n d)
    (hbefore : ∀ d' ∈ before, ∀ place, ¬ Strays md.oneof.length d' place)
    (hname : d.name = some name) (hd : Strays md.oneof.length d place) :
    Message.ofDescriptor index file path md = .error (.unknownOneof
      ((TypeName.ofReference (qualify (file.package.getD "") path)).text ++ "." ++ name)
      place) := by
  have hall : ∀ d ∈ md.field, ∃ f, Field.ofDescriptor index
      (.ofReference (qualify (file.package.getD "") path)) (file.syntaxName == some "proto3") d =
        .ok f := by
    intro d hd
    obtain ⟨n, hn⟩ := hread d hd
    exact (exists_field_iff hi).mpr ⟨hn.named, hn.refers, hn.entry⟩
  obtain ⟨fields, hok⟩ := exists_mapM_iff.mpr hall
  obtain ⟨f, hf, hfound⟩ := strayMember?_eq_some hd (hfields ▸ mapM_eq_ok.mp hok) hbefore
  unfold Message.ofDescriptor
  dsimp only
  rw [hok, ← fullName_ofDescriptor hf hname]
  simp only [Except.bind, bind, hfound]
  rfl

/-! ### The first failure of a loop -/

section Loops

variable {ε α β : Type} {as before after : List α} {a : α} {e : ε}

/-- The first item that has not a property. -/
theorem exists_first_not {p : α → Prop} : ∀ {as : List α}, (∃ a ∈ as, ¬ p a) →
    ∃ before a after, as = before ++ a :: after ∧ (∀ b ∈ before, p b) ∧ ¬ p a
  | [], ⟨_, ha, _⟩ => absurd ha List.not_mem_nil
  | b :: as, ⟨a, ha, hn⟩ => by
    by_cases hb : p b
    · have ha : a ∈ as := by
        rcases List.mem_cons.mp ha with rfl | ha
        · exact absurd hb hn
        · exact ha
      obtain ⟨before, c, after, rfl, hbefore, hc⟩ := exists_first_not ⟨a, ha, hn⟩
      exact ⟨b :: before, c, after, rfl, List.forall_mem_cons.mpr ⟨hb, hbefore⟩, hc⟩
    · exact ⟨[], b, as, rfl, by simp, hb⟩

theorem mapM_eq_error {g : α → Except ε β} (ha : g a = .error e) :
    ∀ {before : List α}, (∀ b ∈ before, ∃ c, g b = .ok c) →
      (before ++ a :: after).mapM g = .error e
  | [], _ => by
    rw [List.nil_append, List.mapM_cons, ha]
    rfl
  | b :: before, h => by
    obtain ⟨⟨c, hc⟩, h⟩ := List.forall_mem_cons.mp h
    rw [List.cons_append, List.mapM_cons, hc, mapM_eq_error ha h]
    rfl

end Loops

theorem addFiles_eq_error {after : List FileDescriptor} {e : Error}
    (h : fileMessages index file = .error e) : ∀ {before : List FileDescriptor} {s : Schema},
      (∀ other ∈ before, ∃ ms, fileMessages index other = .ok ms) →
      addFiles index requested (before ++ file :: after) s = .error e
  | [], s, _ => by
    rw [List.nil_append, addFiles, h]
    rfl
  | other :: before, s, hbefore => by
    obtain ⟨⟨ms, hms⟩, hbefore⟩ := List.forall_mem_cons.mp hbefore
    rw [List.cons_append, addFiles, hms]
    exact addFiles_eq_error h hbefore

/-! ### Files with stray fields -/

/-- All fields of the file that are loaded are well formed. -/
def FileWellFormed (files : List FileDescriptor) (file : FileDescriptor) : Prop :=
  ∀ e ∈ walkMessages [] file.message, ∀ d ∈ e.2.field, FieldWellFormed files e.2.oneof.length d

/-- **The first thing that is wrong with the files is a stray field:** what comes before its message
is well formed, in the order of declaration, and so are the fields of that message but for their
oneofs. The field has its full name, and the place that it gives. -/
inductive FirstStray (files : List FileDescriptor) : String → Nat → Prop
  | intro {before after : List FileDescriptor} {file : FileDescriptor}
      {earlier later : List (List String × MessageDescriptor)} {path : List String}
      {md : MessageDescriptor} {fs gs : List FieldDescriptor} {d : FieldDescriptor} {name : String}
      {place : Nat} :
      files = before ++ file :: after → (∀ other ∈ before, FileWellFormed files other) →
      walkMessages [] file.message = earlier ++ (path, md) :: later →
      (∀ e ∈ earlier, ∀ d ∈ e.2.field, FieldWellFormed files e.2.oneof.length d) →
      md.field = fs ++ d :: gs → (∀ d ∈ md.field, ∃ n, FieldWellFormed files n d) →
      (∀ d' ∈ fs, ∀ place, ¬ Strays md.oneof.length d' place) →
      d.name = some name → Strays md.oneof.length d place →
      FirstStray files
        ((TypeName.ofReference (qualify (file.package.getD "") path)).text ++ "." ++ name) place

/-- **A stray field is reported** if nothing is wrong before it. -/
theorem ofFiles_eq_error_of_firstStray {name : String} (hdistinct : NamesDistinct files)
    (h : FirstStray files name place) :
    ofFiles files requested = .error (.unknownOneof name place) := by
  have hi : Index.ofFiles files = .ok (declarations files) :=
    ofFiles_eq_ok_iff.mpr ⟨nodup_keys_iff.mpr hdistinct, rfl⟩
  cases h with
  | @intro before after file earlier later path md fs gs d name place hfiles hbefore hwalk
      hearlier hfields hread hfs hname hd =>
    have hmessage : Message.ofDescriptor (declarations files) file path md = .error _ :=
      message_eq_error_of_strays hi hfields hread hfs hname hd
    have hmessages : fileMessages (declarations files) file = .error (.unknownOneof
        ((TypeName.ofReference (qualify (file.package.getD "") path)).text ++ "." ++ name)
        place) := by
      unfold fileMessages
      rw [hwalk]
      exact mapM_eq_error (a := (path, md)) hmessage
        fun e he => (exists_message_iff hi).mpr (hearlier e he)
    have hothers : ∀ other ∈ before, ∃ ms, fileMessages (declarations files) other = .ok ms := by
      intro other hother
      refine (exists_fileMessages_iff hi).mpr fun chain m hc hchain => ?_
      have hwalked : (chain.map ownName, m) ∈ walkMessages [] other.message :=
        mem_walkMessages.mpr ⟨chain, hc, rfl, hchain⟩
      exact hbefore other hother _ hwalked
    have hadd : addFiles (declarations files) requested (before ++ file :: after) {} = _ :=
      addFiles_eq_error hmessages hothers
    rw [← hfiles] at hadd
    rw [ofFiles, hi]
    exact hadd

/-- **Nothing but oneofs is wrong with the files:** they would be well formed if messages had more
of them. -/
structure WellFormedButOneofs (files : List FileDescriptor) : Prop where
  distinct : NamesDistinct files
  fields : ∀ file ∈ files, ∀ e ∈ walkMessages [] file.message, ∀ d ∈ e.2.field,
    ∃ n, FieldWellFormed files n d

/-- **A field of the files strays,** one of a message that is no entry of a map nor inside one. -/
def HasStray (files : List FileDescriptor) : Prop :=
  ∃ file ∈ files, ∃ chain md, Chain file.message chain md ∧ (∀ o ∈ chain, ¬ o.isMapEntry) ∧
    ∃ d ∈ md.field, ∃ place, Strays md.oneof.length d place

theorem exists_firstStray (hbut : WellFormedButOneofs files) (h : HasStray files) :
    ∃ name place, FirstStray files name place := by
  obtain ⟨file, hf, chain, md, hc, hchain, d, hd, place, hstray⟩ := h
  have hwalked : (chain.map ownName, md) ∈ walkMessages [] file.message :=
    mem_walkMessages.mpr ⟨chain, hc, rfl, hchain⟩
  have hbad : ¬ FileWellFormed files file := fun hfile =>
    (hfile _ hwalked d hd).not_strays hstray
  -- the first file, in it the first message and in that the first field that is not as it should be
  obtain ⟨before, file, after, hfiles, hbefore, hbad⟩ := exists_first_not ⟨file, hf, hbad⟩
  have hf : file ∈ files := by simp [hfiles]
  simp only [FileWellFormed, not_forall, exists_prop] at hbad
  obtain ⟨e, he, hbad⟩ := hbad
  have hbad : ¬ ∀ d ∈ e.2.field, FieldWellFormed files e.2.oneof.length d := by
    simpa using hbad
  obtain ⟨earlier, ⟨path, md⟩, later, hwalk, hearlier, hbad⟩ := exists_first_not
    (p := fun e : List String × MessageDescriptor =>
      ∀ d ∈ e.2.field, FieldWellFormed files e.2.oneof.length d) ⟨e, he, hbad⟩
  have hread := hbut.fields file hf (path, md) (by simp [hwalk])
  have hstrays : ∃ d ∈ md.field, ¬ ∀ place, ¬ Strays md.oneof.length d place := by
    by_contra hnone
    refine hbad fun d hd => ?_
    obtain ⟨n, hn⟩ := hread d hd
    refine hn.of_not_strays fun place hplace => hnone ⟨d, hd, fun h => h place hplace⟩
  obtain ⟨fs, d, gs, hfields, hfs, hd⟩ := exists_first_not hstrays
  obtain ⟨place, hd⟩ := not_forall_not.mp hd
  obtain ⟨n, hn⟩ := hread d (by simp [hfields])
  obtain ⟨name, hname⟩ := Option.isSome_iff_exists.mp hn.named
  exact ⟨_, place, .intro hfiles hbefore hwalk hearlier hfields hread hfs hname hd⟩

/-! ### Every index is kept -/

theorem keepsOneof (hmade : MadeOf d f) (hlt : ∀ place, f.oneof = some place → place < count) :
    KeepsOneof count d f := by
  refine ⟨fun i hi hpos => ?_, fun place ho => (hmade.oneof place).mp ho⟩
  have hplace : (i.toNat : Int) = i := by omega
  have ho : f.oneof = some i.toNat := (hmade.oneof i.toNat).mpr (hplace ▸ hi)
  exact ⟨i.toNat, hplace, hlt _ ho, ho⟩

/-- **No index of a oneof from zero on is lost.** In a schema, a field that gives one is a member of
the oneof with that index, and its message has that oneof. Files with a field that gives an index
for which its message has no oneof are refused. If nothing else is wrong with them, the first such
field is reported with its index. -/
theorem oneofs_ofFiles (files : List FileDescriptor) (requested : List String) :
    (∀ s, ofFiles files requested = .ok s → ∀ e ∈ s.messages, ∃ name chain md,
      DeclaredAs files name chain md ∧ e.1 = .ofReference name ∧
      e.2.oneofs = md.oneof.map (fun o => o.name.getD "") ∧
      List.Forall₂ (KeepsOneof md.oneof.length) md.field e.2.fields) ∧
    (HasStray files → ∀ s, ofFiles files requested ≠ .ok s) ∧
    (WellFormedButOneofs files → HasStray files → ∃ name place, FirstStray files name place ∧
      ofFiles files requested = .error (.unknownOneof name place)) := by
  refine ⟨fun s hs e he => ?_, fun hstray s hs => ?_, fun hbut hstray => ?_⟩
  · obtain ⟨name, chain, md, hd, hid, hfields, honeofs, hlt⟩ := exists_descriptor hs he
    refine ⟨name, chain, md, hd, hid, honeofs, ?_⟩
    rw [honeofs, List.length_map] at hlt
    have hmade : List.Forall₂ (fun d f => MadeOf d f ∧ f ∈ e.2.fields) md.field e.2.fields :=
      List.forall₂_iff_get.mpr ⟨hfields.length_eq, fun i h₁ h₂ =>
        ⟨(List.forall₂_iff_get.mp hfields).2 i h₁ h₂, List.get_mem _ _⟩⟩
    exact hmade.imp fun d f h => keepsOneof h.1 (hlt f h.2)
  · obtain ⟨file, hf, chain, md, hc, hchain, d, hd, place, hstray⟩ := hstray
    have hwell := ((ofFiles_ok_iff_wellFormed files requested).1).mp ⟨s, hs⟩
    exact (hwell.fields file hf chain md hc hchain d hd).not_strays hstray
  · obtain ⟨name, place, hfirst⟩ := exists_firstStray hbut hstray
    exact ⟨name, place, hfirst, ofFiles_eq_error_of_firstStray hbut.distinct hfirst⟩

/-- A field with the given index of a oneof. -/
def choice (i : Int32) : FieldDescriptor := (textField "name" 1).inOneof i

/-- A message that has one oneof, of which a field has the given index. -/
def ballot (i : Int32) : MessageDescriptor :=
  ((MessageDescriptor.named "Ballot").withField (choice i)).withOneof "choice"

/-- A file with that message. -/
def ballots (i : Int32) : FileDescriptor :=
  (FileDescriptor.named "ballots.proto" "v").withMessage (ballot i)

theorem wellFormedButOneofs_ballots : WellFormedButOneofs [ballots 1] := by
  refine ⟨nodup_keys_iff.mp (by decide +kernel), fun file hf e he d hd => ⟨2, ?_⟩⟩
  rw [List.mem_singleton] at hf
  subst hf
  have hwalk : walkMessages [] (ballots 1).message = [(["Ballot"], ballot 1)] := rfl
  rw [hwalk, List.mem_singleton] at he
  subst he
  obtain rfl : d = choice 1 := List.mem_singleton.mp hd
  have hmessage : ¬ IsMessageTyped (choice 1) := by
    unfold IsMessageTyped
    decide
  refine ⟨rfl, ⟨by decide, fun h => absurd h hmessage, fun h => absurd h (by decide)⟩,
    fun h => absurd h hmessage, fun _ n hn _ => ?_⟩
  obtain rfl := Option.some.inj hn
  decide

theorem hasStray_ballots : HasStray [ballots 1] :=
  ⟨ballots 1, List.mem_cons_self, [ballot 1], ballot 1, .outermost List.mem_cons_self, by decide,
    choice 1, List.mem_cons_self, 1, ⟨by decide, 1, rfl, by decide⟩, le_rfl⟩

theorem oneofs_ofFiles_ballots :
    (∃ s, ofFiles [ballots 0] [] = .ok s ∧ ∃ e ∈ s.messages, ∃ name chain md,
      DeclaredAs [ballots 0] name chain md ∧
      List.Forall₂ (KeepsOneof md.oneof.length) md.field e.2.fields ∧
      e.2.fields.map (·.oneof) = [some 0]) ∧
    ∃ name place, FirstStray [ballots 1] name place ∧
      ofFiles [ballots 1] [] = .error (.unknownOneof name place) := by
  obtain ⟨hkept, -, -⟩ := oneofs_ofFiles [ballots 0] []
  obtain ⟨-, -, hreported⟩ := oneofs_ofFiles [ballots 1] []
  refine ⟨?_, hreported wellFormedButOneofs_ballots hasStray_ballots⟩
  have hs : (ofFiles [ballots 0] []).toOption = some (schemaOf [ballots 0] []) := by
    decide +kernel
  have hm : ∃ e ∈ (schemaOf [ballots 0] []).messages, e.2.fields.map (·.oneof) = [some 0] := by
    decide +kernel
  obtain ⟨e, he, hplace⟩ := hm
  obtain ⟨name, chain, md, hd, -, -, hfields⟩ := hkept _ (eq_ok_of_toOption hs) e he
  exact ⟨_, eq_ok_of_toOption hs, e, he, name, chain, md, hd, hfields, hplace⟩

/-- **A negative index is lost.** The field that gives it is loaded as a member of no oneof. -/
theorem exists_oneof_dropped : ∃ s, ofFiles [ballots (-1)] [] = .ok s ∧
    ∃ e ∈ s.messages, ∃ chain md, DeclaredAs [ballots (-1)] e.1.text chain md ∧
      ∃ d ∈ md.field, GivesIndex d (-1) ∧ e.2.fields.map (·.oneof) = [none] := by
  have hs : (ofFiles [ballots (-1)] []).toOption = some (schemaOf [ballots (-1)] []) := by
    decide +kernel
  have hm : ∃ e ∈ (schemaOf [ballots (-1)] []).messages, e.1.text = "v.Ballot" ∧
      e.2.fields.map (·.oneof) = [none] := by decide +kernel
  obtain ⟨e, he, hname, hnone⟩ := hm
  refine ⟨_, eq_ok_of_toOption hs, e, he, [ballot (-1)], ballot (-1), ?_, choice (-1),
    List.mem_cons_self, ⟨by decide, -1, rfl, by decide⟩, hnone⟩
  exact ⟨ballots (-1), List.mem_cons_self, .outermost List.mem_cons_self, by rw [hname]; rfl⟩

end Redaction.Schema
