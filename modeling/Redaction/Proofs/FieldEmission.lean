import Redaction.Proofs.StrictMasks

/-!
# Every field is emitted once

The loop over the fields of a message keeps the oneofs that it has come to, and for the first field
of each it goes over all fields again. In terms of positions: there is a statement for each position
that leads (`Leads`), and it has the fields that share it (`sharing`).

* `exists_positions_leaders`: what the loop has seen are the oneofs of the fields before.
* `sharing_perm_range`: what the leading positions share are all positions, each once.
* `StatementCode`, `ArmCode`: the code at a position, and that of one alternative.
* `emit_fields_once`: the code of a message that is read from a descriptor has each of its fields
  once, and oneofs as far as fields name them that are not synthetic.
-/

namespace Redaction

open Schema Code Token

variable {fs : List Field} {k j n : Nat}

/-! ### Positions -/

/-- The oneof of the field at a position. -/
def oneofAt (fs : List Field) (k : Nat) : Option Nat := fs[k]?.bind (·.oneof)

/-- **The field at the position is outside of a oneof,** or the first of its oneof. -/
structure Leads (fs : List Field) (k : Nat) : Prop where
  lt : k < fs.length
  first : ∀ index, oneofAt fs k = some index → ∀ j < k, oneofAt fs j ≠ some index

/-- The positions that share a statement with a position: those of its oneof, in order. -/
def sharing (fs : List Field) (k : Nat) : List Nat :=
  match oneofAt fs k with
  | none => [k]
  | some index => (List.range fs.length).filter (oneofAt fs · == some index)

theorem lt_of_oneofAt {index : Nat} (h : oneofAt fs k = some index) : k < fs.length := by
  obtain ⟨f, hf, -⟩ := Option.bind_eq_some_iff.mp h
  exact (List.getElem?_eq_some_iff.mp hf).1

theorem mem_sharing : j ∈ sharing fs k ↔
    j = k ∨ ∃ index, oneofAt fs k = some index ∧ oneofAt fs j = some index := by
  unfold sharing
  cases hk : oneofAt fs k with
  | none => simp
  | some index =>
    simp only [List.mem_filter, List.mem_range, beq_iff_eq, Option.some.injEq, exists_eq_left']
    constructor
    · exact fun h => Or.inr h.2
    · rintro (rfl | h)
      · exact ⟨lt_of_oneofAt hk, hk⟩
      · exact ⟨lt_of_oneofAt h, h⟩

theorem nodup_sharing : (sharing fs k).Nodup := by
  unfold sharing
  split
  · exact List.nodup_singleton k
  · exact List.nodup_range.filter _

/-- Two leading positions share no position. -/
theorem disjoint_sharing {k' : Nat} (hlt : k < k') (hk' : Leads fs k') :
    (sharing fs k).Disjoint (sharing fs k') := by
  intro j hj hj'
  rw [mem_sharing] at hj hj'
  rcases hj with rfl | ⟨index, hk, hj⟩
  · rcases hj' with rfl | ⟨index, hk'', hj⟩
    · exact lt_irrefl _ hlt
    · exact hk'.first index hk'' j hlt hj
  · rcases hj' with rfl | ⟨index', hk'', hj'⟩
    · exact hk'.first index hj k hlt hk
    · obtain rfl := Option.some.inj (hj.symm.trans hj')
      exact hk'.first index hk'' k hlt hk

/-- Every position is shared by a leading one. -/
theorem exists_leads (hj : j < fs.length) : ∃ k, Leads fs k ∧ j ∈ sharing fs k := by
  cases ho : oneofAt fs j with
  | none =>
    have hlead : Leads fs j := ⟨hj, fun index h => nomatch ho.symm.trans h⟩
    exact ⟨j, hlead, mem_sharing.mpr (Or.inl rfl)⟩
  | some index =>
    have hex : ∃ k, oneofAt fs k = some index := ⟨j, ho⟩
    have hk := Nat.find_spec hex
    refine ⟨Nat.find hex, ⟨lt_of_oneofAt hk, fun index' h i hi hi' => ?_⟩,
      mem_sharing.mpr (Or.inr ⟨index, hk, ho⟩)⟩
    obtain rfl := Option.some.inj (hk.symm.trans h)
    exact Nat.find_min hex hi hi'

/-- **What leading positions share are all positions,** each once. -/
theorem sharing_perm_range {ks : List Nat} (hsorted : ks.Pairwise (· < ·))
    (hmem : ∀ k, k ∈ ks ↔ Leads fs k) :
    (ks.flatMap (sharing fs)).Perm (List.range fs.length) := by
  have hnodup : (ks.flatMap (sharing fs)).Nodup := by
    refine List.nodup_flatMap.mpr ⟨fun k _ => nodup_sharing, ?_⟩
    exact hsorted.imp_of_mem fun _ hk' hlt => disjoint_sharing hlt ((hmem _).mp hk')
  refine (List.perm_ext_iff_of_nodup hnodup List.nodup_range).mpr fun j => ?_
  rw [List.mem_flatMap, List.mem_range]
  constructor
  · rintro ⟨k, hk, hj⟩
    rcases mem_sharing.mp hj with rfl | ⟨index, -, hj⟩
    · exact ((hmem j).mp hk).lt
    · exact lt_of_oneofAt hj
  · intro hj
    obtain ⟨k, hk, hj⟩ := exists_leads hj
    exact ⟨k, (hmem k).mpr hk, hj⟩

/-! ### The loop over the fields -/

/-- The positions from `n` on are `n` and those behind it. -/
theorem le_and_leads_iff : n ≤ k ∧ Leads fs k ↔ (k = n ∧ Leads fs n) ∨ (n + 1 ≤ k ∧ Leads fs k) := by
  rcases Nat.lt_trichotomy k n with h | rfl | h
  · exact ⟨fun hk => by omega, fun hk => by omega⟩
  · simp
  · exact ⟨fun hk => Or.inr ⟨h, hk.2⟩, fun hk => by
      rcases hk with hk | hk
      · omega
      · exact ⟨h.le, hk.2⟩⟩

/-- One more field is before. -/
theorem exists_lt_succ_iff {index : Nat} : (∃ j < n + 1, oneofAt fs j = some index) ↔
    oneofAt fs n = some index ∨ ∃ j < n, oneofAt fs j = some index := by
  simp only [Nat.lt_succ_iff_lt_or_eq, or_and_right, exists_or, exists_eq_left, or_comm]

/-- **The leaders of the remaining fields stand at the positions that lead,** if `seen` has the
oneofs of the fields before. -/
theorem exists_positions_leaders : ∀ {rest : List Field} {seen : List Nat} {n : Nat},
    fs.drop n = rest → (∀ index, index ∈ seen ↔ ∃ j < n, oneofAt fs j = some index) →
      ∃ ks : List Nat, ks.Pairwise (· < ·) ∧ (∀ k, k ∈ ks ↔ n ≤ k ∧ Leads fs k) ∧
        List.Forall₂ (fun k f => fs[k]? = some f) ks (leaders seen rest)
  | [], seen, n, hrest, _ => by
    refine ⟨[], .nil, fun k => ⟨fun h => absurd h List.not_mem_nil, fun ⟨hk, hl⟩ => ?_⟩, .nil⟩
    exact absurd hl.lt (not_lt.mpr ((List.drop_eq_nil_iff.mp hrest).trans hk))
  | f :: rest, seen, n, hrest, hseen => by
    have hf : fs[n]? = some f := by rw [← List.head?_drop, hrest, List.head?_cons]
    have hlt : n < fs.length := (List.getElem?_eq_some_iff.mp hf).1
    have hrest' : fs.drop (n + 1) = rest := by rw [← List.tail_drop, hrest, List.tail_cons]
    have ho : oneofAt fs n = f.oneof := by rw [oneofAt, hf, Option.bind_some]
    -- a leading position comes before those behind it
    have hcons {seen' : List Nat} (hl : Leads fs n)
        (hseen' : ∀ index, index ∈ seen' ↔ ∃ j < n + 1, oneofAt fs j = some index) :
        ∃ ks : List Nat, ks.Pairwise (· < ·) ∧ (∀ k, k ∈ ks ↔ n ≤ k ∧ Leads fs k) ∧
          List.Forall₂ (fun k f => fs[k]? = some f) ks (f :: leaders seen' rest) := by
      obtain ⟨ks, hsorted, hmem, hks⟩ := exists_positions_leaders hrest' hseen'
      refine ⟨n :: ks, .cons (fun k hk => ((hmem k).mp hk).1) hsorted, fun k => ?_, .cons hf hks⟩
      rw [le_and_leads_iff, List.mem_cons, hmem, and_iff_left hl]
    unfold leaders
    cases hone : f.oneof with
    | none =>
      refine hcons ⟨hlt, fun index h => absurd (h.symm.trans (ho.trans hone))
        (Option.some_ne_none index)⟩ fun index => ?_
      rw [exists_lt_succ_iff, ho, hone, hseen]
      simp
    | some index =>
      dsimp only
      rw [hone] at ho
      split_ifs with hc
      · -- a field before has the oneof
        have hbefore := (hseen index).mp (List.contains_iff_mem.mp hc)
        have hl : ¬ Leads fs n := fun hl => by
          obtain ⟨j, hj, hoj⟩ := hbefore
          exact hl.first index ho j hj hoj
        have hseen' (index' : Nat) :
            index' ∈ seen ↔ ∃ j < n + 1, oneofAt fs j = some index' := by
          rw [exists_lt_succ_iff, ho, hseen]
          exact ⟨Or.inr, fun h => h.elim (fun h => Option.some.inj h ▸ hbefore) id⟩
        obtain ⟨ks, hsorted, hmem, hks⟩ := exists_positions_leaders hrest' hseen'
        refine ⟨ks, hsorted, fun k => ?_, hks⟩
        rw [le_and_leads_iff, hmem, or_iff_right fun h => hl h.2]
      · have hc : ¬ ∃ j < n, oneofAt fs j = some index := fun h =>
          hc (List.contains_iff_mem.mpr ((hseen index).mpr h))
        refine hcons ⟨hlt, fun index' h j hj hoj => ?_⟩ fun index' => ?_
        · obtain rfl := Option.some.inj (ho.symm.trans h)
          exact hc ⟨j, hj, hoj⟩
        · rw [exists_lt_succ_iff, ho, List.mem_cons, hseen, Option.some.injEq, eq_comm]

/-- The members of a oneof stand at the positions that share its statement. -/
theorem forall₂_sharing {m : Message} {index : Nat} (h : oneofAt m.fields k = some index) :
    List.Forall₂ (fun j f => m.fields[j]? = some f) (sharing m.fields k) (membersOf m index) := by
  have hall : List.Forall₂ (fun j f => m.fields[j]? = some f) (List.range m.fields.length)
      m.fields := by
    refine List.forall₂_iff_get.mpr ⟨List.length_range, fun j h₁ h₂ => ?_⟩
    simp
  rw [sharing, h]
  refine List.rel_filter (fun j f hf => ?_) hall
  simp [oneofAt, hf]

/-! ### The code -/

section Code

variable (runtime : Path) (required : Requirement) (strict : Bool) (m : Message)

/-- **The code of an alternative:** the variant of the field at a position, and the insertion of its
key. -/
inductive ArmCode (path : List String) (k : Nat) : List Token → Prop
  | intro {f : Field} {variant : String} {binds : Bool} {value : Expr} :
      m.fields[k]? = some f → camelIdentifier? f.name = some variant →
      armOf required strict f = .ok ⟨variant, binds, f.jsonName, value⟩ →
      ArmCode path k (somePattern (joined (path ++ [variant]) ++
          [parens [word (if binds then "value" else "_")]]) ++
        [word "=>", braces (insertTokens runtime f.jsonName value)])

/-- **The code of the statement for a position:** the insertion of the key of its field, or the
match on its oneof with an alternative for each field that shares it, and with nothing to insert if
the oneof is unset. -/
inductive StatementCode (k : Nat) : List Token → Prop
  | insert {f : Field} {value : Expr} : m.fields[k]? = some f → f.oneof = none →
      fieldExpr required strict f = .ok value →
      StatementCode k (insertTokens runtime f.jsonName value)
  | choose {index : Nat} {name place : String} {path : List String} {arms : List (List Token)} :
      oneofAt m.fields k = some index → m.oneofs[index]? = some name →
      snakeIdentifier? name = some place → oneofPath? m name = some path →
      List.Forall₂ (ArmCode runtime required strict m path) (sharing m.fields k) arms →
      StatementCode k (words ["match", "&"] ++ fieldTokens place ++
        [braces (arms.flatten ++ nonePattern ++ [word "=>", braces []])])

end Code

variable {runtime : Path} {required : Requirement} {strict : Bool} {m : Message} {f : Field}

theorem armCode_tokens {path : List String} {a : Arm} (hf : m.fields[k]? = some f)
    (h : armOf required strict f = .ok a) :
    ArmCode runtime required strict m path k (a.tokens runtime path) := by
  obtain ⟨hvariant, hkey, -⟩ := armOf_ok h
  obtain ⟨variant, binds, key, value⟩ := a
  obtain rfl : key = f.jsonName := hkey
  exact .intro hf hvariant h

theorem statementCode_tokens {st : Statement} (hf : m.fields[k]? = some f)
    (h : statementOf required strict m f = .ok st) :
    StatementCode runtime required strict m k (st.tokens runtime) := by
  unfold statementOf at h
  cases ho : f.oneof with
  | none =>
    rw [ho] at h
    obtain ⟨e, he, h⟩ := bind_eq_ok.mp h
    rw [← pure_eq_ok.mp h]
    exact .insert hf ho he
  | some index =>
    have hk : oneofAt m.fields k = some index := by rw [oneofAt, hf, Option.bind_some, ho]
    rw [ho] at h
    obtain ⟨name, path, place, arms, hname, hpath, hplace, harms, rfl⟩ := oneofStatement_eq_ok h
    have hcodes : List.Forall₂
        (fun j a => ArmCode runtime required strict m path j (a.tokens runtime path))
        (sharing m.fields k) arms := by
      refine forall₂_trans (fun j g a hj ha => ?_) (forall₂_sharing hk) harms
      exact armCode_tokens hj ha
    rw [Statement.tokens, List.flatMap_def]
    exact .choose hk hname hplace hpath (List.forall₂_map_right_iff.mpr hcodes)

/-- The code of an implementation, statement by statement. -/
theorem statementCode_of_emit {i : Impl} (h : emit required strict m = .ok i) {ks : List Nat}
    (hks : List.Forall₂ (fun k f => m.fields[k]? = some f) ks (leaders [] m.fields)) :
    List.Forall₂ (StatementCode runtime required strict m) ks
      (i.body.map (Statement.tokens runtime)) := by
  refine List.forall₂_map_right_iff.mpr (forall₂_trans (fun k f st hf hst => ?_) hks
    (mapM_eq_ok.mp (body_of_emit h)))
  exact statementCode_tokens hf hst

/-! ### Fields and their descriptors -/

/-- The field is a member of the oneof with the index, which is a real one. -/
def NamesOneof (d : FieldDescriptor) (index : Nat) : Prop :=
  ¬ isSynthetic d ∧ ∃ i, d.oneofIndex = some i ∧ i.toInt = index

/-- What a field has from its descriptor for the place and the key in the code. -/
structure MadeOf (d : FieldDescriptor) (f : Field) : Prop where
  name : d.name = some f.name
  jsonName : f.jsonName = d.jsonName.getD (outputKey f.name)
  oneof : ∀ index, f.oneof = some index ↔ NamesOneof d index

theorem madeOf_ofDescriptor {index : Index} {owner : TypeName} {proto3 : Bool}
    {d : FieldDescriptor} (h : Field.ofDescriptor index owner proto3 d = .ok f) : MadeOf d f := by
  unfold Field.ofDescriptor at h
  split at h
  · next name hname =>
    obtain ⟨⟨c, form⟩, -, h⟩ := bind_eq_ok.mp h
    rw [← pure_eq_ok.mp h]
    exact ⟨hname, rfl, fun _ => oneofIndex_eq_some_iff⟩
  · cases h

variable {files : List FileDescriptor} {requested : List String} {s : Schema}

/-- A message of a schema is made from a descriptor of its name. -/
theorem exists_descriptor (h : Schema.ofFiles files requested = .ok s) {e : TypeName × Message}
    (he : e ∈ s.messages) : ∃ name chain d, DeclaredAs files name chain d ∧
      e.1 = .ofReference name ∧ List.Forall₂ MadeOf d.field e.2.fields ∧
      e.2.oneofs = d.oneof.map (fun o => o.name.getD "") ∧
      ∀ f ∈ e.2.fields, ∀ index, f.oneof = some index → index < e.2.oneofs.length := by
  obtain ⟨index, hi, -⟩ := ofFiles_ok h
  obtain ⟨file, hf, hid, ⟨path, d⟩, hw, hd⟩ := mem_messages_ofFiles h hi he
  obtain ⟨chain, hc, hpath, -⟩ := mem_walkMessages.mp hw
  obtain ⟨fields, hfields, -, hm⟩ := message_ofDescriptor_eq_ok_iff.mp hd
  refine ⟨_, chain, d, ⟨file, hf, hc, rfl⟩, ?_, ?_, ?_, oneof_lt_of_ofDescriptor hd⟩
  · rw [hid, ofDescriptor_id hd, hpath]
    rfl
  · rw [hm]
    exact hfields.imp fun _ _ => madeOf_ofDescriptor
  · rw [hm]
    rfl

/-- **Every field of a message is emitted once.** A message of a schema has the fields and the
oneofs of a descriptor. If its names have identifiers, it has an implementation. The code of the
implementation, whatever the runtime library is, has a statement for each field outside of a oneof
and for the first field of each oneof, in the order of the fields; the statements have all fields,
each once. A oneof has a statement exactly if it has a field that is not synthetic. -/
theorem emit_fields_once (h : Schema.ofFiles files requested = .ok s) {e : TypeName × Message}
    (he : e ∈ s.messages) (required : Requirement) :
    ∃ name chain d, DeclaredAs files name chain d ∧ e.1 = .ofReference name ∧
      List.Forall₂ MadeOf d.field e.2.fields ∧
      e.2.oneofs = d.oneof.map (fun o => o.name.getD "") ∧
      (Nameable e.2 → ∃ i, emit required false e.2 = .ok i ∧
        (NoMisfit e.2 → emit required true e.2 = .ok i)) ∧
      ∃ ks : List Nat, ks.Pairwise (· < ·) ∧ (∀ k, k ∈ ks ↔ Leads e.2.fields k) ∧
        (ks.flatMap (sharing e.2.fields)).Perm (List.range d.field.length) ∧
        (∀ index, (∃ k ∈ ks, oneofAt e.2.fields k = some index) ↔
          ∃ f ∈ d.field, NamesOneof f index) ∧
        ∀ strict i, emit required strict e.2 = .ok i → ∀ runtime,
          List.Forall₂ (StatementCode runtime required strict e.2) ks
            (i.body.map (Statement.tokens runtime)) := by
  obtain ⟨name, chain, d, hd, hid, hfields, honeofs, hdeclares⟩ := exists_descriptor h he
  obtain ⟨ks, hsorted, hmem, hks⟩ := @exists_positions_leaders e.2.fields e.2.fields [] 0 rfl
    fun index => by simp
  simp only [Nat.zero_le, true_and] at hmem
  refine ⟨name, chain, d, hd, hid, hfields, honeofs, fun hnames => ?_, ks, hsorted, hmem, ?_,
    fun index => ?_, fun strict i hi runtime => statementCode_of_emit hi hks⟩
  · obtain ⟨i, hi, hstrict⟩ := reports_emit ⟨hnames, hdeclares⟩
    refine ⟨i, hi, fun hfit => ?_⟩
    rw [hstrict, findSome?_emitted_eq_none_iff.mpr hfit]
    rfl
  · rw [hfields.length_eq]
    exact sharing_perm_range hsorted hmem
  · constructor
    · rintro ⟨k, -, hk⟩
      obtain ⟨f, hf, ho⟩ := Option.bind_eq_some_iff.mp hk
      obtain ⟨g, hg, hmade⟩ := exists_left_of_mem hfields (List.mem_of_getElem? hf)
      exact ⟨g, hg, (hmade.oneof index).mp ho⟩
    · rintro ⟨g, hg, hindex⟩
      obtain ⟨f, hf, hmade⟩ := exists_right_of_mem hfields hg
      obtain ⟨j, hj⟩ := List.mem_iff_getElem?.mp hf
      have ho : oneofAt e.2.fields j = some index := by
        rw [oneofAt, hj, Option.bind_some, (hmade.oneof index).mpr hindex]
      obtain ⟨k, hk, hshare⟩ := exists_leads (lt_of_oneofAt ho)
      refine ⟨k, (hmem k).mpr hk, ?_⟩
      rcases mem_sharing.mp hshare with rfl | ⟨index', hk', hj'⟩
      · exact ho
      · rw [hk', ← hj', ho]

/-- A message with two oneofs, whose members alternate with other fields, and with an `optional`
field, whose oneof is synthetic. -/
def ticket : MessageDescriptor :=
  { MessageDescriptor.named "Ticket" with
    oneof := [⟨some "place"⟩, ⟨some "price"⟩, ⟨some "_note"⟩]
    field := [(textField "seat" 1).inOneof 0, textField "holder" 2, (textField "cash" 3).inOneof 1,
      (textField "stand" 4).inOneof 0, (textField "note" 5).withProto3Optional.inOneof 2,
      (textField "card" 6).redacted.inOneof 1] }

/-- A file with that message. -/
def tickets : FileDescriptor := (FileDescriptor.named "tickets.proto" "t").withMessage ticket

theorem emit_fields_once_tickets : ∃ s, Schema.ofFiles [tickets] ["tickets.proto"] = .ok s ∧
    ∃ e ∈ s.messages, Nameable e.2 ∧ NoMisfit e.2 ∧ ∃ ks i,
      emit (.ofFiles [tickets]) true e.2 = .ok i ∧ i.body.length = 4 ∧
      (ks.flatMap (sharing e.2.fields)).Perm (List.range 6) ∧
      ∀ runtime, List.Forall₂ (StatementCode runtime (.ofFiles [tickets]) true e.2) ks
        (i.body.map (Statement.tokens runtime)) := by
  have hs : (Schema.ofFiles [tickets] ["tickets.proto"]).toOption =
      some (schemaOf [tickets] ["tickets.proto"]) := by decide +kernel
  have hmessages : (schemaOf [tickets] ["tickets.proto"]).messages ≠ [] := by decide +kernel
  have hall : ∀ e ∈ (schemaOf [tickets] ["tickets.proto"]).messages, Nameable e.2 ∧
      (emitted e.2).findSome? refusal? = none ∧ e.2.fields.length = 6 ∧
      (emit (.ofFiles [tickets]) true e.2).toOption.map (·.body.length) = some 4 := by
    decide +kernel
  obtain ⟨e, he⟩ := List.exists_mem_of_ne_nil _ hmessages
  obtain ⟨hnames, hfit, hfields, hlength⟩ := hall e he
  have hfit := findSome?_emitted_eq_none_iff.mp hfit
  obtain ⟨name, chain, d, -, -, hmade, -, htotal, ks, -, -, hperm, -, hcode⟩ :=
    emit_fields_once (eq_ok_of_toOption hs) he (.ofFiles [tickets])
  obtain ⟨i, -, hi⟩ := htotal hnames
  rw [hi hfit] at hlength
  rw [hmade.length_eq, hfields] at hperm
  exact ⟨_, eq_ok_of_toOption hs, e, he, hnames, hfit, ks, i, hi hfit, Option.some.inj hlength,
    hperm, hcode true i (hi hfit)⟩

end Redaction
