import Redaction.Descriptor.Codec
import Redaction.Proofs.RoundTrips

/-!
# Descriptors on the wire

Slots and descriptors go over into each other without loss (`Faithful`), for each of the twelve
types, so what holds of messages on the wire holds of descriptors.

* `Codec.decode_eq_ok_iff`: what is read as a descriptor is a run of records.
* `Codec.fits_of_decode`: how deep a descriptor is nested that was read, and how long it is written.
* `descriptors_roundTrip`: what is written of a descriptor is read as the descriptor.
-/

namespace Redaction

open Wire Number

variable {α β : Type}

/-! ### Layouts -/

theorem DescriptorType.isPlain (type : DescriptorType) : type.layout.IsPlain where
  shapes := by cases type <;> decide
  nodup := by cases type <;> decide
  numbers := by cases type <;> decide

/-- **What is read as a descriptor** are the slots at the end of a run of records. -/
theorem Codec.decode_eq_ok_iff {c : Codec α} {bytes : Bytes} {a : α} :
    c.decode bytes = .ok a ↔
      ∃ slots, Run (RecordAt DescriptorType.layout depthLimit c.type.layout)
        c.type.layout.emptySlots slots bytes ∧ c.ofSlots slots = a := by
  simp only [← Wire.decode_eq_ok_iff, Codec.decode]
  cases Wire.decode DescriptorType.layout c.type.layout bytes with
  | error e => simp [Except.map]
  | ok slots => simp [Except.map]

/-! ### Scalars -/

/-- **A scalar type carries the values of a type:** each is a datum that the type holds, and each
such datum is one of them. -/
structure Wire.Scalar.Carries (s : Scalar) (toDatum : β → Datum) (ofValue? : Value → Option β) :
    Prop where
  holds : ∀ b, s.Holds (toDatum b)
  ofValue?_datum : ∀ b, ofValue? (.datum (toDatum b)) = some b
  exists_of_holds : ∀ {d}, s.Holds d → ∃ b, toDatum b = d

theorem carries_text : Scalar.string.Carries .text Value.text? where
  holds t := ⟨textBytes t, by rw [Scalar.ofPayload?, text?_eq_some_iff.mpr rfl, Option.map_some]⟩
  ofValue?_datum _ := rfl
  exists_of_holds := by
    rintro d ⟨payload, h⟩
    obtain ⟨t, -, rfl⟩ := Option.map_eq_some_iff.mp h
    exact ⟨t, rfl⟩

theorem carries_bool : Scalar.bool.Carries .bool Value.bool? where
  holds b := ⟨b.toNat, by cases b <;> decide, by cases b <;> rfl⟩
  ofValue?_datum _ := rfl
  exists_of_holds := by
    rintro d ⟨n, -, rfl⟩
    exact ⟨n != 0, rfl⟩

theorem carries_double : Scalar.double.Carries .double Value.double? where
  holds x := ⟨x.bits.toNat, x.bits.toNat_lt, by simp [Scalar.ofNumber]⟩
  ofValue?_datum _ := rfl
  exists_of_holds := by
    rintro d ⟨n, -, rfl⟩
    exact ⟨_, rfl⟩

theorem carries_int32 : Scalar.int32.Carries (fun n : Int32 => .integer n.toInt)
    fun v => v.integer?.map Int32.ofInt where
  holds n := by
    refine ⟨n.toBitVec.toNat, lt_trans n.toBitVec.isLt (by decide), ?_⟩
    exact congrArg Datum.integer (BitVec.toInt_eq_toNat_bmod n.toBitVec).symm
  ofValue?_datum n := by simp [Value.integer?]
  exists_of_holds := by
    rintro d ⟨n, -, rfl⟩
    refine ⟨Int32.ofInt (signed 32 n), ?_⟩
    rw [Int32.toInt_ofInt]
    exact congrArg Datum.integer (Int.bmod_bmod ..)

theorem carries_int64 : Scalar.int64.Carries (fun n : Int64 => .integer n.toInt)
    fun v => v.integer?.map Int64.ofInt where
  holds n := by
    refine ⟨n.toBitVec.toNat, n.toBitVec.isLt, ?_⟩
    exact congrArg Datum.integer (BitVec.toInt_eq_toNat_bmod n.toBitVec).symm
  ofValue?_datum n := by simp [Value.integer?]
  exists_of_holds := by
    rintro d ⟨n, -, rfl⟩
    refine ⟨Int64.ofInt (signed 64 n), ?_⟩
    rw [Int64.toInt_ofInt]
    exact congrArg Datum.integer (Int.bmod_bmod ..)

theorem carries_uint64 : Scalar.uint64.Carries (fun n : UInt64 => .integer n.toNat)
    fun v => v.integer?.map fun n => n.toNat.toUInt64 where
  holds n := ⟨n.toNat, n.toNat_lt, rfl⟩
  ofValue?_datum n := by simp [Value.integer?]
  exists_of_holds := by
    rintro d ⟨n, hn, rfl⟩
    refine ⟨n.toUInt64, ?_⟩
    have : n.toUInt64.toNat = n := by simpa using hn
    rw [this]
    rfl

/-! ### Slots of scalars -/

section Scalars

variable {s : Scalar} {toDatum : β → Datum} {ofValue? : Value → Option β} {limit n : Nat}

/-- The value of a slot that fits is one that the type carries. -/
theorem Wire.Scalar.Carries.exists_of_fits (h : s.Carries toDatum ofValue?) {v : Value}
    (hv : v.Fits DescriptorType.layout limit (.scalar s)) : ∃ b, .datum (toDatum b) = v := by
  cases v with
  | message slots => cases limit <;> exact hv.elim
  | datum d =>
    have hd : s.Holds d := by cases limit <;> exact hv
    obtain ⟨b, rfl⟩ := h.exists_of_holds hd
    exact ⟨b, rfl⟩

theorem Wire.Scalar.Carries.fits (h : s.Carries toDatum ofValue?) (b : β) :
    (Value.datum (toDatum b)).Fits DescriptorType.layout limit (.scalar s) := by
  cases limit <;> exact h.holds b

theorem Wire.Scalar.Carries.fits_ofOption (h : s.Carries toDatum ofValue?) (b : Option β) :
    (Slot.ofOption (b.map fun b => .datum (toDatum b))).Fits
      (Value.Fits DescriptorType.layout limit) (.optional n (.scalar s)) := by
  cases b with
  | none => trivial
  | some b => exact h.fits b

theorem Wire.Scalar.Carries.single?_ofOption (h : s.Carries toDatum ofValue?) (b : Option β) :
    (Slot.ofOption (b.map fun b => .datum (toDatum b))).single?.bind ofValue? = b := by
  cases b with
  | none => rfl
  | some b => exact h.ofValue?_datum b

theorem Wire.Scalar.Carries.ofOption_single? (h : s.Carries toDatum ofValue?) {slot : Slot}
    (hs : slot.Fits (Value.Fits DescriptorType.layout limit) (.optional n (.scalar s))) :
    Slot.ofOption ((slot.single?.bind ofValue?).map fun b => .datum (toDatum b)) = slot := by
  cases slot with
  | absent => rfl
  | single v =>
    obtain ⟨b, rfl⟩ := h.exists_of_fits hs
    rw [Slot.single?, Option.bind_some, h.ofValue?_datum, Option.map_some, Slot.ofOption]
  | _ => exact hs.elim

/-- The integer of a slot, read as a value of another type. -/
theorem map_integer? (slot : Slot) (f : Int → β) :
    (slot.single?.bind Value.integer?).map f = slot.single?.bind fun v => v.integer?.map f :=
  Option.map_bind

theorem fits_ofText (t : Option String) : (Slot.ofText t).Fits
    (Value.Fits DescriptorType.layout limit) (.optional n (.scalar .string)) :=
  carries_text.fits_ofOption t

theorem fits_ofBool (b : Option Bool) : (Slot.ofBool b).Fits
    (Value.Fits DescriptorType.layout limit) (.optional n (.scalar .bool)) :=
  carries_bool.fits_ofOption b

theorem fits_ofInt32 (k : Option Int32) : (Slot.ofInt32 k).Fits
    (Value.Fits DescriptorType.layout limit) (.optional n (.scalar .int32)) :=
  carries_int32.fits_ofOption k

theorem fits_ofTexts (ts : List String) : (Slot.ofTexts ts).Fits
    (Value.Fits DescriptorType.layout limit) (.repeated n (.scalar .string)) := by
  rintro v hv
  obtain ⟨t, -, rfl⟩ := List.mem_map.mp hv
  exact carries_text.fits t

@[simp]
theorem text?_ofText (t : Option String) : (Slot.ofText t).text? = t :=
  carries_text.single?_ofOption t

@[simp]
theorem bool?_ofBool (b : Option Bool) : (Slot.ofBool b).bool? = b :=
  carries_bool.single?_ofOption b

@[simp]
theorem int32?_ofInt32 (k : Option Int32) : (Slot.ofInt32 k).int32? = k := by
  rw [Slot.ofInt32, Slot.int32?, map_integer?]
  exact carries_int32.single?_ofOption k

@[simp]
theorem texts_ofTexts (ts : List String) : (Slot.ofTexts ts).texts = ts := by
  rw [Slot.ofTexts, Slot.texts, Slot.values, List.filterMap_map]
  exact List.filterMap_some

theorem ofText_text? {slot : Slot} (h : slot.Fits (Value.Fits DescriptorType.layout limit)
    (.optional n (.scalar .string))) : Slot.ofText slot.text? = slot :=
  carries_text.ofOption_single? h

theorem ofBool_bool? {slot : Slot} (h : slot.Fits (Value.Fits DescriptorType.layout limit)
    (.optional n (.scalar .bool))) : Slot.ofBool slot.bool? = slot :=
  carries_bool.ofOption_single? h

theorem ofInt32_int32? {slot : Slot} (h : slot.Fits (Value.Fits DescriptorType.layout limit)
    (.optional n (.scalar .int32))) : Slot.ofInt32 slot.int32? = slot := by
  rw [Slot.ofInt32, Slot.int32?, map_integer?]
  exact carries_int32.ofOption_single? h

theorem ofTexts_texts {slot : Slot} (h : slot.Fits (Value.Fits DescriptorType.layout limit)
    (.repeated n (.scalar .string))) : Slot.ofTexts slot.texts = slot := by
  cases slot with
  | «repeated» vs =>
    rw [Slot.texts, Slot.values, Slot.ofTexts]
    congr 1
    induction vs with
    | nil => rfl
    | cons v vs ih =>
      obtain ⟨hv, hvs⟩ := List.forall_mem_cons.mp h
      obtain ⟨t, rfl⟩ := carries_text.exists_of_fits hv
      have := ih hvs
      rw [List.filterMap_cons, carries_text.ofValue?_datum]
      simp only [List.map_cons, this]
  | _ => exact h.elim

end Scalars

/-! ### Faithful types -/

/-- **Slots and descriptors of a type are the same thing:** each descriptor is given back by its
slots, each message of the layout by its descriptor, and the slots of a descriptor make a message of
the layout. -/
structure Faithful (type : DescriptorType) (toSlots : α → List Slot) (ofSlots : List Slot → α) :
    Prop where
  ofSlots_toSlots : ∀ a, ofSlots (toSlots a) = a
  toSlots_ofSlots : ∀ {limit slots}, SlotsFit DescriptorType.layout limit slots type.layout.fields →
    toSlots (ofSlots slots) = slots
  fits : ∀ {limit a}, NestWithin limit (toSlots a) →
    SlotsFit DescriptorType.layout limit (toSlots a) type.layout.fields

namespace Faithful

variable {type : DescriptorType} {toSlots : α → List Slot} {ofSlots : List Slot → α} {limit n : Nat}

theorem fits_message (h : Faithful type toSlots ofSlots) {a : α}
    (hn : (Value.message (toSlots a)).NestsWithin limit) :
    (Value.message (toSlots a)).Fits DescriptorType.layout limit (.message type) := by
  cases limit with
  | zero => exact hn.elim
  | succ limit => exact h.fits hn

theorem message_ofSlots (h : Faithful type toSlots ofSlots) {v : Value}
    (hv : v.Fits DescriptorType.layout limit (.message type)) :
    .message (toSlots (ofSlots v.slots)) = v := by
  cases v with
  | datum d => cases limit <;> exact hv.elim
  | message slots =>
    cases limit with
    | zero => exact hv.elim
    | succ limit => rw [Value.slots, h.toSlots_ofSlots hv]

theorem message?_ofMessage (h : Faithful type toSlots ofSlots) (a : Option α) :
    (Slot.ofMessage toSlots a).message? ofSlots = a := by
  cases a with
  | none => rfl
  | some a => exact congrArg some (h.ofSlots_toSlots a)

theorem messages_ofMessages (h : Faithful type toSlots ofSlots) (as : List α) :
    (Slot.ofMessages toSlots as).messages ofSlots = as := by
  rw [Slot.ofMessages, Slot.messages, Slot.values, List.map_map]
  exact List.map_id'' h.ofSlots_toSlots as

theorem ofMessage_message? (h : Faithful type toSlots ofSlots) {slot : Slot}
    (hs : slot.Fits (Value.Fits DescriptorType.layout limit) (.optional n (.message type))) :
    Slot.ofMessage toSlots (slot.message? ofSlots) = slot := by
  cases slot with
  | absent => rfl
  | single v => exact congrArg Slot.single (h.message_ofSlots hs)
  | _ => exact hs.elim

theorem ofMessages_messages (h : Faithful type toSlots ofSlots) {slot : Slot}
    (hs : slot.Fits (Value.Fits DescriptorType.layout limit) (.repeated n (.message type))) :
    Slot.ofMessages toSlots (slot.messages ofSlots) = slot := by
  cases slot with
  | «repeated» vs =>
    rw [Slot.messages, Slot.values, Slot.ofMessages, List.map_map]
    have hvs := List.map_congr_left fun v hv => h.message_ofSlots (hs v hv)
    exact congrArg Slot.repeated (hvs.trans (List.map_id' vs))
  | _ => exact hs.elim

theorem fits_ofMessage (h : Faithful type toSlots ofSlots) {a : Option α}
    (hn : ∀ v ∈ (Slot.ofMessage toSlots a).parts, v.NestsWithin limit) :
    (Slot.ofMessage toSlots a).Fits (Value.Fits DescriptorType.layout limit)
      (.optional n (.message type)) := by
  cases a with
  | none => trivial
  | some a => exact h.fits_message (hn _ List.mem_cons_self)

theorem fits_ofMessages (h : Faithful type toSlots ofSlots) {as : List α}
    (hn : ∀ v ∈ (Slot.ofMessages toSlots as).parts, v.NestsWithin limit) :
    (Slot.ofMessages toSlots as).Fits (Value.Fits DescriptorType.layout limit)
      (.repeated n (.message type)) := by
  intro v hv
  obtain ⟨a, -, rfl⟩ := List.mem_map.mp hv
  exact h.fits_message (hn _ hv)

end Faithful

/-! ### Rules -/

@[simp]
theorem Override.ofSlot?_toSlot (o : Override) : ofSlot? o.toSlot = some o := by
  cases o <;> simp [toSlot, ofSlot?]

section Overrides

variable {limit : Nat}

theorem Override.fits (o : Override) : o.toSlot.Fits (Value.Fits DescriptorType.layout limit)
    (.oneof DescriptorType.overrideMembers) := by
  cases o with
  | string mask => exact ⟨_, rfl, carries_text.fits mask⟩
  | int mask => exact ⟨_, rfl, carries_int64.fits mask⟩
  | double mask => exact ⟨_, rfl, carries_double.fits mask⟩
  | bool mask => exact ⟨_, rfl, carries_bool.fits mask⟩
  | bytes mask => exact ⟨_, rfl, carries_text.fits mask⟩
  | enum mask => exact ⟨_, rfl, carries_int32.fits mask⟩

/-- The members of the oneof are the overrides. -/
theorem Override.exists_of_fits {n : Nat} {v : Value}
    (h : (Slot.member n v).Fits (Value.Fits DescriptorType.layout limit)
      (.oneof DescriptorType.overrideMembers)) : ∃ o : Override, o.toSlot = .member n v := by
  obtain ⟨kind, hkind, hv⟩ := h
  obtain ⟨member, hm, rfl⟩ := Option.map_eq_some_iff.mp hkind
  have hn : member.number = n := by simpa using List.find?_some hm
  have hmem := List.mem_of_find?_eq_some hm
  simp only [DescriptorType.overrideMembers, List.mem_cons, List.not_mem_nil, or_false] at hmem
  subst hn
  rcases hmem with rfl | rfl | rfl | rfl | rfl | rfl
  · obtain ⟨mask, rfl⟩ := carries_text.exists_of_fits hv
    exact ⟨.string mask, rfl⟩
  · obtain ⟨mask, rfl⟩ := carries_int64.exists_of_fits hv
    exact ⟨.int mask, rfl⟩
  · obtain ⟨mask, rfl⟩ := carries_double.exists_of_fits hv
    exact ⟨.double mask, rfl⟩
  · obtain ⟨mask, rfl⟩ := carries_bool.exists_of_fits hv
    exact ⟨.bool mask, rfl⟩
  · obtain ⟨mask, rfl⟩ := carries_text.exists_of_fits hv
    exact ⟨.bytes mask, rfl⟩
  · obtain ⟨mask, rfl⟩ := carries_int32.exists_of_fits hv
    exact ⟨.enum mask, rfl⟩

end Overrides

theorem faithful_rules : Faithful .rules Rules.toSlots Rules.ofSlots where
  ofSlots_toSlots := by
    rintro ⟨redact, mask⟩
    cases mask with
    | none => rfl
    | some o => simp [Rules.toSlots, Rules.ofSlots, Slot.bool?, Slot.single?, Value.bool?]
  toSlots_ofSlots := by
    intro limit slots h
    obtain _ | @⟨redact, _, _, _, hredact, _ | @⟨mask, _, _, _, hmask, _ | _⟩⟩ := h
    cases redact with
    | single v =>
      obtain ⟨b, rfl⟩ := carries_bool.exists_of_fits hredact
      cases mask with
      | absent => rfl
      | member n v =>
        obtain ⟨o, ho⟩ := Override.exists_of_fits hmask
        rw [← ho]
        simp [Rules.toSlots, Rules.ofSlots, Slot.bool?, Slot.single?, Value.bool?]
      | _ => exact hmask.elim
    | _ => exact hredact.elim
  fits := by
    rintro limit ⟨redact, mask⟩ -
    refine .cons (carries_bool.fits redact) (.cons ?_ .nil)
    cases mask with
    | none => trivial
    | some o => exact o.fits

/-! ### Options and declarations -/

theorem faithful_fieldOptions :
    Faithful .fieldOptions FieldOptions.toSlots FieldOptions.ofSlots where
  ofSlots_toSlots o := congrArg FieldOptions.mk (faithful_rules.message?_ofMessage o.redact)
  toSlots_ofSlots h := by
    obtain _ | ⟨hredact, _ | _⟩ := h
    exact congrArg (· :: []) (faithful_rules.ofMessage_message? hredact)
  fits h := .cons (faithful_rules.fits_ofMessage (h _ List.mem_cons_self)) .nil

theorem faithful_messageOptions :
    Faithful .messageOptions MessageOptions.toSlots MessageOptions.ofSlots where
  ofSlots_toSlots o := congrArg MessageOptions.mk (bool?_ofBool o.mapEntry)
  toSlots_ofSlots h := by
    obtain _ | ⟨hmapEntry, _ | _⟩ := h
    exact congrArg (· :: []) (ofBool_bool? hmapEntry)
  fits _ := .cons (fits_ofBool _) .nil

theorem faithful_oneof : Faithful .oneof OneofDescriptor.toSlots OneofDescriptor.ofSlots where
  ofSlots_toSlots o := congrArg OneofDescriptor.mk (text?_ofText o.name)
  toSlots_ofSlots h := by
    obtain _ | ⟨hname, _ | _⟩ := h
    exact congrArg (· :: []) (ofText_text? hname)
  fits _ := .cons (fits_ofText _) .nil

theorem faithful_enum : Faithful .enumeration EnumDescriptor.toSlots EnumDescriptor.ofSlots where
  ofSlots_toSlots e := congrArg EnumDescriptor.mk (text?_ofText e.name)
  toSlots_ofSlots h := by
    obtain _ | ⟨hname, _ | _⟩ := h
    exact congrArg (· :: []) (ofText_text? hname)
  fits _ := .cons (fits_ofText _) .nil

theorem faithful_field : Faithful .field FieldDescriptor.toSlots FieldDescriptor.ofSlots where
  ofSlots_toSlots f := by
    simp [FieldDescriptor.toSlots, FieldDescriptor.ofSlots,
      faithful_fieldOptions.message?_ofMessage]
  toSlots_ofSlots h := by
    obtain _ | ⟨hname, _ | ⟨hnumber, _ | ⟨hlabel, _ | ⟨htype, _ | ⟨htypeName, _ | ⟨hoptions, _ |
      ⟨honeof, _ | ⟨hjsonName, _ | ⟨hproto3, _ | _⟩⟩⟩⟩⟩⟩⟩⟩⟩ := h
    simp only [FieldDescriptor.ofSlots, FieldDescriptor.toSlots, ofText_text? hname,
      ofInt32_int32? hnumber, ofInt32_int32? hlabel, ofInt32_int32? htype, ofText_text? htypeName,
      faithful_fieldOptions.ofMessage_message? hoptions, ofInt32_int32? honeof,
      ofText_text? hjsonName, ofBool_bool? hproto3]
  fits h := by
    simp only [NestWithin, FieldDescriptor.toSlots, List.forall_mem_cons] at h
    obtain ⟨-, -, -, -, -, hoptions, -⟩ := h
    exact .cons (fits_ofText _) (.cons (fits_ofInt32 _) (.cons (fits_ofInt32 _)
      (.cons (fits_ofInt32 _) (.cons (fits_ofText _)
        (.cons (faithful_fieldOptions.fits_ofMessage hoptions) (.cons (fits_ofInt32 _)
          (.cons (fits_ofText _) (.cons (fits_ofBool _) .nil))))))))

/-! ### Messages inside messages -/

namespace MessageDescriptor

theorem toValues_eq_map (ms : List MessageDescriptor) :
    toValues ms = ms.map fun m => .message (toSlots m) := by
  induction ms with
  | nil => rfl
  | cons m ms ih => rw [toValues, ih, List.map_cons]

theorem ofValues_eq_map (vs : List Value) : ofValues vs = vs.map ofValue := by
  induction vs with
  | nil => rfl
  | cons v vs ih => rw [ofValues, ih, List.map_cons]

mutual
theorem ofSlots_toSlots : ∀ m : MessageDescriptor, ofSlots (toSlots m) = m
  | ⟨name, field, nested, enum, options, oneof⟩ => by
    have := ofValues_toValues nested
    simp [toSlots, ofSlots, ofValue, this, faithful_field.messages_ofMessages,
      faithful_enum.messages_ofMessages, faithful_messageOptions.message?_ofMessage,
      faithful_oneof.messages_ofMessages]

theorem ofValues_toValues : ∀ ms : List MessageDescriptor, ofValues (toValues ms) = ms
  | [] => rfl
  | m :: ms => by
    have h := ofSlots_toSlots m
    rw [ofSlots] at h
    rw [toValues, ofValues, h, ofValues_toValues ms]
end

/-- A message is the one of its descriptor, by induction on the levels of nesting. -/
theorem message_ofValue {limit : Nat} {v : Value}
    (h : v.Fits DescriptorType.layout limit (.message .message)) :
    .message (toSlots (ofValue v)) = v := by
  induction limit generalizing v with
  | zero => cases v <;> exact h.elim
  | succ limit ih =>
    cases v with
    | datum d => exact h.elim
    | message slots =>
      obtain _ | ⟨hname, _ | ⟨hfield, _ | @⟨nested, _, _, _, hnested, _ | ⟨henum, _ | ⟨hoptions, _ |
        ⟨honeof, _ | _⟩⟩⟩⟩⟩⟩ := h
      cases nested with
      | «repeated» vs =>
        have hvs : toValues (ofValues vs) = vs := by
          rw [toValues_eq_map, ofValues_eq_map, List.map_map]
          exact (List.map_congr_left fun v hv => ih (hnested v hv)).trans (List.map_id' vs)
        simp only [ofValue, toSlots, ofText_text? hname, faithful_field.ofMessages_messages hfield,
          hvs, faithful_enum.ofMessages_messages henum,
          faithful_messageOptions.ofMessage_message? hoptions,
          faithful_oneof.ofMessages_messages honeof]
      | _ => exact hnested.elim

/-- The slots of a descriptor fit, by induction on the levels of nesting. -/
theorem fits_message {limit : Nat} {m : MessageDescriptor}
    (h : (Value.message (toSlots m)).NestsWithin limit) :
    (Value.message (toSlots m)).Fits DescriptorType.layout limit (.message .message) := by
  induction limit generalizing m with
  | zero => exact h.elim
  | succ limit ih =>
    obtain ⟨name, field, nested, enum, options, oneof⟩ := m
    simp only [Value.NestsWithin, toSlots, List.forall_mem_cons] at h
    obtain ⟨-, hfield, hnested, henum, hoptions, honeof, -⟩ := h
    have hvalues : ∀ v ∈ toValues nested,
        v.Fits DescriptorType.layout limit (.message .message) := by
      intro v hv
      have hn := hnested v hv
      rw [toValues_eq_map] at hv
      obtain ⟨m, -, rfl⟩ := List.mem_map.mp hv
      exact ih hn
    exact .cons (fits_ofText _) (.cons (faithful_field.fits_ofMessages hfield) (.cons hvalues
      (.cons (faithful_enum.fits_ofMessages henum)
        (.cons (faithful_messageOptions.fits_ofMessage hoptions)
          (.cons (faithful_oneof.fits_ofMessages honeof) .nil)))))

theorem repeated_toValues (ms : List MessageDescriptor) :
    Slot.repeated (toValues ms) = .ofMessages toSlots ms := by
  rw [toValues_eq_map, Slot.ofMessages]

theorem ofValues_values (slot : Slot) : ofValues slot.values = slot.messages ofSlots := by
  rw [ofValues_eq_map, Slot.messages]
  refine List.map_congr_left fun v _ => ?_
  cases v <;> rfl

end MessageDescriptor

theorem faithful_message :
    Faithful .message MessageDescriptor.toSlots MessageDescriptor.ofSlots where
  ofSlots_toSlots := MessageDescriptor.ofSlots_toSlots
  toSlots_ofSlots := by
    intro limit slots h
    have hfit : (Value.message slots).Fits DescriptorType.layout (limit + 1) (.message .message) :=
      h
    exact Value.message.inj (MessageDescriptor.message_ofValue hfit)
  fits := by
    intro limit m h
    have hnest : (Value.message m.toSlots).NestsWithin (limit + 1) := h
    exact MessageDescriptor.fits_message hnest

theorem faithful_file : Faithful .file FileDescriptor.toSlots FileDescriptor.ofSlots where
  ofSlots_toSlots f := by
    simp [FileDescriptor.toSlots, FileDescriptor.ofSlots, MessageDescriptor.repeated_toValues,
      MessageDescriptor.ofValues_values, faithful_message.messages_ofMessages,
      faithful_enum.messages_ofMessages]
  toSlots_ofSlots h := by
    obtain _ | ⟨hname, _ | ⟨hpackage, _ | ⟨hdependency, _ | ⟨hmessage, _ | ⟨henum, _ |
      ⟨hproto, _ | _⟩⟩⟩⟩⟩⟩ := h
    simp only [FileDescriptor.ofSlots, FileDescriptor.toSlots, MessageDescriptor.repeated_toValues,
      MessageDescriptor.ofValues_values, ofText_text? hname, ofText_text? hpackage,
      ofTexts_texts hdependency, faithful_message.ofMessages_messages hmessage,
      faithful_enum.ofMessages_messages henum, ofText_text? hproto]
  fits h := by
    simp only [NestWithin, FileDescriptor.toSlots, MessageDescriptor.repeated_toValues,
      List.forall_mem_cons] at h
    obtain ⟨-, -, -, hmessage, henum, -⟩ := h
    rw [FileDescriptor.toSlots, MessageDescriptor.repeated_toValues]
    exact .cons (fits_ofText _) (.cons (fits_ofText _) (.cons (fits_ofTexts _)
      (.cons (faithful_message.fits_ofMessages hmessage)
        (.cons (faithful_enum.fits_ofMessages henum) (.cons (fits_ofText _) .nil)))))

theorem faithful_fileSet : Faithful .fileSet FileSet.toSlots FileSet.ofSlots where
  ofSlots_toSlots s := congrArg FileSet.mk (faithful_file.messages_ofMessages s.file)
  toSlots_ofSlots h := by
    obtain _ | ⟨hfile, _ | _⟩ := h
    exact congrArg (· :: []) (faithful_file.ofMessages_messages hfile)
  fits h := .cons (faithful_file.fits_ofMessages (h _ List.mem_cons_self)) .nil

/-! ### Requests and responses -/

theorem faithful_request : Faithful .request Request.toSlots Request.ofSlots where
  ofSlots_toSlots r := by
    simp [Request.toSlots, Request.ofSlots, faithful_file.messages_ofMessages]
  toSlots_ofSlots h := by
    obtain _ | ⟨hgenerate, _ | ⟨hparameter, _ | ⟨hfile, _ | _⟩⟩⟩ := h
    simp only [Request.ofSlots, Request.toSlots, ofTexts_texts hgenerate, ofText_text? hparameter,
      faithful_file.ofMessages_messages hfile]
  fits h := by
    simp only [NestWithin, Request.toSlots, List.forall_mem_cons] at h
    obtain ⟨-, -, hfile, -⟩ := h
    exact .cons (fits_ofTexts _) (.cons (fits_ofText _)
      (.cons (faithful_file.fits_ofMessages hfile) .nil))

theorem faithful_responseFile :
    Faithful .responseFile ResponseFile.toSlots ResponseFile.ofSlots where
  ofSlots_toSlots f := by simp [ResponseFile.toSlots, ResponseFile.ofSlots]
  toSlots_ofSlots h := by
    obtain _ | ⟨hname, _ | ⟨hpoint, _ | ⟨hcontent, _ | _⟩⟩⟩ := h
    simp only [ResponseFile.ofSlots, ResponseFile.toSlots, ofText_text? hname, ofText_text? hpoint,
      ofText_text? hcontent]
  fits _ := .cons (fits_ofText _) (.cons (fits_ofText _) (.cons (fits_ofText _) .nil))

theorem faithful_response : Faithful .response Response.toSlots Response.ofSlots where
  ofSlots_toSlots r := by
    simp only [Response.toSlots, Response.ofSlots, text?_ofText, map_integer?,
      carries_uint64.single?_ofOption, faithful_responseFile.messages_ofMessages]
  toSlots_ofSlots h := by
    obtain _ | ⟨herror, _ | ⟨hfeatures, _ | ⟨hfile, _ | _⟩⟩⟩ := h
    simp only [Response.ofSlots, Response.toSlots, ofText_text? herror, map_integer?,
      carries_uint64.ofOption_single? hfeatures, faithful_responseFile.ofMessages_messages hfile]
  fits h := by
    simp only [NestWithin, Response.toSlots, List.forall_mem_cons] at h
    obtain ⟨-, -, hfile, -⟩ := h
    exact .cons (fits_ofText _) (.cons (carries_uint64.fits_ofOption _)
      (.cons (faithful_responseFile.fits_ofMessages hfile) .nil))

/-! ### Bytes -/

namespace Codec

/-- **A type round-trips:** what is written of a descriptor, its messages not being nested too deep,
is read as the descriptor; and so is what is written of a descriptor that was read from bytes. No
byte string in memory is longer than the lengths given here. -/
structure RoundTrips (c : Codec α) : Prop where
  decode_encode : ∀ a, NestWithin depthLimit (c.toSlots a) → (c.encode a).length < 2 ^ 64 →
    c.decode (c.encode a) = .ok a
  decode_encode_of_decode : ∀ bytes a, bytes.length < 2 ^ 63 → c.decode bytes = .ok a →
    c.decode (c.encode a) = .ok a

/-- The slots of a descriptor that was read, and the length of what is written of it. -/
theorem fits_of_decode {c : Codec α} (h : Faithful c.type c.toSlots c.ofSlots) {bytes : Bytes}
    {a : α} (hd : c.decode bytes = .ok a) :
    SlotsFit DescriptorType.layout depthLimit (c.toSlots a) c.type.layout.fields ∧
      (c.encode a).length ≤ 2 * bytes.length := by
  obtain ⟨slots, hrun, rfl⟩ := decode_eq_ok_iff.mp hd
  obtain ⟨hfit, hle⟩ :=
    Wire.fits_of_decode DescriptorType.isPlain (Wire.decode_eq_ok_iff.mpr hrun)
  rw [encode, h.toSlots_ofSlots hfit]
  exact ⟨hfit, hle⟩

theorem roundTrips_of_faithful {c : Codec α} (h : Faithful c.type c.toSlots c.ofSlots) :
    c.RoundTrips := by
  have back {a : α} (hfit : SlotsFit DescriptorType.layout depthLimit (c.toSlots a)
      c.type.layout.fields) (hlen : (c.encode a).length < 2 ^ 64) :
      c.decode (c.encode a) = .ok a := by
    rw [decode, encode, Wire.decode_encode DescriptorType.isPlain hfit hlen]
    exact congrArg Except.ok (h.ofSlots_toSlots a)
  constructor
  · intro a hn hlen
    exact back (h.fits hn) hlen
  · intro bytes a hlen hd
    obtain ⟨hfit, hle⟩ := fits_of_decode h hd
    exact back hfit (by omega)

end Codec

/-- **Requests, responses and every type of descriptor in them round-trip.** -/
theorem descriptors_roundTrip :
    Codec.request.RoundTrips ∧ Codec.response.RoundTrips ∧ Codec.fileSet.RoundTrips ∧
      Codec.file.RoundTrips ∧ Codec.message.RoundTrips ∧ Codec.field.RoundTrips ∧
        Codec.fieldOptions.RoundTrips ∧ Codec.rules.RoundTrips :=
  ⟨Codec.roundTrips_of_faithful faithful_request, Codec.roundTrips_of_faithful faithful_response,
    Codec.roundTrips_of_faithful faithful_fileSet, Codec.roundTrips_of_faithful faithful_file,
    Codec.roundTrips_of_faithful faithful_message, Codec.roundTrips_of_faithful faithful_field,
    Codec.roundTrips_of_faithful faithful_fieldOptions, Codec.roundTrips_of_faithful faithful_rules⟩

/-- A field with an empty name, a negative number and an override that is the default of its type,
as it is read from bytes; and options with such an override. -/
theorem descriptors_roundTrip_defaults :
    let field : FieldDescriptor :=
      { name := some "", number := some (-1)
        options := some { redact := some { mask := some (.bool false) } } }
    let options : FieldOptions := { redact := some { mask := some (.int 0) } }
    Codec.field.decode (Codec.field.encode field) = .ok field ∧
      Codec.fieldOptions.decode (Codec.fieldOptions.encode options) = .ok options := by
  intro field options
  obtain ⟨-, -, -, -, -, hfield, hoptions, -⟩ := descriptors_roundTrip
  have readField : Codec.field.decode [10, 0, 24, 255, 255, 255, 255, 255, 255, 255, 255, 255, 1,
      66, 6, 130, 181, 24, 2, 40, 0] = .ok field := eq_ok_of_toOption (by decide +kernel)
  have readOptions : Codec.fieldOptions.decode [130, 181, 24, 2, 24, 0] = .ok options :=
    eq_ok_of_toOption (by decide +kernel)
  refine ⟨hfield.decode_encode_of_decode _ field (by decide) readField,
    hoptions.decode_encode options ?_ ?_⟩
  · simp [NestWithin, Value.NestsWithin, depthLimit, Slot.parts, Codec.fieldOptions, options,
      FieldOptions.toSlots, Slot.ofMessage, Slot.ofOption, Rules.toSlots, Override.toSlot]
  · have hle := (Codec.fits_of_decode faithful_fieldOptions readOptions).2
    rw [List.length_cons] at hle
    simp only [List.length_cons, List.length_nil] at hle
    omega

end Redaction
