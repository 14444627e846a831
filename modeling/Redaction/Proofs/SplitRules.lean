import Mathlib.Data.List.Induction
import Redaction.Proofs.UndeclaredRecords

/-!
# Rules in several records

The rules of a field may be written in several records of its options, with undeclared options
before, between and behind them, and each of these records holds any number of records of the rules.

* `recordAt_ruleRecord`, `recordAt_optionsRecord`: what one record does to rules, and to options.
* `foldl_apply_eq`: of many records the last flag and the last override count.
* `decode_split_rules`: so it is with the records of all parts together.
-/

namespace Redaction

open Wire

/-! ### Records -/

/-- The number of the member of the oneof that an override is. -/
def Override.number : Override → Nat
  | string _ => 2
  | int _ => 3
  | double _ => 4
  | bool _ => 5
  | bytes _ => 6
  | enum _ => 7

/-- The type of the member of the oneof that an override is. -/
def Override.scalar : Override → Scalar
  | string _ | bytes _ => .string
  | int _ => .int64
  | double _ => .double
  | bool _ => .bool
  | enum _ => .int32

/-- The datum of an override. -/
def Override.datum : Override → Datum
  | string mask | bytes mask => .text mask
  | int mask => .integer mask.toInt
  | double mask => .double mask
  | bool mask => .bool mask
  | enum mask => .integer mask.toInt

/-- **A record of rules:** the flag or an override. -/
inductive RuleRecord where
  | redact (flag : Bool)
  | mask (o : Override)

/-- The flag of a record. -/
def RuleRecord.flag? : RuleRecord → Option Bool
  | redact flag => some flag
  | mask _ => none

/-- The override of a record. -/
def RuleRecord.override? : RuleRecord → Option Override
  | redact _ => none
  | mask o => some o

/-- The record of a scalar, in any spelling. -/
def ScalarRecord (number : Nat) (s : Scalar) (d : Datum) : Bytes → Prop :=
  RecordOf fun key q => key = ⟨number, s.wireType⟩ ∧ s.Form d q

/-- The bytes write the record of rules. -/
def RuleRecord.Form : RuleRecord → Bytes → Prop
  | redact flag => ScalarRecord 1 .bool (.bool flag)
  | mask o => ScalarRecord o.number o.scalar o.datum

/-- **A record of field options:** records of rules, or an undeclared option. -/
inductive OptionsRecord where
  | rules (records : List RuleRecord)
  | undeclared

/-- The records of rules in a record of field options. -/
def OptionsRecord.records : OptionsRecord → List RuleRecord
  | rules records => records
  | undeclared => []

/-- The bytes write the record of field options. -/
def OptionsRecord.Form : OptionsRecord → Bytes → Prop
  | rules records => RecordOf fun key q => key = ⟨50000, .lengthDelimited⟩ ∧
      ∃ ps : List Bytes, List.Forall₂ RuleRecord.Form records ps ∧ Prefixed ps.flatten q
  | undeclared => DescriptorType.fieldOptions.layout.Undeclared

/-! ### What a record does -/

/-- The rules after one more record. -/
def Rules.apply (r : Rules) : RuleRecord → Rules
  | .redact flag => { r with redact := flag }
  | .mask o => { r with mask := some o }

/-- The options after one more record. -/
def FieldOptions.apply (o : FieldOptions) : OptionsRecord → FieldOptions
  | .rules records => { redact := some (records.foldl Rules.apply (o.redact.getD {})) }
  | .undeclared => o

/-- **One record of rules** takes the slots of the rules to those with the record. -/
theorem recordAt_ruleRecord {limit : Nat} {record : RuleRecord} {p : Bytes} (h : record.Form p)
    (r : Rules) : RecordAt DescriptorType.layout limit DescriptorType.rules.layout r.toSlots
      (r.apply record).toSlots p := by
  cases record with
  | redact flag =>
    obtain ⟨key, k, q, hk, ⟨rfl, hq⟩, rfl⟩ := h
    exact ⟨_, k, q, hk, .declared (i := 0) rfl rfl ⟨_, ⟨rfl, _, hq, rfl⟩, rfl⟩, rfl⟩
  | mask o =>
    obtain ⟨key, k, q, hk, ⟨rfl, hq⟩, rfl⟩ := h
    cases o <;>
      exact ⟨_, k, q, hk, .declared (i := 1) rfl rfl ⟨_, ⟨rfl, _, hq, rfl⟩, rfl⟩, rfl⟩

/-- Records of rules one after the other. -/
theorem run_ruleRecords {limit : Nat} {records : List RuleRecord} {ps : List Bytes}
    (h : List.Forall₂ RuleRecord.Form records ps) (r : Rules) :
    Run (RecordAt DescriptorType.layout limit DescriptorType.rules.layout) r.toSlots
      (records.foldl Rules.apply r).toSlots ps.flatten := by
  induction h generalizing r with
  | nil => exact .done
  | cons hp _ ih => exact .step (recordAt_ruleRecord hp r) (ih _)

/-- **One record of field options** takes the slots of the options to those with the record. -/
theorem recordAt_optionsRecord {limit : Nat} {record : OptionsRecord} {p : Bytes}
    (h : record.Form p) (o : FieldOptions) :
    RecordAt DescriptorType.layout (limit + 1) DescriptorType.fieldOptions.layout o.toSlots
      (o.apply record).toSlots p := by
  cases record with
  | undeclared => exact recordAt_of_undeclared h o.toSlots
  | rules records =>
    obtain ⟨key, k, q, hk, ⟨rfl, ps, hps, hq⟩, rfl⟩ := h
    have hbody : bodyForm DescriptorType.layout (limit + 1) DescriptorType.rules.layout
        (o.redact.getD {}).toSlots (records.foldl Rules.apply (o.redact.getD {})).toSlots q :=
      ⟨ps.flatten, hq, run_ruleRecords hps _⟩
    obtain ⟨redact⟩ := o
    -- rules that are not there yet start as the empty ones
    cases redact with
    | none => exact ⟨_, k, q, hk, .declared (i := 0) rfl rfl ⟨_, ⟨rfl, _, hbody, rfl⟩, rfl⟩, rfl⟩
    | some r => exact ⟨_, k, q, hk, .declared (i := 0) rfl rfl ⟨_, ⟨rfl, _, hbody, rfl⟩, rfl⟩, rfl⟩

theorem run_optionsRecords {limit : Nat} {records : List OptionsRecord} {ps : List Bytes}
    (h : List.Forall₂ OptionsRecord.Form records ps) (o : FieldOptions) :
    Run (RecordAt DescriptorType.layout (limit + 1) DescriptorType.fieldOptions.layout) o.toSlots
      (records.foldl FieldOptions.apply o).toSlots ps.flatten := by
  induction h generalizing o with
  | nil => exact .done
  | cons hp _ ih => exact .step (recordAt_optionsRecord hp o) (ih _)

/-! ### What many records do -/

/-- The rules that records write: the last flag and the last override count. -/
def Rules.ofRecords (records : List RuleRecord) : Rules where
  redact := (records.filterMap RuleRecord.flag?).getLast?.getD false
  mask := (records.filterMap RuleRecord.override?).getLast?

/-- **Of many records the last flag and the last override count.** -/
theorem foldl_apply_eq (records : List RuleRecord) :
    records.foldl Rules.apply {} = Rules.ofRecords records := by
  induction records using List.reverseRecOn with
  | nil => rfl
  | append_singleton records record ih =>
    rw [List.foldl_append, List.foldl_cons, List.foldl_nil, ih]
    cases record with
    | redact flag => simp [Rules.apply, Rules.ofRecords, RuleRecord.flag?, RuleRecord.override?]
    | mask o => simp [Rules.apply, Rules.ofRecords, RuleRecord.flag?, RuleRecord.override?]

/-- The parts of the rules count as if their records stood in one part. -/
theorem foldl_options_getD (records : List OptionsRecord) (o : FieldOptions) :
    (records.foldl FieldOptions.apply o).redact.getD {} =
      (records.flatMap OptionsRecord.records).foldl Rules.apply (o.redact.getD {}) := by
  induction records generalizing o with
  | nil => rfl
  | cons record records ih =>
    rw [List.foldl_cons, ih, List.flatMap_cons, List.foldl_append]
    cases record <;> rfl

/-- There are rules once a part has written some. -/
theorem isSome_foldl_options {records : List OptionsRecord} {o : FieldOptions}
    (h : o.redact.isSome ∨ ∃ rules, .rules rules ∈ records) :
    (records.foldl FieldOptions.apply o).redact.isSome := by
  induction records generalizing o with
  | nil => simpa using h
  | cons record records ih =>
    refine ih ?_
    rcases h with h | ⟨rules, h⟩
    · cases record with
      | rules _ => exact .inl rfl
      | undeclared => exact .inl h
    · rcases List.mem_cons.mp h with rfl | h
      · exact .inl rfl
      · exact .inr ⟨rules, h⟩

/-- **Rules may be split.** However the records of rules are cut into parts, and whatever undeclared
options stand among the parts, the options are read with the last flag and the last override. -/
theorem decode_split_rules {records : List OptionsRecord} {ps : List Bytes}
    (h : List.Forall₂ OptionsRecord.Form records ps) (hr : ∃ rules, .rules rules ∈ records) :
    Codec.fieldOptions.decode ps.flatten =
      .ok { redact := some (Rules.ofRecords (records.flatMap OptionsRecord.records)) } := by
  refine Codec.decode_eq_ok_iff.mpr ⟨_, run_optionsRecords h {}, ?_⟩
  obtain ⟨r, hsome⟩ := Option.isSome_iff_exists.mp (isSome_foldl_options (.inr hr))
  have hall := foldl_options_getD records {}
  rw [hsome, Option.getD_some] at hall
  rw [← foldl_apply_eq]
  refine (faithful_fieldOptions.ofSlots_toSlots _).trans ?_
  exact congrArg FieldOptions.mk (hsome.trans (congrArg some hall))

/-- A flag and an override, then an undeclared option, then the override that counts. The flag is
spelled with two bytes. -/
theorem decode_split_rules_twice :
    Codec.fieldOptions.decode
        [[130, 181, 24, 5, 8, 129, 0, 24, 7], [10, 0], [130, 181, 24, 2, 40, 0]].flatten =
      .ok { redact := some { redact := true, mask := some (.bool false) } } := by
  have key : Key.Spells ⟨50000, .lengthDelimited⟩ [130, 181, 24] :=
    reads_readKey.form_of_eq (eq_ok_of_toOption (by decide +kernel))
  have scalar {s : Scalar} {d : Datum} {q : Bytes} (h : (s.read q).toOption = some (d, [])) :
      s.Form d q := (reads_scalar s).form_of_eq (eq_ok_of_toOption h)
  have flag : (RuleRecord.redact true).Form [8, 129, 0] :=
    ⟨_, [8], [129, 0], reads_readKey.form_of_eq rfl, ⟨rfl, scalar (by decide +kernel)⟩, rfl⟩
  have int : (RuleRecord.mask (.int 7)).Form [24, 7] :=
    ⟨_, [24], [7], reads_readKey.form_of_eq rfl, ⟨rfl, scalar (by decide +kernel)⟩, rfl⟩
  have bool : (RuleRecord.mask (.bool false)).Form [40, 0] :=
    ⟨_, [40], [0], reads_readKey.form_of_eq rfl, ⟨rfl, scalar (by decide +kernel)⟩, rfl⟩
  have first : (OptionsRecord.rules [.redact true, .mask (.int 7)]).Form
      [130, 181, 24, 5, 8, 129, 0, 24, 7] :=
    ⟨_, _, _, key, ⟨rfl, _, .cons flag (.cons int .nil), reads_readPayload.form_of_eq rfl⟩, rfl⟩
  have other : OptionsRecord.undeclared.Form [10, 0] :=
    ⟨⟨1, .lengthDelimited⟩, [10], [0], reads_readKey.form_of_eq rfl,
      ⟨by unfold Layout.Declares; decide, [], reads_readPayload.form_of_eq rfl⟩, rfl⟩
  have last : (OptionsRecord.rules [.mask (.bool false)]).Form [130, 181, 24, 2, 40, 0] :=
    ⟨_, _, _, key, ⟨rfl, _, .cons bool .nil, reads_readPayload.form_of_eq rfl⟩, rfl⟩
  exact decode_split_rules (.cons first (.cons other (.cons last .nil))) ⟨_, List.mem_cons_self⟩

end Redaction
