import Mathlib.Tactic.SplitIfs
import Redaction.Build.Builder

/-!
# With what generation fails

Code is generated from descriptors and options that have been read, in memory. So what can be wrong
is something in the descriptors (`IsOfSchema`), or a name that has no identifier. It is never the
wording of an option, the bytes of a message or a file (`outputs_ne_fileFault`): an error of a file
is an error of writing.

A computation that fails only in some ways (`FailsOnly`) is put together of such computations.
-/

namespace Redaction

/-! ### Computations that fail only in some ways -/

section FailsOnly

variable {ε α β : Type} {p : ε → Prop} {x : Except ε α}

/-- **Every failure of the computation is one of the given ones.** -/
def FailsOnly (p : ε → Prop) (x : Except ε α) : Prop := ∀ e, x = .error e → p e

theorem FailsOnly.ok (a : α) : FailsOnly p (.ok a) := fun _ h => nomatch h

theorem FailsOnly.error {e : ε} (h : p e) : FailsOnly p (.error e : Except ε α) := by
  intro e' he
  obtain rfl := Except.error.inj he
  exact h

theorem FailsOnly.bind {f : α → Except ε β} (h : FailsOnly p x) (hf : ∀ a, FailsOnly p (f a)) :
    FailsOnly p (x >>= f) := by
  intro e he
  cases x with
  | error e' => exact h e (congrArg _ (Except.error.inj he))
  | ok a => exact hf a e he

theorem FailsOnly.mapM {f : α → Except ε β} (hf : ∀ a, FailsOnly p (f a)) : ∀ as : List α,
    FailsOnly p (as.mapM f)
  | [] => .ok []
  | a :: as => by
    rw [List.mapM_cons]
    exact (hf a).bind fun b => (mapM hf as).bind fun bs => .ok (b :: bs)

theorem FailsOnly.mapError {ε' : Type} {p' : ε' → Prop} {f : ε → ε'} (h : FailsOnly p x)
    (hf : ∀ e, p e → p' (f e)) : FailsOnly p' (x.mapError f) := by
  intro e he
  cases x with
  | error e' => exact Except.error.inj he ▸ hf e' (h e' rfl)
  | ok a => cases he

end FailsOnly

/-! ### Schemas -/

/-- The error is of something in the descriptors. -/
def Error.IsOfSchema : Error → Prop
  | .unresolvedType .. | .duplicateType .. | .unsupportedFieldType .. | .malformedMapEntry ..
  | .unknownOneof .. | .missingDescriptorField .. | .maskOverride .. => True
  | .invalidParameter .. | .decode .. | .file .. => False

namespace Schema

open Error (IsOfSchema)

variable {index : Index} {fullName : String} {f : FieldDescriptor}

theorem Index.failsOnly_resolveMessage :
    FailsOnly IsOfSchema (index.resolveMessage fullName f) := by
  unfold resolveMessage
  dsimp only
  split_ifs
  · exact .ok _
  · exact .error trivial

theorem Index.failsOnly_resolveEnum : FailsOnly IsOfSchema (index.resolveEnum fullName f) := by
  unfold resolveEnum
  dsimp only
  split_ifs
  · exact .ok _
  · exact .error trivial

theorem failsOnly_fieldType : FailsOnly IsOfSchema (fieldType fullName f) := by
  unfold fieldType
  dsimp only
  split
  · exact .ok _
  · exact .error trivial

theorem failsOnly_mapValue : FailsOnly IsOfSchema (mapValue index fullName f) := by
  refine failsOnly_fieldType.bind fun type => ?_
  split
  · exact Index.failsOnly_resolveMessage.bind fun t => .ok _
  · exact Index.failsOnly_resolveMessage.bind fun t => .ok _
  · exact Index.failsOnly_resolveEnum.bind fun u => .ok _
  · exact .ok _

theorem failsOnly_mapCategory {entryName : String} {entry : MessageDescriptor} :
    FailsOnly IsOfSchema (mapCategory index fullName entryName entry) := by
  unfold mapCategory
  split
  · split
    · refine failsOnly_fieldType.bind fun type => ?_
      split
      · exact failsOnly_mapValue.bind fun value => .ok _
      · exact .error trivial
    · exact .error trivial
  · exact .error trivial

theorem failsOnly_messageCategory : FailsOnly IsOfSchema (messageCategory index fullName f) := by
  refine Index.failsOnly_resolveMessage.bind fun type => ?_
  split
  · split_ifs
    · exact failsOnly_mapCategory.bind fun category => .ok _
    · exact .ok _
  · exact .ok _

theorem failsOnly_categoryOf : FailsOnly IsOfSchema (categoryOf index fullName f) := by
  refine failsOnly_fieldType.bind fun type => ?_
  split
  · exact failsOnly_messageCategory
  · exact failsOnly_messageCategory
  · exact Index.failsOnly_resolveEnum.bind fun u => .ok _
  · exact .ok _

theorem Field.failsOnly_ofDescriptor {owner : TypeName} {proto3 : Bool} :
    FailsOnly IsOfSchema (Field.ofDescriptor index owner proto3 f) := by
  unfold Field.ofDescriptor
  split
  · exact failsOnly_categoryOf.bind fun c => .ok _
  · exact .error trivial

theorem Message.failsOnly_ofDescriptor {file : FileDescriptor} {path : List String}
    {m : MessageDescriptor} : FailsOnly IsOfSchema (Message.ofDescriptor index file path m) := by
  refine (FailsOnly.mapM (fun f => Field.failsOnly_ofDescriptor) _).bind fun fields => ?_
  split
  · exact .error trivial
  · exact .ok _

theorem failsOnly_addFiles {requested : List String} : ∀ (files : List FileDescriptor) (s : Schema),
    FailsOnly IsOfSchema (addFiles index requested files s)
  | [], s => .ok s
  | file :: files, s => by
    have hmessages : FailsOnly IsOfSchema (fileMessages index file) :=
      .mapM (fun p => Message.failsOnly_ofDescriptor) _
    exact hmessages.bind fun messages => failsOnly_addFiles files _

theorem failsOnly_ofFiles (files : List FileDescriptor) (requested : List String) :
    FailsOnly IsOfSchema (ofFiles files requested) := by
  have hindex : FailsOnly IsOfSchema (Index.ofFiles files) := by
    unfold Index.ofFiles
    dsimp only
    split
    · exact .error trivial
    · exact .ok _
  exact hindex.bind fun index => failsOnly_addFiles files _

end Schema

/-! ### Implementations and files -/

/-- The failure is an error of something in the descriptors, or a name without an identifier. -/
def Failure.IsOfSchema : Failure → Prop
  | .refused e => e.IsOfSchema
  | .unnameable => True

namespace Code

open Failure (IsOfSchema)

variable {required : Requirement} {strict : Bool} {f : Schema.Field} {m : Schema.Message}

theorem failsOnly_named {α : Type} (a? : Option α) : FailsOnly IsOfSchema (named a?) := by
  cases a? with
  | none => exact .error trivial
  | some a => exact .ok a

theorem failsOnly_resolveMask : FailsOnly IsOfSchema (resolveMask strict f) := by
  have hresolve : FailsOnly Error.IsOfSchema (f.resolve strict) := by
    unfold Schema.Field.resolve
    split_ifs
    · exact .ok _
    · split
      · exact .error trivial
      · exact .ok _
  exact hresolve.mapError fun e he => he

theorem failsOnly_fieldExpr : FailsOnly IsOfSchema (fieldExpr required strict f) := by
  refine failsOnly_resolveMask.bind fun mask? => ?_
  split
  · exact .ok _
  · refine (failsOnly_named _).bind fun place => ?_
    split
    · exact .ok _
    · exact .ok _
    · split
      · exact .ok _
      · split_ifs <;> exact .ok _

theorem failsOnly_armOf : FailsOnly IsOfSchema (armOf required strict f) := by
  refine (failsOnly_named _).bind fun variant => failsOnly_resolveMask.bind fun mask? => ?_
  split <;> exact .ok _

theorem failsOnly_oneofStatement {index : Nat} :
    FailsOnly IsOfSchema (oneofStatement required strict m index) := by
  unfold oneofStatement
  split
  · exact .error trivial
  · exact (failsOnly_named _).bind fun path => (failsOnly_named _).bind fun place =>
      (FailsOnly.mapM (fun f => failsOnly_armOf) _).bind fun arms => .ok _

theorem failsOnly_statements : ∀ (seen : List Nat) (fs : List Schema.Field),
    FailsOnly IsOfSchema (statements required strict m seen fs)
  | _, [] => .ok []
  | seen, f :: fs => by
    unfold statements
    split
    · split_ifs
      · exact failsOnly_statements _ fs
      · refine failsOnly_oneofStatement.bind fun s => ?_
        exact (failsOnly_statements _ fs).bind fun ss => .ok _
    · exact failsOnly_fieldExpr.bind fun value => (failsOnly_statements _ fs).bind fun ss => .ok _

theorem failsOnly_emit : FailsOnly IsOfSchema (emit required strict m) :=
  (failsOnly_named _).bind fun _ => (failsOnly_statements _ _).bind fun _ => .ok _

end Code

/-- **Generation fails only for what is in the descriptors,** and for names without identifiers. -/
theorem failsOnly_generateFiles (files : List FileDescriptor) (requested : List String)
    (o : Options) : FailsOnly Failure.IsOfSchema (generateFiles files requested o) := by
  have hfile (s : Schema) (required : Requirement) (file : Schema.File) :
      FailsOnly Failure.IsOfSchema (fileOutput s required o file) :=
    (FailsOnly.mapM (fun m => Code.failsOnly_emit.bind fun i => .ok _) _).bind fun impls => .ok _
  have hschema : FailsOnly Failure.IsOfSchema
      ((Schema.ofFiles files requested).mapError .refused) :=
    (Schema.failsOnly_ofFiles files requested).mapError fun e he => he
  exact hschema.bind fun s =>
    (FailsOnly.mapM (fun file => hfile s _ file) _).bind fun outputs => .ok _

/-- Generation in memory does not fail with the fault of a file. -/
theorem outputs_ne_fileFault (b : Build.Builder) (fault : FileFault) :
    b.outputs ≠ .error (.refused (.file fault)) :=
  fun h => failsOnly_generateFiles _ _ _ _ h

end Redaction
