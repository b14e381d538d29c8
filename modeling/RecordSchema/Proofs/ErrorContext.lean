import RecordSchema.Proofs.Failure

/-!
# Errors name the innermost struct

An error that a build ends with has one of two origins.  It is recorded: what is cached for a type
names an object whose build failed earlier, and the error of that build comes back as it was.  Or it
arises now, at a type that nothing maps, and passes outwards through pointers and lists to the
nearest field, which adds its struct and its name; no field further out adds anything
(`Explained`).

`Course.explains` carries this through the recursion, together with the marks, which are written
with the error of the outermost build.  The refusals of a request for an object, `Refused`, do not
come up inside a build: an object is asked for there only for a struct that the cache was just
found not to have.
-/

namespace RecordSchema

variable {n : Nat}

open Encoder

/-! ## Explanations -/

/-- A map, a dynamic type, or a closed type that is no point in time. -/
def Universe.Unmapped (U : Universe n) (type : TypeExpr n) : Prop :=
  type.isDateTime = false ∧ (U.detail type).kind ∈ [Kind.map, .dynamic, .closed]

/-- Pointers, lists and arrays lead from a type to one that nothing maps, and no hook provides
anything on the way. -/
structure Culprit (U : Universe n) (hooks : TypeExpr n → Hooks) (type inner : TypeExpr n) :
    Prop where
  leads : Wraps (fun list => (hooks list).typeProvider = none) inner type
  unmapped : U.Unmapped inner
  free : (hooks inner).typeProvider = none

/-- The error says that a type is not recognized, and names the struct and the tagged field from
which pointers, lists and arrays lead to this type. -/
inductive Explained (U : Universe n) (hooks : TypeExpr n → Hooks) : EncodeError → Prop
  | inField {struct fields field text content inner} (isStruct : U.detail struct = .struct fields)
      (listed : field ∈ fields) (tagged : field.content = .tagged text content)
      (culprit : Culprit U hooks content inner) :
      Explained U hooks (.typeNotRecognizedInStruct (.typeNotRecognized (U.path inner))
        (U.path struct) field.name)

/-- The error already names a struct and a field. -/
def EncodeError.Layered (error : EncodeError) : Prop :=
  ∃ source path field, error = .typeNotRecognizedInStruct source path field

/-- Some object is marked with an error. -/
def Encoder.Records (e : Encoder n) (error : EncodeError) : Prop :=
  ∃ id, e.cache.failures.get? id = some error

/-- The reasons why there is no object of a type, other than a failed build. -/
inductive Refused (U : Universe n) (e : Encoder n) (type : TypeExpr n)
    (options : List (SchemaOption n)) : EncodeError → Prop
  | notAnObject {found} (hit : e.cache.lookup U type = some found) (other : found.object? = none) :
      Refused U e type options (.notAnObject (U.path type))
  | notStruct (noStruct : U.isStruct type = false) :
      Refused U e type options (.notStruct (U.path type))
  | notSupported {error} (refusal : SchemaOption.applyAllToObject options
      { name := objectName (U.name type) } = .error error) : Refused U e type options error

section Small

variable {U : Universe n} {hooks : TypeExpr n → Hooks} {e e' : Encoder n} {type : TypeExpr n}
  {error : EncodeError}

theorem Universe.unmapped_of_unrecognized (plain : type.isPointer = false)
    (other : (U.info type).scalar? = none) (unlisted : type.item? = none)
    (noStruct : U.isStruct type = false) : U.Unmapped type := by
  have undated : type.isDateTime = false := by
    unfold TypeInfo.scalar? at other
    split at other
    · cases other
    · next undated => simpa [Universe.info] using undated
  refine ⟨undated, ?_⟩
  have described : ∀ detail, U.detail type = detail → detail.kind ∈
      [Kind.map, .dynamic, .closed] ∨ detail.kind ∈ [Kind.list, .array, .pointer] := by
    intro detail same
    cases detail with
    | primitive kind => simp [TypeInfo.scalar?, Universe.info, undated, same] at other
    | struct fields => simp [Universe.isStruct_of_detail same] at noStruct
    | list | array | pointer | map | closed | dynamic => simp [Detail.kind]
  refine (described _ rfl).resolve_right fun nested => ?_
  cases type with
  | native type => cases type <;> simp [Universe.detail, Native.detail, Detail.kind] at nested
  | declared index =>
    unfold Universe.detail at nested
    cases body : (U.declaration index).body <;>
      simp [body, Body.detail, Detail.kind] at nested
  | list | array => cases unlisted
  | pointer => cases plain
  | map => simp [Universe.detail, Detail.kind] at nested

theorem Wraps.of_withoutPointers {free : TypeExpr n → Prop} {inner : TypeExpr n}
    (wraps : Wraps free inner type.withoutPointers) : Wraps free inner type := by
  induction type with
  | pointer shape pointee ih => exact .pointer (ih wraps)
  | native | declared | list | array | map => exact wraps

/-- Options are refused for one reason. -/
theorem SchemaOption.eq_refusal_of_applyAllToObject {options : List (SchemaOption n)}
    {object : ObjectType} (refusal : applyAllToObject options object = .error error) :
    error = .notSupported TargetKind.object.name := by
  induction options generalizing object with
  | nil => cases refusal
  | cons option rest ih =>
    change (option.applyToObject object).bind (applyAllToObject rest) = _ at refusal
    cases option with
    | description text => exact @ih { object with description := some text } refusal
    | defaultValue | deprecationReason | resolver | type | arguments =>
      cases refusal
      rfl

theorem Explained.layered (explained : Explained U hooks error) : error.Layered := by
  cases explained
  exact ⟨_, _, _, rfl⟩

theorem EncodeError.Layered.inStruct (layered : error.Layered) (path field : String) :
    error.inStruct path field = error := by
  obtain ⟨_, _, _, rfl⟩ := layered
  rfl

theorem Encoder.records_of_failure {found : SchemaType}
    (failed : e.cache.failure? found = some error) : e.Records error := by
  unfold TypeCache.failure? at failed
  obtain ⟨id, -, mark⟩ := Option.bind_eq_some_iff.1 failed
  exact ⟨id, mark⟩

theorem Encoder.records_congr (same : e'.cache.failures = e.cache.failures) :
    e'.Records error ↔ e.Records error := by
  unfold Encoder.Records
  rw [same]

/-- The end of an object build marks objects with the error of the build only. -/
theorem Encoder.records_close {α : Type} {outermost : Bool} {path : String}
    {result : Except EncodeError α} (recorded : (e.close outermost path result).Records error) :
    e.Records error ∨ result = .error error := by
  obtain ⟨id, mark⟩ := recorded
  cases outermost with
  | false => exact .inl ⟨id, mark⟩
  | true =>
    cases result with
    | ok _ => exact .inl ⟨id, mark⟩
    | error reason =>
      change (Encoder.marked e.cache e.building reason).failures.get? id = some error at mark
      rw [failures_marked] at mark
      split at mark
      · cases old : e.cache.failures.get? id with
        | none =>
          rw [old] at mark
          exact .inr (congrArg _ (Option.some.inj mark))
        | some other =>
          rw [old] at mark
          cases mark
          exact .inl ⟨id, old⟩
      · exact .inl ⟨id, mark⟩

end Small

/-! ## Errors of a build -/

/-- What a call may take for granted.  Building past the cache is for types without pointers, and
for structs that are not cached; a walk adds fields of a struct to an object of the arena. -/
def Call.Entered (U : Universe n) (e : Encoder n) : Call n → Prop
  | .build type => type.isPointer = false ∧ (U.isStruct type → e.cache.lookup U type = none)
  | .walk id path fields => e.arena.contains id ∧
      ∃ struct all, U.detail struct = .struct all ∧ path = U.path struct ∧ fields ⊆ all
  | .resolve _ | .object _ _ => True

/-- The errors that a call may end with, where `known` are those of earlier builds and of fields. -/
def Call.MayFail (U : Universe n) (hooks : TypeExpr n → Hooks) (known : EncodeError → Prop)
    (e : Encoder n) (call : Call n) (error : EncodeError) : Prop :=
  known error ∨
    match call with
    | .resolve type | .build type =>
      ∃ inner, Culprit U hooks type inner ∧ error = .typeNotRecognized (U.path inner)
    | .object type options => Refused U e type options error
    | .walk _ _ _ => False

section Explains

variable {U : Universe n} {hooks : TypeExpr n → Hooks} {known : EncodeError → Prop}

/-- Every error of a build is known, or arises at a type that nothing maps, or refuses an object.
It marks objects with known errors only. -/
theorem Course.explains {call : Call n} {e e' : Encoder n} {result : Except EncodeError SchemaType}
    (course : Course U call e result e')
    (explained : ∀ error, Explained U hooks error → known error)
    (layered : ∀ error, known error → error.Layered)
    (entered : call.Entered U e) (hooked : ∀ type, e.hooksOf U type = hooks type)
    (marks : ∀ error, e.Records error → known error) :
    (∀ error, e'.Records error → known error) ∧
      ∀ error, result = .error error → call.MayFail U hooks known e error := by
  have met : ∀ {e : Encoder n} {event : Event n} {met : TypeExpr n},
      (∀ type, e.hooksOf U type = hooks type) →
        ∀ type, ((e.note event).meet U met).hooksOf U type = hooks type :=
    fun hooked type => (hooksOf_of_met U rfl type).trans (hooked type)
  induction course with
  | pointer inner ih =>
    obtain ⟨marks, fails⟩ := ih trivial hooked marks
    refine ⟨marks, fun error failed => (fails error failed).imp_right ?_⟩
    rintro ⟨inner, culprit, same⟩
    exact ⟨inner, { culprit with leads := .pointer culprit.leads }, same⟩
  | recorded plain hit failed | objectRecorded hit failed =>
    refine ⟨marks, ?_⟩
    rintro _ ⟨⟩
    exact .inl (marks _ (records_of_failure failed))
  | recalled | objectRecalled | done => exact ⟨marks, fun _ failed => by cases failed⟩
  | provided | scalar => exact ⟨marks, fun _ failed => by cases failed⟩
  | resolved plain miss inner ih =>
    have entered := ih ⟨plain, fun _ => miss⟩ hooked marks
    exact ⟨entered.1, fun _ failed => by cases failed⟩
  | refused plain miss inner ih => exact ih ⟨plain, fun _ => miss⟩ hooked marks
  | @list type item e result e' free other listed inner ih =>
    obtain ⟨marks, fails⟩ := ih trivial (met hooked) marks
    refine ⟨marks, fun error failed => ?_⟩
    cases result with
    | ok _ => cases failed
    | error reason =>
      cases failed
      refine (fails _ rfl).imp_right ?_
      rintro ⟨inner, culprit, same⟩
      rw [hooked] at free
      exact ⟨inner, { culprit with leads := .list listed free culprit.leads }, same⟩
  | struct free other struct inner ih =>
    obtain ⟨marks, fails⟩ := ih trivial (met hooked) marks
    refine ⟨marks, fun error failed => .inl ((fails error failed).resolve_right fun refused => ?_)⟩
    -- The look into the cache failed just before, and there are no options.
    cases refused with
    | notAnObject hit => exact absurd ((entered.2 struct).symm.trans hit) (by simp)
    | notStruct noStruct => exact absurd (struct.symm.trans noStruct) (by simp)
    | notSupported refusal => cases refusal
  | @unrecognized type e free other unlisted noStruct =>
    refine ⟨marks, ?_⟩
    rintro _ ⟨⟩
    have unmapped := U.unmapped_of_unrecognized entered.1 other unlisted noStruct
    exact .inr ⟨type, ⟨.self, unmapped, hooked type ▸ free⟩, rfl⟩
  | notAnObject hit sound other =>
    refine ⟨marks, ?_⟩
    rintro _ ⟨⟩
    exact .inr (.notAnObject hit other)
  | notStruct miss noStruct =>
    refine ⟨marks, ?_⟩
    rintro _ ⟨⟩
    exact .inr (.notStruct noStruct)
  | notSupported miss struct refusal =>
    refine ⟨marks, ?_⟩
    rintro _ ⟨⟩
    exact .inr (.notSupported refusal)
  | @begun type options e object fields result e' miss struct made inner ih =>
    have live : (e.begin U type object).arena.contains e.arena.nextId := by
      rw [Arena.contains_iff, begin_arena, Arena.size_insert, Arena.number_nextId]
      omega
    have start : ∀ error, (e.begin U type object).Records error → known error := marks
    have whole : ∃ struct all, U.detail struct = .struct all ∧ U.path type = U.path struct ∧
        fields ⊆ all := ⟨type, fields, struct, rfl, fun _ listed => listed⟩
    obtain ⟨marks, fails⟩ := ih ⟨live, whole⟩ hooked start
    have fails : ∀ error, result = .error error → known error := fun error failed =>
      (fails error failed).resolve_right id
    refine ⟨fun error recorded => ?_, fun error failed => .inl (fails error failed)⟩
    rcases records_close recorded with earlier | own
    · exact marks error earlier
    · exact fails error own
  | untagged untagged inner ih =>
    obtain ⟨live, struct, all, isStruct, path, listed⟩ := entered
    exact ih ⟨live, struct, all, isStruct, path, fun _ inside =>
      listed (List.mem_cons_of_mem _ inside)⟩ hooked marks
  | @tagged id path field text type rest e resolved e₁ result e' content first live inner ih₁ ih₂ =>
    obtain ⟨-, struct, all, isStruct, named, listed⟩ := entered
    obtain ⟨marks, -⟩ := ih₁ trivial hooked marks
    have still := contains_expose U e₁ id path field.name (.parse text) type resolved id
    refine ih₂ ⟨still.trans live, struct, all, isStruct, named, fun _ inside =>
      listed (List.mem_cons_of_mem _ inside)⟩ (fun type => ?_) fun error recorded => ?_
    · rw [hooksOf_of_met U (expose_registry U e₁ _ _ _ _ _ _), first.hooksOf, hooked]
    · exact marks error ((records_congr (by rw [expose_cache])).1 recorded)
  | @stopped id path field text type rest e error e' content first ih =>
    obtain ⟨-, struct, all, isStruct, rfl, listed⟩ := entered
    obtain ⟨marks, fails⟩ := ih trivial hooked marks
    refine ⟨marks, ?_⟩
    rintro _ ⟨⟩
    rcases fails error rfl with earlier | ⟨inner, culprit, rfl⟩
    · exact .inl (((layered error earlier).inStruct _ _).symm ▸ earlier)
    · exact .inl (explained _ (.inField isStruct (listed List.mem_cons_self) content culprit))
  | dangling content first dead =>
    have still := first.keeps.live entered.1
    rw [dead] at still
    cases still

end Explains

end RecordSchema
