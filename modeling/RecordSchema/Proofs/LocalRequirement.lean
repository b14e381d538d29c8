import RecordSchema.Proofs.Permanence
import RecordSchema.Proofs.RequiredBuilds
import RecordSchema.Proofs.Simulation

/-!
# A required field stays required for itself

The same requests are answered over a universe and over the universe with more required fields.
After every one of them the two encoders have the same cache, the same failures and the same
registry, and their objects are alike; the answers are equal, up to the argument maps in them, which
are alike as well (`Session.requirement_is_local`).

`Encoder.Alike` is the relation between the encoders.  Outside of builds an object is filled to its
end unless it is marked as failed, since a failed build marks all objects that it inserted.
-/

namespace RecordSchema

variable {n : Nat}

open Encoder

/-! ## Encoders between builds -/

/-- The books are the same, and every object is alike, over all fields of its struct unless it is
marked as failed. -/
structure Encoder.Alike (U : Universe n) (chosen : Fin n → Nat → Bool) (e f : Encoder n) : Prop
    extends SameBooks e f where
  resting : Resting e
  objects : ∀ id, e.arena.contains id → AlikeAt U chosen e f id (e.cache.failures.get? id = none)

section Alike

variable {U : Universe n} {chosen : Fin n → Nat → Bool} {e f e' f' : Encoder n}

namespace Encoder.Alike

theorem new (U : Universe n) (chosen : Fin n → Nat → Bool) (policy : KeyPolicy) :
    Alike U chosen (.new U policy) (.new (U.require chosen) policy) where
  cache := rfl
  registry := by simp [Encoder.new]
  building := rfl
  begun := rfl
  size := rfl
  resting := resting_new U policy
  objects id live := by
    rw [Arena.contains_iff] at live
    exact absurd live.2 (by have := live.1; exact Nat.not_le.2 this)

/-- Nothing happens to cache failures and objects. -/
theorem congr (alike : Alike U chosen e f) (books : SameBooks e' f') (resting : Resting e')
    (arena : e'.arena = e.arena) (arena' : f'.arena = f.arena) (begun : e'.begun = e.begun)
    (failures : e'.cache.failures = e.cache.failures) : Alike U chosen e' f' where
  toSameBooks := books
  resting := resting
  objects id live := by
    rw [arena] at live
    refine (alike.objects id live).mono (by rw [arena]) (by rw [arena']) ?_ ?_
    · unfold Encoder.struct?
      rw [begun]
      exact fun _ known => known
    · rw [failures]
      exact fun full => full

theorem know (alike : Alike U chosen e f) (registry : Registry n) :
    Alike U chosen (e.know registry) (f.know registry) := by
  exact alike.congr ⟨alike.cache, rfl, alike.building, alike.begun, alike.size⟩
    (alike.resting.know registry) rfl rfl rfl rfl

theorem store (alike : Alike U chosen e f) (type : TypeExpr n) (resolved : SchemaType) :
    Alike U chosen (e.store U type resolved) (f.store (U.require chosen) type resolved) :=
  alike.congr (alike.toSameBooks.store U chosen type resolved)
    ⟨alike.resting.toTidy.store U type resolved, alike.resting.idle⟩ rfl rfl rfl rfl

theorem note (alike : Alike U chosen e f) {event event' : Event n} (other : event.begun? = none)
    (other' : event'.begun? = none) : Alike U chosen (e.note event) (f.note event') :=
  alike.congr (alike.toSameBooks.note other other')
    ⟨alike.resting.toTidy.note other, alike.resting.idle⟩ rfl rfl (by simp [other]) rfl

theorem unchanged (alike : Alike U chosen e f) (same : Unchanged e e') (same' : Unchanged f f') :
    Alike U chosen e' f' := by
  refine alike.congr ⟨?_, ?_, ?_, ?_, ?_⟩ (same.resting alike.resting) same.arena same'.arena
    same.begun (by rw [same.cache])
  · rw [same.cache, same'.cache, alike.cache]
  · rw [same.registry, same'.registry, alike.registry]
  · rw [same.building, same'.building, alike.building]
  · rw [same.begun, same'.begun, alike.begun]
  · rw [same.arena, same'.arena, alike.size]

/-- A call ends with the same result in both universes. -/
theorem call (alike : Alike U chosen e f) {call : Call n} {type : TypeExpr n}
    {result : Except EncodeError SchemaType} (asked : call.type? = some type)
    (course : Course U call e result e') :
    ∃ f', Course (U.require chosen) call f result f' ∧ Alike U chosen e' f' := by
  have facts : call.Busy e ∧ call.GoesOn U chosen (fun _ => false) e f ∧
      call.require (fun _ => false) = call ∧ call.target? = none := by
    cases call with
    | walk => cases asked
    | resolve | build | object => exact ⟨trivial, trivial, rfl, rfl⟩
  obtain ⟨busy, goesOn, own, untargeted⟩ := facts
  obtain ⟨f', course', books, fresh⟩ := course.require _ alike.toSameBooks alike.resting.toTidy busy
    goesOn
  rw [own] at course'
  have accounts := course.accounts alike.resting.toTidy busy
  refine ⟨f', course', books, (course.lasts asked alike.resting).1, fun id live => ?_⟩
  by_cases new : New e e' id
  · refine (fresh id (.inl new)).mono rfl rfl (fun _ known => known) fun unmarked => ?_
    rw [(accounts.outside alike.resting.idle).2 id new] at unmarked
    cases result with
    | ok _ => rfl
    | error error => cases unmarked
  · have old := (live_or_new live).resolve_right new
    refine (alike.objects id old).mono ?_ ?_ (fun _ known => course.keeps.struct? known) ?_
    · exact course.untouched old (by simp [untargeted])
    · exact course'.untouched (alike.live old) (by simp [untargeted])
    · rw [accounts.old id new]
      exact fun full => full

end Encoder.Alike

/-! ## The steps of requests -/

namespace Build

variable (U chosen)

theorem require_resolveType (type : TypeExpr n) :
    Simulates (Alike U chosen) Eq (resolveType U type) (resolveType (U.require chosen) type) :=
  .of_courses Function.injective_id (resolveType_ends U type)
    (resolveType_ends (U.require chosen) type) course_resolve course_resolve
    fun _ _ _ _ alike course => alike.call rfl course

theorem require_structOfInfo (type : TypeExpr n) (options : List (SchemaOption n)) :
    Simulates (Alike U chosen) Eq (structOfInfo U type options)
      (structOfInfo (U.require chosen) type options) :=
  .of_courses map_object_injective (structOfInfo_ends U type options)
    (structOfInfo_ends (U.require chosen) type options) course_object course_object
    fun _ _ _ _ alike course => alike.call rfl course

theorem require_buildType (type : TypeExpr n) :
    Simulates (Alike U chosen) Eq
      (buildType U (fun type => structOfInfo U type []) type)
      (buildType (U.require chosen) (fun type => structOfInfo (U.require chosen) type []) type) :=
  .of_courses Function.injective_id (buildType_ends U type)
    (buildType_ends (U.require chosen) type) course_build course_build
    fun _ _ _ _ alike course => alike.call rfl course

theorem require_register (type : TypeExpr n) :
    Simulates (Alike U chosen) Eq (register U type) (register (U.require chosen) type) := by
  intro e f alike
  obtain ⟨registry, registered, -⟩ := Registry.register_extends U e.registry type
  refine ⟨.ok (), e.know registry, .ok (), f.know registry, ?_, ?_, alike.know registry, .ok rfl⟩
  · change (e.registry.register U type).map _ = _
    rw [registered]
    rfl
  · change (f.registry.register (U.require chosen) type).map _ = _
    rw [alike.registry, Registry.register_require, registered]
    rfl

theorem require_attach (type : TypeExpr n) (hook : Hook) :
    Simulates (Alike U chosen) Eq (attach type hook) (attach type hook) := by
  intro e f alike
  refine ⟨.ok (e.registry.contains type), _, .ok (f.registry.contains type), _, rfl, rfl, ?_, ?_⟩
  · have after := alike.know (e.registry.attach type hook)
    change Alike U chosen (e.know (e.registry.attach type hook))
      (f.know (f.registry.attach type hook))
    rwa [alike.registry]
  · exact .ok (by rw [alike.registry])

theorem require_structOf (type : TypeExpr n) (options : List (SchemaOption n)) :
    Simulates (Alike U chosen) Eq (structOf U type options)
      (structOf (U.require chosen) type options) :=
  (require_register U chosen type).bind fun _ _ _ => require_structOfInfo U chosen type options

theorem require_cached (type : TypeExpr n) :
    Simulates (Alike U chosen) Eq (cached U type) (cached (U.require chosen) type) := by
  intro e f alike
  have books := alike.toSameBooks
  refine ⟨_, e, _, f, outcome_cached U type e, outcome_cached (U.require chosen) type f, alike, ?_⟩
  apply Agree.of_eq
  rw [books.lookup U chosen]
  cases e.cache.lookup U type with
  | none => rfl
  | some found => simp only [books.failure?]

theorem require_itemType (type : TypeExpr n) (options : List (SchemaOption n)) :
    Simulates (Alike U chosen) Eq (itemType U type options)
      (itemType (U.require chosen) type options) := by
  unfold itemType
  rw [Universe.isStruct_require]
  split
  · exact (require_structOfInfo U chosen type options).map fun id id' same => by rw [same]
  · exact require_buildType U chosen type

theorem require_arrayOf (type : TypeExpr n) (options : List (SchemaOption n)) :
    Simulates (Alike U chosen) Eq (arrayOf U type options)
      (arrayOf (U.require chosen) type options) := by
  unfold arrayOf
  refine (require_register U chosen type).bind fun _ _ _ => ?_
  refine (require_cached U chosen _).bind fun found found' same => ?_
  subst same
  cases found with
  | some found =>
    refine Simulates.bind (.modify fun e f alike => ?_) fun _ _ _ => .pure rfl
    exact alike.note rfl rfl
  | none =>
    refine (require_itemType U chosen _ options).bind fun resolved resolved' same => ?_
    subst same
    refine Simulates.bind (.modify fun e f alike => ?_) fun _ _ _ => .pure rfl
    exact alike.store _ resolved

end Build

/-! ## Argument maps -/

/-- Two argument maps of the tagged fields of a struct. -/
def AlikeArguments (U : Universe n) (chosen : Fin n → Nat → Bool) (type : TypeExpr n)
    (arguments arguments' : ArgumentMap) : Prop :=
  ∃ index fields, type.withoutPointers = .declared index ∧
    U.detail (.declared index) = .struct fields ∧
    AlikeMaps Argument.require (chosen index) fields arguments arguments'

namespace Build

variable (U chosen)

/-- A field adds its argument to both maps. -/
theorem require_addArgument (path : String) {marks : Nat → Bool} {before : List (RecordField n)}
    {arguments arguments' : ArgumentMap}
    (alike : AlikeMaps Argument.require marks before arguments arguments') (field : RecordField n) :
    Simulates (Alike U chosen) (AlikeMaps Argument.require marks (before ++ [field]))
      (addArgument U (resolveType U) path arguments field)
      (addArgument (U.require chosen) (resolveType (U.require chosen)) path arguments'
        (field.requireIf (marks before.length))) := by
  have skipped : ∀ untagged : field.tag? = none, Simulates (Alike U chosen)
      (AlikeMaps Argument.require marks (before ++ [field]))
      (addArgument U (resolveType U) path arguments field)
      (addArgument (U.require chosen) (resolveType (U.require chosen)) path arguments'
        (field.requireIf (marks before.length))) := fun untagged => by
    rw [RecordField.requireIf_of_untagged _ untagged, addArgument_of_untagged untagged,
      addArgument_of_untagged untagged]
    exact .pure (alike.skip untagged)
  cases content : field.content with
  | hidden | untagged => exact skipped (by simp [RecordField.tag?, content])
  | tagged text type =>
    obtain ⟨text', content', marked⟩ := RecordField.content_requireIf (marks before.length) content
    intro e f joined
    obtain ⟨result, e₁, result', f₁, run, run', between, agree⟩ :=
      require_resolveType U chosen type e f joined
    cases agree with
    | @ok resolved resolved' same =>
      subst same
      obtain ⟨e', added, same⟩ := addArgument_of_ok content path arguments run
      obtain ⟨f', added', same'⟩ := addArgument_of_ok content' path arguments' run'
      refine ⟨_, e', _, f', added, added', between.unchanged same same', .ok ?_⟩
      have inserted := alike.insert content { type := taggedType (.parse text) resolved }
      have value : (if marks before.length
          then Argument.require { type := taggedType (.parse text) resolved }
          else { type := taggedType (.parse text) resolved }) =
          { type := taggedType (.parse text') resolved } := by
        rw [marked]
        unfold taggedType Argument.require
        cases marks before.length <;> cases (FieldTag.parse text).nonNull <;> simp
      rw [value] at inserted
      have named : (FieldTag.parse text').name = (FieldTag.parse text).name := by rw [marked]
      rwa [named]
    | error error =>
      have added := addArgument_of_error content path arguments run
      have added' := addArgument_of_error content' path arguments' run'
      rw [RecordField.name_requireIf] at added'
      exact ⟨_, e₁, _, f₁, added, added', between, .error _⟩

theorem require_addArguments (path : String) {marks : Nat → Bool}
    (fields before : List (RecordField n)) (shifted : Nat → Bool)
    (shift : ∀ position, shifted position = marks (before.length + position))
    {arguments arguments' : ArgumentMap}
    (alike : AlikeMaps Argument.require marks before arguments arguments') :
    Simulates (Alike U chosen) (AlikeMaps Argument.require marks (before ++ fields))
      (fields.foldlM (addArgument U (resolveType U) path) arguments)
      ((requireFields shifted fields).foldlM
        (addArgument (U.require chosen) (resolveType (U.require chosen)) path) arguments') := by
  induction fields generalizing before shifted arguments arguments' with
  | nil => exact .pure (by simpa using alike)
  | cons field rest ih =>
    rw [requireFields_cons, List.foldlM_cons, List.foldlM_cons, shift 0]
    refine (require_addArgument U chosen path alike field).bind fun next next' alike => ?_
    have later := ih (before ++ [field]) (fun position => shifted (position + 1))
      (fun position => ?_) alike
    · rwa [List.append_assoc, List.singleton_append] at later
    · rw [shift, List.length_append, List.length_singleton, Nat.add_assoc, Nat.add_comm 1]

theorem require_argsOfInfo (type : TypeExpr n) :
    Simulates (Alike U chosen) (AlikeArguments U chosen type) (argsOfInfo U type)
      (argsOfInfo (U.require chosen) type) := by
  rw [argsOfInfo_eq, argsOfInfo_eq]
  rcases Universe.struct_or_not U type.withoutPointers with ⟨fields, struct⟩ | noStruct
  · obtain ⟨index, declared⟩ := eq_declared_of_struct struct
    rw [declared] at struct ⊢
    rw [argumentsWith_of_struct _ struct,
      argumentsWith_of_struct _ (U.detail_require_of_struct chosen struct), Universe.path_require]
    have none : AlikeMaps Argument.require (chosen index) ([] : List (RecordField n)) .empty
      .empty := .empty
    have built := require_addArguments U chosen (U.path (.declared index)) fields []
      (chosen index) (fun position => by simp) none
    exact built.mono fun _ _ alike => ⟨index, fields, declared, struct, alike⟩
  · have noStruct' := (U.isStruct_require chosen type.withoutPointers).trans noStruct
    rw [argumentsWith_of_other _ noStruct, argumentsWith_of_other _ noStruct',
      Universe.path_require]
    exact .throw _

theorem require_object (id : ObjectId) :
    Simulates (Alike U chosen) (fun object object' => object'.name = object.name)
      (object id) (object id) := by
  intro e f alike
  by_cases live : e.arena.contains id
  · obtain ⟨_, _, _, target, target', -, -, -, -, found, found', same⟩ := alike.objects id live
    refine ⟨.ok target, e, .ok target', f, ?_, ?_, alike, .ok same.name⟩
    · simp [outcome_object, found]
    · simp [outcome_object, found']
  · have missing : e.arena.get? id = none := Option.not_isSome_iff_eq_none.1 live
    have dead' : ¬ f.arena.contains id := by
      rwa [Arena.contains_iff, alike.size, ← Arena.contains_iff]
    have missing' : f.arena.get? id = none := Option.not_isSome_iff_eq_none.1 dead'
    refine ⟨.error (.danglingObject id), e, .error (.danglingObject id), f, ?_, ?_, alike, .error _⟩
    · simp [outcome_object, missing]
    · simp [outcome_object, missing']

end Build

/-! ## Fields -/

/-- The arguments of two fields: those of the last struct that the options name. -/
def AlikeByOptions (U : Universe n) (chosen : Fin n → Nat → Bool) (options : List (SchemaOption n))
    (arguments arguments' : ArgumentMap) : Prop :=
  match (Build.sources options).getLast? with
  | none => arguments' = arguments
  | some source => AlikeArguments U chosen source arguments arguments'

/-- Two fields that the same options made differ in their arguments only. -/
structure AlikeFields (U : Universe n) (chosen : Fin n → Nat → Bool)
    (options : List (SchemaOption n)) (field field' : Field) : Prop where
  name : field'.name = field.name
  type : field'.type = field.type
  description : field'.description = field.description
  deprecationReason : field'.deprecationReason = field.deprecationReason
  resolver : field'.resolver = field.resolver
  arguments : AlikeByOptions U chosen options field.arguments field'.arguments

theorem AlikeByOptions.append {before : List (SchemaOption n)} {option : SchemaOption n}
    {arguments arguments' : ArgumentMap}
    (alike : AlikeByOptions U chosen before arguments arguments')
    (unsourced : Build.sources [option] = []) :
    AlikeByOptions U chosen (before ++ [option]) arguments arguments' := by
  have same : Build.sources (before ++ [option]) = Build.sources before := by
    rw [← List.append_nil (Build.sources before), ← unsourced]
    exact List.filterMap_append
  unfold AlikeByOptions
  rwa [same]

namespace Build

variable (U chosen)

theorem require_applyToField (before : List (SchemaOption n)) (option : SchemaOption n)
    {field field' : Field} (alike : AlikeFields U chosen before field field') :
    Simulates (Alike U chosen) (AlikeFields U chosen (before ++ [option]))
      (applyToField U option field) (applyToField (U.require chosen) option field') := by
  cases option with
  | description text =>
    exact .pure { alike with description := rfl, arguments := alike.arguments.append rfl }
  | deprecationReason reason =>
    exact .pure { alike with deprecationReason := rfl, arguments := alike.arguments.append rfl }
  | resolver replacement =>
    exact .pure { alike with resolver := rfl, arguments := alike.arguments.append rfl }
  | type replacement =>
    exact .pure { alike with type := rfl, arguments := alike.arguments.append rfl }
  | arguments source =>
    refine (require_argsOfInfo U chosen source).map fun given given' listed => ?_
    refine { alike with arguments := ?_ }
    have last : (sources (before ++ [.arguments source])).getLast? = some source := by
      unfold sources
      rw [List.filterMap_append]
      exact List.getLast?_concat
    unfold AlikeByOptions
    rwa [last]
  | defaultValue value => exact .throw _

theorem require_fieldOf (type : TypeExpr n) (options : List (SchemaOption n)) :
    Simulates (Alike U chosen) (AlikeFields U chosen options) (fieldOf U type options)
      (fieldOf (U.require chosen) type options) := by
  unfold fieldOf
  refine (require_structOf U chosen type []).bind fun id id' same => ?_
  subst same
  refine (require_object U chosen id).bind fun target target' same => ?_
  have each : ∀ before (option option' : SchemaOption n) field field', option = option' →
      AlikeFields U chosen before field field' →
      Simulates (Alike U chosen) (AlikeFields U chosen (before ++ [option]))
        (applyToField U option field) (applyToField (U.require chosen) option' field') := by
    rintro before option _ field field' rfl alike
    exact require_applyToField U chosen before option alike
  exact Simulates.foldlM each (List.forall₂_refl options) [] ⟨same, rfl, rfl, rfl, rfl, rfl⟩

end Build

/-! ## Requests and sessions -/

/-- The answers to a request: the arguments of a type and the fields with arguments are compared
name by name, and all else is equal. -/
def Request.AnswersAlike (U : Universe n) (chosen : Fin n → Nat → Bool) (request : Request n)
    (answer answer' : Answer) : Prop :=
  match request, answer, answer' with
  | .argsOf type, .arguments given, .arguments given'
  | .argsOfInfo type, .arguments given, .arguments given' =>
    AlikeArguments U chosen type given given'
  | .fieldOf _ options, .field field, .field field' => AlikeFields U chosen options field field'
  | _, _, _ => answer' = answer

/-- A request is answered alike in both universes. -/
theorem Request.require (U : Universe n) (chosen : Fin n → Nat → Bool) (request : Request n) :
    Build.Simulates (Encoder.Alike U chosen) (request.AnswersAlike U chosen) (request.run U)
      (request.run (U.require chosen)) := by
  cases request with
  | structOf type options =>
    exact (Build.require_structOf U chosen type options).map fun id id' same => congrArg _ same.symm
  | structOfInfo type options =>
    exact (Build.require_structOfInfo U chosen type options).map fun id id' same =>
      congrArg _ same.symm
  | argsOf type =>
    refine Build.Simulates.map ?_ fun given given' alike => alike
    exact (Build.require_register U chosen type).bind fun _ _ _ =>
      Build.require_argsOfInfo U chosen type
  | argsOfInfo type =>
    exact (Build.require_argsOfInfo U chosen type).map fun given given' alike => alike
  | arrayOf type options =>
    exact (Build.require_arrayOf U chosen type options).map fun built built' same =>
      congrArg _ same.symm
  | fieldOf type options =>
    exact (Build.require_fieldOf U chosen type options).map fun field field' alike => alike
  | resolveType type =>
    exact (Build.require_resolveType U chosen type).map fun resolved resolved' same =>
      congrArg _ same.symm
  | registerHook type hook =>
    refine (Build.require_register U chosen type).bind fun _ _ _ => ?_
    exact (Build.require_attach U chosen type hook).map fun known known' same =>
      congrArg _ same.symm
  | insertHook type hook =>
    exact (Build.require_attach U chosen type hook).map fun known known' same =>
      congrArg _ same.symm

/-- **A required field stays required for itself.**  The same session runs over a universe and over
the one in which the chosen fields are required.  The answers are the same, with the same errors and
handles, up to the types of the arguments in them; cache, marks and registry are the same, and so
are the objects, up to the types of their fields.  The types under a name differ only if the last
field that was added under it is chosen, and then the second is the required form of the first.
All fields of a struct were added to its object, unless the object is marked as failed. -/
theorem Session.requirement_is_local (U : Universe n) (chosen : Fin n → Nat → Bool)
    (policy : KeyPolicy) (requests : List (Request n)) :
    ∃ answers e answers' f, Session.run U requests (.new U policy) = some (answers, e) ∧
      Session.run (U.require chosen) requests (.new (U.require chosen) policy) =
        some (answers', f) ∧
      Session.Corresponds (fun request _ => Agree (request.AnswersAlike U chosen)) requests requests
        answers answers' ∧
      f.cache = e.cache ∧ f.registry = e.registry ∧ f.arena.size = e.arena.size ∧
      ∀ id, e.arena.contains id →
        AlikeAt U chosen e f id (e.cache.failures.get? id = none) := by
  have each : ∀ (request request' : Request n) e f, request = request' →
      Encoder.Alike U chosen e f →
      ∃ answer e' answer' f', (request.run U).outcome e = some (answer, e') ∧
        (request'.run (U.require chosen)).outcome f = some (answer', f') ∧
          Encoder.Alike U chosen e' f' ∧ Agree (request.AnswersAlike U chosen) answer answer' := by
    rintro request _ e f rfl alike
    exact request.require U chosen e f alike
  obtain ⟨answers, e, answers', f, run, run', alike, corresponds⟩ :=
    Session.simulates each (List.forall₂_refl requests) (Encoder.Alike.new U chosen policy)
  exact ⟨answers, e, answers', f, run, run', corresponds, alike.cache, alike.registry, alike.size,
    alike.objects⟩

end Alike

end RecordSchema
