import RecordSchema.Proofs.RequiredFields
import RecordSchema.Proofs.Soundness

/-!
# Builds with more required fields

A build takes the same course in a universe and in the universe with more required fields.  What is
resolved for a type never depends on a tag: the mark of a field is applied after its type has been
cached.  So the two encoders keep the same books, and only their objects differ (`AlikeAt`).

An object is filled while the walk over the fields of its struct goes on, and it stays as it is when
the walk stops at an error.  So an object is compared over the fields that were walked, which are
all fields of the struct unless the build failed.
-/

namespace RecordSchema

variable {n : Nat}

open Encoder

/-! ## Encoders with the same books -/

/-- Two objects that the same fields were added to. -/
structure AlikeObjects (chosen : Nat → Bool) (fields : List (RecordField n))
    (object object' : ObjectType) : Prop where
  name : object'.name = object.name
  description : object'.description = object.description
  fields : AlikeMaps Field.require chosen fields object.fields object'.fields

namespace Encoder

/-- Two encoders that differ in their objects and journals only. -/
structure SameBooks (e f : Encoder n) : Prop where
  cache : f.cache = e.cache
  registry : f.registry = e.registry
  building : f.building = e.building
  begun : f.begun = e.begun
  size : f.arena.size = e.arena.size

/-- The objects of one handle belong to one struct, and a walk over the fields of the struct has
filled them alike.  It came to the end if they are `full`. -/
def AlikeAt (U : Universe n) (chosen : Fin n → Nat → Bool) (e f : Encoder n) (id : ObjectId)
    (full : Prop) : Prop :=
  ∃ index fields walked object object', e.struct? id = some (.declared index) ∧
    U.detail (.declared index) = .struct fields ∧ walked <+: fields ∧ (full → walked = fields) ∧
    e.arena.get? id = some object ∧ f.arena.get? id = some object' ∧
    AlikeObjects (chosen index) walked object object'

section SameBooks

variable {U : Universe n} {chosen : Fin n → Nat → Bool} {e f e' f' : Encoder n}

namespace SameBooks

theorem nextId (same : SameBooks e f) : f.arena.nextId = e.arena.nextId :=
  congrArg (fun size => (⟨size + 1⟩ : ObjectId)) same.size

theorem live (same : SameBooks e f) {id : ObjectId} (live : e.arena.contains id) :
    f.arena.contains id := by
  rw [Arena.contains_iff] at live ⊢
  rwa [same.size]

variable (U chosen)

theorem hooksOf (same : SameBooks e f) (type : TypeExpr n) :
    f.hooksOf (U.require chosen) type = e.hooksOf U type := by
  rw [hooksOf_require, hooksOf_of_registry U same.registry]

theorem lookup (same : SameBooks e f) (type : TypeExpr n) :
    f.cache.lookup (U.require chosen) type = e.cache.lookup U type := by
  rw [same.cache, TypeCache.lookup_require]

theorem failure? (same : SameBooks e f) (found : SchemaType) :
    f.cache.failure? found = e.cache.failure? found := by
  rw [same.cache]

theorem note (same : SameBooks e f) {event event' : Event n} (other : event.begun? = none)
    (other' : event'.begun? = none) : SameBooks (e.note event) (f.note event') where
  cache := same.cache
  registry := same.registry
  building := same.building
  begun := by simpa [other, other'] using same.begun
  size := same.size

theorem meet (same : SameBooks e f) (type : TypeExpr n) :
    SameBooks (e.meet U type) (f.meet (U.require chosen) type) where
  cache := same.cache
  registry := by simp [same.registry]
  building := same.building
  begun := same.begun
  size := same.size

theorem met (same : SameBooks e f) (type : TypeExpr n) :
    SameBooks ((e.note (.resolving (U.path type))).meet U type)
      ((f.note (.resolving ((U.require chosen).path type))).meet (U.require chosen) type) :=
  (same.note rfl rfl).meet U chosen type

theorem store (same : SameBooks e f) (type : TypeExpr n) (resolved : SchemaType) :
    SameBooks (e.store U type resolved) (f.store (U.require chosen) type resolved) where
  cache := by simp [same.cache]
  registry := same.registry
  building := same.building
  begun := same.begun
  size := same.size

theorem begin (same : SameBooks e f) (struct : TypeExpr n) (object : ObjectType) :
    SameBooks (e.begin U struct object) (f.begin (U.require chosen) struct object) where
  cache := by simp [same.cache, same.nextId]
  registry := same.registry
  building := by simp [same.building, same.nextId]
  begun := by simp [same.begun]
  size := by simp [same.size]

theorem close {α : Type} (same : SameBooks e f) (outermost : Bool) (path : String)
    (result : Except EncodeError α) :
    SameBooks (e.close outermost path result) (f.close outermost path result) where
  cache := by
    cases outermost with
    | false => exact same.cache
    | true =>
      cases result with
      | ok _ => exact same.cache
      | error error =>
        change marked f.cache f.building error = marked e.cache e.building error
        rw [same.cache, same.building]
  registry := by simpa using same.registry
  building := by
    cases outermost with
    | false => exact same.building
    | true => cases result <;> rfl
  begun := by simpa using same.begun
  size := by simpa using same.size

theorem expose (same : SameBooks e f) (id : ObjectId) (path name : String) (tag tag' : FieldTag)
    (type : TypeExpr n) (resolved : SchemaType) :
    SameBooks (e.expose U id path name tag type resolved)
      (f.expose (U.require chosen) id path name tag' type resolved) where
  cache := by simp [same.cache]
  registry := by simp [same.registry]
  building := by simp [same.building]
  begun := by simp [same.begun]
  size := by simp [same.size]

end SameBooks

namespace AlikeAt

variable {id : ObjectId} {full full' : Prop}

/-- Objects stay alike while nothing is done to them. -/
theorem mono (h : AlikeAt U chosen e f id full) (same : e'.arena.get? id = e.arena.get? id)
    (same' : f'.arena.get? id = f.arena.get? id)
    (begun : ∀ struct, e.struct? id = some struct → e'.struct? id = some struct)
    (imp : full' → full) : AlikeAt U chosen e' f' id full' := by
  obtain ⟨index, fields, walked, object, object', struct, detail, part, whole, found, found',
    alike⟩ := h
  exact ⟨index, fields, walked, object, object', begun _ struct, detail, part,
    fun h => whole (imp h), same.trans found, same'.trans found', alike⟩

end AlikeAt

end SameBooks

end Encoder

/-! ## Fields are added alike -/

section Expose

variable {U : Universe n} {chosen : Fin n → Nat → Bool} {e f : Encoder n}

theorem AlikeObjects.skip {marks : Nat → Bool} {fields : List (RecordField n)}
    {field : RecordField n} {object object' : ObjectType}
    (h : AlikeObjects marks fields object object') (untagged : field.tag? = none) :
    AlikeObjects marks (fields ++ [field]) object object' :=
  { h with fields := h.fields.skip untagged }

/-- A chosen field takes the required form of its type. -/
theorem fieldFor_require (U : Universe n) (chosen : Fin n → Nat → Bool) (same : SameBooks e f)
    {tag tag' : FieldTag} {chosen' : Bool}
    (marked : tag' = ⟨tag.name, tag.nonNull || chosen'⟩) (type : TypeExpr n)
    (resolved : SchemaType) :
    f.fieldFor (U.require chosen) tag' type resolved =
      if chosen' then (e.fieldFor U tag type resolved).require
      else e.fieldFor U tag type resolved := by
  subst marked
  unfold fieldFor taggedType
  rw [same.hooksOf U chosen]
  cases chosen' <;> cases h : tag.nonNull <;> simp [Field.require]

theorem AlikeObjects.addField {marks : Nat → Bool} {fields : List (RecordField n)}
    {field : RecordField n} {object object' : ObjectType}
    (h : AlikeObjects marks fields object object') (same : SameBooks e f) {text text' : String}
    {type : TypeExpr n} (content : field.content = .tagged text type)
    (marked : FieldTag.parse text' =
      ⟨(FieldTag.parse text).name, (FieldTag.parse text).nonNull || marks fields.length⟩)
    (resolved : SchemaType) :
    AlikeObjects marks (fields ++ [field])
      (object.addField (FieldTag.parse text).name (e.fieldFor U (.parse text) type resolved)).2
      (object'.addField (FieldTag.parse text').name
        (f.fieldFor (U.require chosen) (.parse text') type resolved)).2 := by
  have named : (FieldTag.parse text').name = (FieldTag.parse text).name := by rw [marked]
  refine ⟨h.name, h.description, ?_⟩
  have inserted := h.fields.insert content (e.fieldFor U (.parse text) type resolved)
  rw [← fieldFor_require U chosen same marked] at inserted
  have own : ∀ {V : Universe n} {e : Encoder n} {tag : FieldTag},
      { e.fieldFor V tag type resolved with name := tag.name } = e.fieldFor V tag type resolved :=
    rfl
  unfold ObjectType.addField
  simp only [own]
  rwa [named]

end Expose

/-! ## Builds take the same course -/

/-- The call with the fields of the other universe. -/
def Call.require (chosen : Nat → Bool) : Call n → Call n
  | .walk id path fields => .walk id path (requireFields chosen fields)
  | call => call

/-- A walk goes on with the fields of a struct, after the ones that its object was filled with. -/
def Call.GoesOn (U : Universe n) (chosen : Fin n → Nat → Bool) (shifted : Nat → Bool)
    (e f : Encoder n) : Call n → Prop
  | .walk id _ fields =>
    ∃ index before object object', e.struct? id = some (.declared index) ∧
      U.detail (.declared index) = .struct (before ++ fields) ∧
      (∀ position, shifted position = chosen index (before.length + position)) ∧
      e.arena.get? id = some object ∧ f.arena.get? id = some object' ∧
      AlikeObjects (chosen index) before object object'
  | _ => True

section Courses

variable {U : Universe n} {chosen : Fin n → Nat → Bool}

theorem Call.require_walk_cons (shifted : Nat → Bool) (id : ObjectId) (path : String)
    (field : RecordField n) (rest : List (RecordField n)) :
    (Call.walk id path (field :: rest)).require shifted =
      .walk id path (field.requireIf (shifted 0) ::
        requireFields (fun position => shifted (position + 1)) rest) := by
  change Call.walk id path (requireFields shifted (field :: rest)) = _
  rw [requireFields_cons]

theorem Call.GoesOn.live {shifted : Nat → Bool} {e f : Encoder n} {id : ObjectId} {path : String}
    {fields : List (RecordField n)}
    (goesOn : (Call.walk id path fields).GoesOn U chosen shifted e f) : e.arena.contains id := by
  obtain ⟨_, _, object, _, -, -, -, found, -⟩ := goesOn
  exact Arena.contains_of_get? found

/-- The next field of a walk. -/
theorem Call.GoesOn.next {shifted : Nat → Bool} {e f e' f' : Encoder n} {id : ObjectId}
    {path : String} {field : RecordField n} {rest : List (RecordField n)}
    (goesOn : (Call.walk id path (field :: rest)).GoesOn U chosen shifted e f)
    (begun : ∀ struct, e.struct? id = some struct → e'.struct? id = some struct)
    (added : ∀ marks before object object', AlikeObjects marks before object object' →
      marks before.length = shifted 0 → e.arena.get? id = some object →
      f.arena.get? id = some object' → ∃ next next', e'.arena.get? id = some next ∧
        f'.arena.get? id = some next' ∧ AlikeObjects marks (before ++ [field]) next next') :
    (Call.walk id path rest).GoesOn U chosen (fun position => shifted (position + 1)) e' f' := by
  obtain ⟨index, before, object, object', struct, detail, shift, found, found', alike⟩ := goesOn
  obtain ⟨next, next', stored, stored', alike⟩ :=
    added _ before object object' alike (shift 0).symm found found'
  refine ⟨index, before ++ [field], next, next', begun _ struct, ?_, fun position => ?_, stored,
    stored', alike⟩
  · rw [detail, List.append_assoc, List.singleton_append]
  · have next := shift (position + 1)
    rwa [← Nat.add_assoc, Nat.add_right_comm, ← List.length_singleton,
      ← List.length_append] at next

/-- A build takes the same course with more required fields.  It keeps the same books, and fills new
objects, or the object whose fields it walks over, alike. -/
theorem Course.require {call : Call n} (shifted : Nat → Bool) {e f e' : Encoder n}
    {result : Except EncodeError SchemaType} (course : Course U call e result e')
    (same : SameBooks e f) (tidy : Tidy e) (busy : call.Busy e)
    (goesOn : call.GoesOn U chosen shifted e f) :
    ∃ f', Course (U.require chosen) (call.require shifted) f result f' ∧ SameBooks e' f' ∧
      ∀ id, New e e' id ∨ call.target? = some id →
        AlikeAt U chosen e' f' id (result.isOk = true) := by
  have none_new : ∀ {call : Call n} {e e' f' : Encoder n} {full : Prop},
      e'.arena.size = e.arena.size → call.target? = none →
        ∀ id, New e e' id ∨ call.target? = some id → AlikeAt U chosen e' f' id full := by
    rintro call e e' f' full size untargeted id (new | target)
    · exact absurd new (not_new_of_size size id)
    · rw [untargeted] at target
      cases target
  induction course generalizing f shifted with
  | pointer inner ih =>
    obtain ⟨f', course, books, alike⟩ := ih shifted same tidy trivial trivial
    exact ⟨f', .pointer course, books, alike⟩
  | recorded plain hit failed =>
    exact ⟨f, .recorded plain ((same.lookup U chosen _).trans hit)
      ((same.failure? _).trans failed), same, none_new rfl rfl⟩
  | recalled plain hit sound =>
    exact ⟨_, .recalled plain ((same.lookup U chosen _).trans hit)
      ((same.failure? _).trans sound), same.note rfl rfl, none_new rfl rfl⟩
  | @resolved type e built e' plain miss inner ih =>
    obtain ⟨f', course, books, alike⟩ := ih shifted same tidy trivial trivial
    have course := Course.resolved plain ((same.lookup U chosen type).trans miss) course
    exact ⟨_, course, books.store U chosen type built, alike⟩
  | refused plain miss inner ih =>
    obtain ⟨f', course, books, alike⟩ := ih shifted same tidy trivial trivial
    exact ⟨f', .refused plain ((same.lookup U chosen _).trans miss) course, books, alike⟩
  | @provided type e given hook =>
    have course := Course.provided ((congrArg _ (same.hooksOf U chosen type)).trans hook)
    exact ⟨_, course, same.met U chosen type, none_new rfl rfl⟩
  | @scalar type e leaf free native =>
    have course := Course.scalar ((congrArg _ (same.hooksOf U chosen type)).trans free)
      ((U.scalar?_require chosen type).trans native)
    exact ⟨_, course, same.met U chosen type, none_new rfl rfl⟩
  | @list type item e result e' free other listed inner ih =>
    obtain ⟨f', course, books, alike⟩ := ih shifted (same.met U chosen type)
      ((tidy.note rfl).meet U type) trivial trivial
    have course := Course.list ((congrArg _ (same.hooksOf U chosen type)).trans free)
      ((U.scalar?_require chosen type).trans other) listed course
    refine ⟨f', course, books, fun id fresh => ?_⟩
    cases result <;> exact alike id fresh
  | @struct type e result e' free other struct inner ih =>
    obtain ⟨f', course, books, alike⟩ := ih shifted (same.met U chosen type)
      ((tidy.note rfl).meet U type) trivial trivial
    have course := Course.struct ((congrArg _ (same.hooksOf U chosen type)).trans free)
      ((U.scalar?_require chosen type).trans other) ((U.isStruct_require chosen type).trans struct)
      course
    exact ⟨f', course, books, alike⟩
  | @unrecognized type e free other unlisted noStruct =>
    have course := Course.unrecognized ((congrArg _ (same.hooksOf U chosen type)).trans free)
      ((U.scalar?_require chosen type).trans other) unlisted
      ((U.isStruct_require chosen type).trans noStruct)
    have books := same.met U chosen type
    rw [Universe.path_require] at course books
    exact ⟨_, course, books, none_new rfl rfl⟩
  | objectRecorded hit failed =>
    exact ⟨f, .objectRecorded ((same.lookup U chosen _).trans hit)
      ((same.failure? _).trans failed), same, none_new rfl rfl⟩
  | objectRecalled hit sound =>
    exact ⟨_, .objectRecalled ((same.lookup U chosen _).trans hit)
      ((same.failure? _).trans sound), same.note rfl rfl, none_new rfl rfl⟩
  | @notAnObject type options e found hit sound other =>
    have course := @Course.notAnObject n (U.require chosen) type options f found
      ((same.lookup U chosen _).trans hit) ((same.failure? _).trans sound) other
    rw [Universe.path_require] at course
    exact ⟨_, course, same.note rfl rfl, none_new rfl rfl⟩
  | @notStruct type options e miss noStruct =>
    have course := @Course.notStruct n (U.require chosen) type options f
      ((same.lookup U chosen _).trans miss) ((U.isStruct_require chosen type).trans noStruct)
    rw [Universe.path_require] at course
    exact ⟨_, course, same, none_new rfl rfl⟩
  | @notSupported type options e error miss struct refusal =>
    rw [← U.name_require chosen] at refusal
    have course := Course.notSupported ((same.lookup U chosen _).trans miss)
      ((U.isStruct_require chosen type).trans struct) refusal
    exact ⟨f, course, same, none_new rfl rfl⟩
  | @begun type options e object fields result e' miss struct made inner ih =>
    obtain ⟨index, rfl⟩ := eq_declared_of_struct struct
    have fresh : object.fields = .empty := (SchemaOption.fields_of_applyAllToObject made).1
    have empty : AlikeObjects (chosen index) ([] : List (RecordField n)) object object :=
      ⟨rfl, rfl, by rw [fresh]; exact .empty⟩
    have stored := Arena.get?_insert_nextId e.arena object
    have stored' := Arena.get?_insert_nextId f.arena object
    rw [same.nextId] at stored'
    obtain ⟨f₁, course, books, alike⟩ := ih (chosen index) (same.begin U chosen _ object)
      (tidy.begin U (.declared index) object) (by simp [Call.Busy])
      ⟨index, [], object, object, tidy.struct?_nextId U _ _, struct, fun position => by simp,
        stored, stored', empty⟩
    rw [← U.name_require chosen] at made
    have inner' : Course (U.require chosen) (.walk f.arena.nextId
        ((U.require chosen).path (.declared index)) (requireFields (chosen index) fields))
        (f.begin (U.require chosen) (.declared index) object) result f₁ := by
      rw [same.nextId, Universe.path_require]
      exact course
    have course' := Course.begun ((same.lookup U chosen _).trans miss)
      (U.detail_require_of_struct chosen struct) made inner'
    rw [same.building, Universe.path_require] at course'
    refine ⟨_, course', books.close _ _ _, ?_⟩
    rintro id (new | target)
    · have kept : (e.begin U (.declared index) object).arena.size ≤ e'.arena.size :=
        inner.keeps.size
      have new : New e e' id := by
        unfold New at new ⊢
        rwa [close_arena] at new
      rw [new_begin_iff U e e' _ object kept] at new
      have fresh := alike id (new.symm.imp_right fun same => by rw [same]; rfl)
      refine fresh.mono ?_ ?_ (fun struct known => ?_) (fun full => full)
      · rw [close_arena]
      · rw [close_arena]
      · unfold Encoder.struct? at known ⊢
        rwa [close_begun]
    · cases target
  | @done id path e =>
    obtain ⟨index, before, object, object', struct, detail, -, found, found', alike⟩ := goesOn
    rw [List.append_nil] at detail
    refine ⟨f, .done, same, ?_⟩
    rintro other (new | target)
    · exact absurd new (not_new_of_size rfl other)
    · cases target
      exact ⟨index, before, before, object, object', struct, detail, List.prefix_refl _,
        fun _ => rfl, found, found', alike⟩
  | @untagged id path field rest e result e' untagged inner ih =>
    have next := goesOn.next (fun _ known => known) fun marks before object object' alike _ found
      found' => ⟨object, object', found, found', alike.skip untagged⟩
    obtain ⟨f', course, books, alike⟩ := ih _ same tidy busy next
    rw [Call.require_walk_cons, RecordField.requireIf_of_untagged _ untagged]
    exact ⟨f', .untagged untagged course, books, alike⟩
  | @tagged id path field text type rest e resolved e₁ result e' content first live inner ih₁ ih₂ =>
    obtain ⟨text', content', marked⟩ := RecordField.content_requireIf (shifted 0) content
    obtain ⟨f₁, first', books, alike₁⟩ := ih₁ shifted same tidy trivial trivial
    have target := goesOn.live
    have live₁ := first.keeps.live target
    have exposed := books.expose U chosen id path field.name (.parse text) (.parse text') type
      resolved
    have untouched := first.untouched target (by simp [Call.target?])
    have untouched' := first'.untouched (same.live target) (by simp [Call.target?, Call.require])
    have added := keeps_expose U e₁ id path field.name (.parse text) type resolved
    have next : (Call.walk id path rest).GoesOn U chosen (fun position => shifted (position + 1))
        (e₁.expose U id path field.name (.parse text) type resolved)
        (f₁.expose (U.require chosen) id path field.name (.parse text') type resolved) := by
      refine goesOn.next (fun _ known => added.struct? (first.keeps.struct? known)) ?_
      intro marks before object object' alike shift found found'
      rw [get?_expose_self, get?_expose_self, untouched, untouched', found, found']
      rw [← shift] at marked
      exact ⟨_, _, rfl, rfl, alike.addField books content marked resolved⟩
    have accounts : Accounts e (.ok resolved)
        (e₁.expose U id path field.name (.parse text) type resolved) :=
      (first.accounts tidy trivial).before
        ((first.accounts tidy trivial).tidy.expose U _ _ _ _ _ _) (by simp) (by simp) (by simp)
    have still : (e₁.expose U id path field.name (.parse text) type resolved).building ≠ [] := by
      obtain ⟨id, started⟩ := List.exists_mem_of_ne_nil _ busy
      exact List.ne_nil_of_mem (((accounts.inside busy).1 id).2 (.inl started))
    obtain ⟨f', inner', books', alike₂⟩ := ih₂ _ exposed accounts.tidy still next
    rw [Call.require_walk_cons]
    have course := Course.tagged content' first' (books.live live₁)
      (by rwa [RecordField.name_requireIf])
    refine ⟨f', course, books', ?_⟩
    rintro other (new | target')
    · have kept := (added.mono (Nat.zero_le _)).trans (inner.keeps.mono (Nat.zero_le _))
      rw [new_trans_iff first.keeps kept] at new
      by_cases late : New (e₁.expose U id path field.name (.parse text) type resolved) e' other
      · exact alike₂ other (.inl late)
      -- What the field brought along is not touched any more.
      · have early : New e e₁ other := new.resolve_right fun new => late (by simpa [New] using new)
        have apart : id ≠ other := fun same => not_new_of_live target (same ▸ early)
        have apart' : (Call.walk id path rest).target? ≠ some other := fun same =>
          apart (Option.some.inj same)
        have live := added.live early.live
        refine (alike₁ other (.inl early)).mono ?_ ?_ ?_ fun _ => rfl
        · rw [inner.untouched live apart', get?_expose_of_ne U e₁ id _ _ _ _ _ apart]
        · rw [inner'.untouched (exposed.live live) apart',
            get?_expose_of_ne (U.require chosen) f₁ id _ _ _ _ _ apart]
        · exact fun _ known => inner.keeps.struct? (added.struct? known)
    · exact alike₂ other (.inr target')
  | @stopped id path field text type rest e error e' content first ih =>
    obtain ⟨text', content', -⟩ := RecordField.content_requireIf (shifted 0) content
    obtain ⟨f', first', books, alike⟩ := ih shifted same tidy trivial trivial
    have course := @Course.stopped n (U.require chosen) id path _ _ _
      (requireFields (fun position => shifted (position + 1)) rest) _ _ _ content' first'
    rw [RecordField.name_requireIf] at course
    rw [Call.require_walk_cons]
    refine ⟨f', course, books, ?_⟩
    rintro other (new | target)
    · exact (alike other (.inl new)).mono rfl rfl (fun _ known => known) fun full => full
    · cases target
      have target := goesOn.live
      have untouched := first.untouched target (by simp [Call.target?])
      have untouched' := first'.untouched (same.live target) (by simp [Call.target?, Call.require])
      obtain ⟨index, before, object, object', struct, detail, -, found, found', alike⟩ := goesOn
      exact ⟨index, _, before, object, object', first.keeps.struct? struct, detail,
        List.prefix_append _ _, (fun full => by cases full), untouched.trans found,
        untouched'.trans found', alike⟩
  | dangling content first dead ih =>
    have still := first.keeps.live goesOn.live
    rw [dead] at still
    cases still

end Courses

end RecordSchema
