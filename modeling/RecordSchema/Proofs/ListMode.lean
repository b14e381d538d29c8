import RecordSchema.Proofs.ParallelBuilds
import RecordSchema.Proofs.Permanence
import RecordSchema.Proofs.Providers

/-!
# Lists and fields agree

A request for a list decides on its own how the item is made: a struct becomes its object at once,
anything else is built as in a field.  The two ways do not begin on the same encoder, since the
request registers the item with all that it depends on, and a field notes and meets the types on its
way.  But a build reads neither the journal nor which types were met (`Encoder.Akin`,
`Course.akin`), so the list has what a field resolves to, or fails with the same error.

The one exception is a struct with a provider of which nothing is cached yet.  Its field has the
type that the provider gives, whereas the list has an object, which then is cached and decides for
later fields as well (`Sample.list_of_amounts_has_an_object`).
-/

namespace RecordSchema

variable {n : Nat}

open Encoder

/-! ## Encoders that build alike -/

/-- Two encoders that differ in nothing that a build reads. -/
structure Encoder.Akin (U : Universe n) (e f : Encoder n) : Prop where
  cache : f.cache = e.cache
  arena : f.arena = e.arena
  building : f.building = e.building
  hooks : ∀ type, f.hooksOf U type = e.hooksOf U type

section Akin

variable {U : Universe n} {e f e₁ e' : Encoder n}

namespace Encoder.Akin

theorem symm (akin : Akin U e f) : Akin U f e :=
  ⟨akin.cache.symm, akin.arena.symm, akin.building.symm, fun type => (akin.hooks type).symm⟩

theorem trans (first : Akin U e e₁) (second : Akin U e₁ f) : Akin U e f where
  cache := second.cache.trans first.cache
  arena := second.arena.trans first.arena
  building := second.building.trans first.building
  hooks type := (second.hooks type).trans (first.hooks type)

theorem know {registry : Registry n} (grown : e.registry.Extends U registry) :
    Akin U e (e.know registry) :=
  ⟨rfl, rfl, rfl, hooksOf_know grown⟩

theorem met (e : Encoder n) (event : Event n) (type : TypeExpr n) :
    Akin U e ((e.note event).meet U type) :=
  ⟨rfl, rfl, rfl, hooksOf_of_met U rfl⟩

theorem of_unchanged (same : Unchanged e f) : Akin U e f :=
  ⟨same.cache, same.arena, same.building, hooksOf_of_registry U same.registry⟩

theorem lookup (akin : Akin U e f) (type : TypeExpr n) :
    f.cache.lookup U type = e.cache.lookup U type := by
  rw [akin.cache]

/-- Both encoders may note whatever they do. -/
theorem note (akin : Akin U e f) (event event' : Event n) :
    Akin U (e.note event) (f.note event') :=
  ⟨akin.cache, akin.arena, akin.building, akin.hooks⟩

theorem meet (akin : Akin U e f) (type : TypeExpr n) :
    Akin U (e.meet U type) (f.meet U type) where
  cache := akin.cache
  arena := akin.arena
  building := akin.building
  hooks other := by
    rw [hooksOf_of_met U (f.meet_registry U type), hooksOf_of_met U (e.meet_registry U type),
      akin.hooks]

theorem store (akin : Akin U e f) (type : TypeExpr n) (resolved : SchemaType) :
    Akin U (e.store U type resolved) (f.store U type resolved) where
  cache := by rw [store_cache, store_cache, akin.cache]
  arena := akin.arena
  building := akin.building
  hooks := akin.hooks

theorem begin (akin : Akin U e f) (type : TypeExpr n) (object : ObjectType) :
    Akin U (e.begin U type object) (f.begin U type object) where
  cache := by rw [begin_cache, begin_cache, akin.cache, akin.arena]
  arena := by rw [begin_arena, begin_arena, akin.arena]
  building := by rw [begin_building, begin_building, akin.building, akin.arena]
  hooks := akin.hooks

theorem close {α : Type} (akin : Akin U e f) (outermost : Bool) (path : String)
    (result : Except EncodeError α) :
    Akin U (e.close outermost path result) (f.close outermost path result) where
  cache := by
    cases outermost <;> cases result <;> simp [Encoder.close, akin.cache, akin.building]
  arena := by rw [close_arena, close_arena, akin.arena]
  building := by
    cases outermost <;> cases result <;> simp [Encoder.close, akin.building]
  hooks type := by
    rw [hooksOf_of_registry U (close_registry _ _ _ _),
      hooksOf_of_registry U (close_registry _ _ _ _), akin.hooks]

theorem fieldFor (akin : Akin U e f) (tag : FieldTag) (type : TypeExpr n)
    (resolved : SchemaType) : f.fieldFor U tag type resolved = e.fieldFor U tag type resolved := by
  unfold Encoder.fieldFor
  rw [akin.hooks]

theorem expose (akin : Akin U e f) (id : ObjectId) (path name : String) (tag : FieldTag)
    (type : TypeExpr n) (resolved : SchemaType) :
    Akin U (e.expose U id path name tag type resolved)
      (f.expose U id path name tag type resolved) where
  cache := by rw [expose_cache, expose_cache, akin.cache]
  arena := by rw [expose_arena, expose_arena, akin.arena, akin.fieldFor]
  building := by rw [expose_building, expose_building, akin.building]
  hooks other := by
    rw [hooksOf_of_met U (expose_registry U _ _ _ _ _ _ _),
      hooksOf_of_met U (expose_registry U _ _ _ _ _ _ _), akin.hooks]

theorem warn (akin : Akin U e f) (tag : FieldTag) (type : TypeExpr n) (resolved : SchemaType) :
    Akin U (e.warn U type tag resolved) (f.warn U type tag resolved) := by
  unfold Encoder.warn
  split
  · exact akin.note _ _
  · exact akin

end Encoder.Akin

/-- Encoders that build alike allow the same courses, and build alike afterwards. -/
theorem Course.akin {call : Call n} {result : Except EncodeError SchemaType}
    (course : Course U call e result e') (akin : Akin U e f) :
    ∃ f', Course U call f result f' ∧ Akin U e' f' := by
  induction course generalizing f with
  | pointer inner ih =>
    obtain ⟨f', course, after⟩ := ih akin
    exact ⟨f', .pointer course, after⟩
  | recorded plain hit failed =>
    rw [← akin.cache] at hit failed
    exact ⟨f, .recorded plain hit failed, akin⟩
  | recalled plain hit sound =>
    rw [← akin.cache] at hit sound
    exact ⟨_, .recalled plain hit sound, akin.note _ _⟩
  | resolved plain miss inner ih =>
    obtain ⟨f', course, after⟩ := ih akin
    exact ⟨_, .resolved plain ((akin.lookup _).trans miss) course, after.store _ _⟩
  | refused plain miss inner ih =>
    obtain ⟨f', course, after⟩ := ih akin
    exact ⟨f', .refused plain ((akin.lookup _).trans miss) course, after⟩
  | provided hook =>
    rw [← akin.hooks] at hook
    exact ⟨_, .provided hook, (akin.note _ _).meet _⟩
  | scalar free native =>
    rw [← akin.hooks] at free
    exact ⟨_, .scalar free native, (akin.note _ _).meet _⟩
  | list free other listed inner ih =>
    rw [← akin.hooks] at free
    obtain ⟨f', course, after⟩ := ih ((akin.note _ _).meet _)
    exact ⟨f', .list free other listed course, after⟩
  | struct free other struct inner ih =>
    rw [← akin.hooks] at free
    obtain ⟨f', course, after⟩ := ih ((akin.note _ _).meet _)
    exact ⟨f', .struct free other struct course, after⟩
  | unrecognized free other unlisted noStruct =>
    rw [← akin.hooks] at free
    exact ⟨_, .unrecognized free other unlisted noStruct, (akin.note _ _).meet _⟩
  | objectRecorded hit failed =>
    rw [← akin.cache] at hit failed
    exact ⟨f, .objectRecorded hit failed, akin⟩
  | objectRecalled hit sound =>
    rw [← akin.cache] at hit sound
    exact ⟨_, .objectRecalled hit sound, akin.note _ _⟩
  | notAnObject hit sound other =>
    rw [← akin.cache] at hit sound
    exact ⟨_, .notAnObject hit sound other, akin.note _ _⟩
  | notStruct miss noStruct =>
    exact ⟨f, .notStruct ((akin.lookup _).trans miss) noStruct, akin⟩
  | notSupported miss struct refusal =>
    exact ⟨f, .notSupported ((akin.lookup _).trans miss) struct refusal, akin⟩
  | @begun type options e object fields result e' miss struct made inner ih =>
    obtain ⟨f', course, after⟩ := ih (akin.begin type object)
    rw [← akin.arena] at course
    have closed := Course.begun ((akin.lookup _).trans miss) struct made course
    rw [akin.building] at closed
    exact ⟨_, closed, after.close _ _ _⟩
  | done => exact ⟨f, .done, akin⟩
  | untagged untagged inner ih =>
    obtain ⟨f', course, after⟩ := ih akin
    exact ⟨f', .untagged untagged course, after⟩
  | tagged content first live inner ih₁ ih₂ =>
    obtain ⟨f₁, course₁, between⟩ := ih₁ akin
    obtain ⟨f', course, after⟩ := ih₂ (between.expose _ _ _ _ _ _)
    rw [← between.arena] at live
    exact ⟨f', .tagged content course₁ live course, after⟩
  | stopped content first ih =>
    obtain ⟨f', course, after⟩ := ih akin
    exact ⟨f', .stopped content course, after⟩
  | dangling content first dead ih =>
    obtain ⟨f₁, course, between⟩ := ih akin
    rw [← between.arena] at dead
    exact ⟨_, .dangling content course dead, (between.warn _ _ _).meet _⟩

end Akin

/-! ## Two ways to an item -/

section Items

variable {U : Universe n} {e e₁ e' : Encoder n} {type : TypeExpr n}
  {result : Except EncodeError SchemaType}

/-- The struct of which nothing is cached yet has no provider. -/
def Encoder.Unprovided (U : Universe n) (e : Encoder n) (type : TypeExpr n) : Prop :=
  U.isStruct type.withoutPointers → e.cache.lookup U type = none →
    (e.hooksOf U type.withoutPointers).typeProvider = none

/-- The object of an unknown struct without provider is what the struct resolves to. -/
theorem resolve_of_object (miss : e.cache.lookup U type = none) (struct : U.isStruct type)
    (free : (e.hooksOf U type).typeProvider = none)
    (object : Course U (.object type []) e result e') :
    ∃ e₁, Course U (.resolve type) e result e₁ ∧
      Akin U (match result with | .ok built => e'.store U type built | .error _ => e') e₁ := by
  have plain := isPointer_eq_false_of_struct struct
  obtain ⟨e₁, inner, akin⟩ := object.akin (.met e (.resolving (U.path type)) type)
  have built := Course.struct free (scalar?_eq_none_of_struct struct) struct inner
  cases result with
  | ok resolved => exact ⟨_, .resolved plain miss built, akin.store type resolved⟩
  | error error => exact ⟨_, .refused plain miss built, akin⟩

/-- A request for a list ends as resolving its item does, but for an unknown struct with a
provider. -/
theorem arrayOf_ends_as_resolve (unprovided : e.Unprovided U type)
    (course : Course U (.resolve type) e result e') :
    ∃ e₂, (arrayOf U type []).outcome e = some (result.map .list, e₂) ∧ Akin U e' e₂ := by
  obtain ⟨registry, registered, grown, -⟩ := Build.outcome_register U type e
  obtain ⟨f', resolves, akin⟩ := course.akin (.know grown)
  suffices ends : ∃ result f₁ f₂, Course U (.resolve type.withoutPointers) (e.know registry)
      result f₁ ∧ (arrayOf U type []).outcome e = some (result.map .list, f₂) ∧ Akin U f₁ f₂ by
    obtain ⟨_, f₁, f₂, other, outcome, after⟩ := ends
    obtain ⟨rfl, rfl⟩ := other.of_withoutPointers.deterministic resolves
    exact ⟨f₂, outcome, akin.trans after⟩
  by_cases direct : U.isStruct type.withoutPointers ∧ e.cache.lookup U type = none
  · obtain ⟨struct, miss⟩ := direct
    have free := unprovided struct miss
    rw [← hooksOf_know grown] at free
    have miss : (e.know registry).cache.lookup U type = none := miss
    have outcome := @Build.outcome_arrayOf_of_miss n U e _ type [] registered miss
    obtain ⟨result, f₁, run⟩ := structOfInfo_ends U type.withoutPointers [] (e.know registry)
    have object := course_structOfInfo struct run
    rw [← TypeCache.lookup_withoutPointers] at miss
    obtain ⟨f₂, resolves, after⟩ := resolve_of_object miss struct free object
    unfold itemType at outcome
    rw [if_pos struct, Build.outcome_map, run] at outcome
    cases result with
    | ok id => exact ⟨_, f₂, _, resolves, outcome, after.symm⟩
    | error error => exact ⟨_, f₂, _, resolves, outcome, after.symm⟩
  · have other : (e.know registry).cache.lookup U type = none →
        U.isStruct type.withoutPointers = false := fun miss => by
      cases struct : U.isStruct type.withoutPointers with
      | false => rfl
      | true => exact absurd ⟨struct, miss⟩ direct
    obtain ⟨result, f₁, f₂, resolves, outcome, same⟩ := arrayOf_of_other registered other
    exact ⟨result, f₁, f₂, resolves, outcome, .of_unchanged same⟩

/-- A list without provider resolves to the list of its item, if it does so where it is cached. -/
theorem resolve_of_item {list item : TypeExpr n} (listed : list.item? = some item)
    (free : (e.hooksOf U list).typeProvider = none)
    (known : ∀ found, e.cache.lookup U list = some found →
      ∃ inner, found = .list inner ∧ e.cache.lookup U item = some inner)
    (course : Course U (.resolve item) e result e') :
    ∃ e₁, Course U (.resolve list) e (result.map .list) e₁ := by
  have plain := isPointer_eq_false_of_item listed
  cases hit : e.cache.lookup U list with
  | some found =>
    obtain ⟨inner, rfl, hit'⟩ := known found hit
    obtain ⟨e₁, recalls, -⟩ := Course.of_hit plain hit
    rw [← TypeCache.lookup_withoutPointers] at hit'
    obtain ⟨e₂, recalls', -⟩ := Course.of_hit item.isPointer_withoutPointers hit'
    obtain ⟨rfl, rfl⟩ := recalls'.of_withoutPointers.deterministic course
    rw [← TypeCache.reply_list]
    exact ⟨e₁, recalls⟩
  | none =>
    obtain ⟨e₁, inner, -⟩ := course.akin (.met e (.resolving (U.path list)) list)
    have built := Course.list free (scalar?_eq_none_of_item listed) listed inner
    cases result with
    | ok resolved => exact ⟨_, .resolved plain hit built⟩
    | error error => exact ⟨_, .refused plain hit built⟩

end Items

/-- **Lists agree with fields.**  On every encoder that a session reaches, a request for the list of
a type succeeds with a list if and only if the type resolves to its item, and fails with the same
error otherwise; both leave the same cache and the same objects.  If the types have different paths,
then a tagged field that holds a list of the type has this list as well, up to the non-null layer of
its tag, unless a provider decides for the list itself.

This excepts a struct with a provider of which nothing is cached: its list has an object, whatever
the provider gives. -/
theorem Session.lists_agree_with_fields {U : Universe n} {scope : Scope n} (closed : scope.Closed U)
    (apart : scope.Apart U .qualified) {requests : List (Request n)}
    (within : ∀ request ∈ requests, request.Within scope)
    {answers : List (Except EncodeError Answer)} {e : Encoder n}
    (reached : Session.run U requests (.new U .qualified) = some (answers, e))
    {type : TypeExpr n} (unprovided : e.Unprovided U type) :
    ∃ result e₁ e₂, (resolveType U type).outcome e = some (result, e₁) ∧
      (arrayOf U type []).outcome e = some (result.map .list, e₂) ∧
      e₂.cache = e₁.cache ∧ e₂.arena = e₁.arena ∧
      ∀ list tag, scope.type list → list.item? = some type →
        (e.hooksOf U list).typeProvider = none →
          ∃ e₃, (Build.tagged U (resolveType U) list tag).outcome e =
            some ((result.map .list).map (taggedType tag), e₃) := by
  obtain ⟨result, e₁, run⟩ := resolveType_ends U type e
  have course := course_resolve run
  obtain ⟨e₂, outcome, akin⟩ := arrayOf_ends_as_resolve unprovided course
  refine ⟨result, e₁, e₂, run, outcome, akin.cache, akin.arena, ?_⟩
  intro list tag inside listed free
  have cached : Listed U scope e := by
    have moves := Session.moves closed within reached
    exact moves.listed closed apart (resting_new U .qualified) rfl (listed_new U scope .qualified)
  obtain ⟨e₃, course'⟩ := resolve_of_item listed free
    (fun found hit => cached list type found inside listed free hit) course
  obtain ⟨result', e₄, run'⟩ := resolveType_ends U list e
  obtain ⟨rfl, rfl⟩ := course'.deterministic (course_resolve run')
  rw [Build.outcome_tagged, run']
  exact ⟨_, rfl⟩

/-! ## Lists of amounts -/

namespace Sample

theorem apart_ledgerScope : ledgerScope.Apart ledger .qualified := by
  have apart : ∀ a, ledgerScope.type a → ∀ b, ledgerScope.type b →
      KeyPolicy.text .qualified ledger a.withoutPointers =
        KeyPolicy.text .qualified ledger b.withoutPointers →
          a.withoutPointers = b.withoutPointers := by
    unfold ledgerScope
    decide +kernel
  exact fun a b insideA insideB => apart a insideA b insideB

end Sample

/-- The fields of an order have resolved its amounts to a scalar, so their list has it too. -/
theorem Sample.list_of_known_amounts_has_their_scalar :
    ∃ answers e e₁ e₂, Session.run ledger [.structOf order []] (.new ledger .qualified) =
        some (answers, e) ∧
      (arrayOf ledger money []).outcome e =
        some (.ok (.list (.scalar (.custom "Money"))), e₁) ∧
      (Build.tagged ledger (resolveType ledger) (.list .vec money) (.parse "!rates")).outcome e =
        some (.ok (.nonNull (.list (.scalar (.custom "Money")))), e₂) := by
  obtain ⟨answers, e, reached, -⟩ := Session.lasts ledger [.structOf order []]
    (resting_new ledger .qualified)
  have known : ((Session.run ledger [.structOf order []] (.new ledger .qualified)).bind fun r =>
      ((resolveType ledger money).outcome r.2).map fun s =>
        (s.1, r.2.cache.lookup ledger money,
          (r.2.hooksOf ledger (.list .vec money)).typeProvider)) =
      some (.ok (.scalar (.custom "Money")), some (.scalar (.custom "Money")), none) := by
    decide +kernel
  have within : ∀ request ∈ [Request.structOf order []], request.Within ledgerScope := by
    intro request asked
    cases List.mem_singleton.1 asked
    exact ⟨fun _ _ => trivial, by simp [Request.types, ledgerScope]⟩
  rw [reached, Option.bind_some, Option.map_eq_some_iff] at known
  obtain ⟨⟨result, e₃⟩, resolves, same⟩ := known
  simp only [Prod.mk.injEq] at same
  obtain ⟨rfl, hit, free⟩ := same
  have unprovided : e.Unprovided ledger money := fun _ miss => by
    rw [hit] at miss
    cases miss
  obtain ⟨result, _, e₁, run, outcome, -, -, fields⟩ :=
    Session.lists_agree_with_fields closed_ledgerScope apart_ledgerScope within reached unprovided
  rw [resolves] at run
  cases run
  obtain ⟨e₂, tagged⟩ :=
    fields (.list .vec money) (.parse "!rates") (by simp [ledgerScope]) rfl free
  have marked : (FieldTag.parse "!rates").nonNull = true := by decide +kernel
  refine ⟨answers, e, e₁, e₂, reached, outcome, ?_⟩
  simpa [taggedType, marked, SchemaType.required, SchemaType.isNonNull, Except.map] using tagged

/-- Whoever asks for a list of the amounts first gets a list of objects, while the amounts would
resolve to the scalar that their provider gives. -/
theorem Sample.list_of_amounts_has_an_object :
    ((arrayOf ledger money []).outcome (.new ledger .qualified)).map Prod.fst =
        some (.ok (.list (.object ⟨1⟩))) ∧
      ((resolveType ledger money).outcome (.new ledger .qualified)).map Prod.fst =
        some (.ok (.scalar (.custom "Money"))) := by
  decide +kernel

end RecordSchema
