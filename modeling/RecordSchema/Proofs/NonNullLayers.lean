import RecordSchema.Proofs.Course.Inner
import RecordSchema.Proofs.Throughout

/-!
# Non-null layers

A tag with a leading `!` makes a type required, and a provider may give a required type as well.
Both can come together: what a provider gives is cached, recalled for another field, put into a
list, and marked again.  Even so no non-null layer ever stands on another one, if it does so in no
type from outside (`SchemaType.Unstacked`), because a mark adds a layer only where there is none.

A mark belongs to its field and not to the type of the field: it is applied outside of what is
cached.  So an entry of the cache that is non-null at its top was made by no mark.  It was stored by
a resolution that found a provider for its type, and `StoredProvided` says at which moment of the
session that was.
-/

namespace RecordSchema

variable {n : Nat}

open Encoder

/-! ## Stacked layers -/

/-- No non-null layer stands directly on another, at any depth. -/
def SchemaType.Unstacked : SchemaType → Prop
  | .scalar _ | .object _ => True
  | .list item => item.Unstacked
  | .nonNull inner => inner.isNonNull = false ∧ inner.Unstacked

instance SchemaType.decidableUnstacked : DecidablePred SchemaType.Unstacked
  | .scalar _ | .object _ => .isTrue trivial
  | .list item => decidableUnstacked item
  | .nonNull inner =>
    have := decidableUnstacked inner
    inferInstanceAs (Decidable (inner.isNonNull = false ∧ inner.Unstacked))

theorem SchemaType.unstacked_required {type : SchemaType} (h : type.Unstacked) :
    type.required.Unstacked := by
  unfold required
  split
  · exact h
  · next plain => exact ⟨Bool.not_eq_true _ ▸ plain, h⟩

theorem SchemaType.inherited_unstacked : Inherited Unstacked where
  scalar _ := trivial
  object _ := trivial
  list _ h := h
  required _ h := unstacked_required h

/-! ## Entries that providers gave -/

/-- On its way the call resolves a type under a key for which nothing is cached, and the provider
that is found for the type gives a schema type, which is then stored. -/
def Call.StoresProvided (U : Universe n) (call : Call n) (e : Encoder n) (key : String)
    (given : SchemaType) : Prop :=
  ∃ type start, call.Makes U e (.resolve type) start ∧ type.isPointer = false ∧
    start.cache.key U type = key ∧ start.cache.lookup U type = none ∧
      (start.hooksOf U type).typeProvider = some given

/-- A move stores what a provider gives: a build does so on its way, or its own result is stored and
came from the provider of the type that was built. -/
inductive StoresProvided (U : Universe n) (scope : Scope n) :
    Encoder n → Encoder n → String → SchemaType → Prop
  | call {call type e result e' key given} (asked : call.type? = some type)
      (inside : scope.type type) (course : Course U call e result e')
      (stores : call.StoresProvided U e key given) : StoresProvided U scope e e' key given
  | inner {call type e built e' key given} (asked : call.type? = some type)
      (plain : type.isPointer = false) (inside : scope.type type)
      (miss : e.cache.lookup U type = none) (course : Course U call e (.ok built) e')
      (stores : call.StoresProvided U e key given) :
      StoresProvided U scope e (e'.store U type built) key given
  | entered {call type e given e'} (asked : call.type? = some type)
      (plain : type.isPointer = false) (inside : scope.type type)
      (miss : e.cache.lookup U type = none) (course : Course U call e (.ok given) e')
      (hook : (e.hooksOf U type).typeProvider = some given) :
      StoresProvided U scope e (e'.store U type given) (e.cache.key U type) given

/-- Some move between two encoders stored what a provider gives under a key. -/
def StoredProvided (U : Universe n) (scope : Scope n) (e e' : Encoder n) (key : String)
    (given : SchemaType) : Prop :=
  ∃ start stop, Moves U scope e start ∧ StoresProvided U scope start stop key given ∧
    Moves U scope stop e'

/-- The non-null entries of `e'` are those of `e` and such as satisfy a condition. -/
def Encoder.NonNullFrom (e e' : Encoder n) (new : String → SchemaType → Prop) : Prop :=
  ∀ key inner, e'.cache.types.get? key = some (.nonNull inner) →
    e.cache.types.get? key = some (.nonNull inner) ∨ new key (.nonNull inner)

section Entries

variable {U : Universe n} {scope : Scope n} {call : Call n} {e e₁ e' : Encoder n}
  {new new' : String → SchemaType → Prop}

theorem Encoder.NonNullFrom.of_types (same : e'.cache.types = e.cache.types) :
    NonNullFrom e e' new := by
  intro key inner stored
  rw [same] at stored
  exact .inl stored

theorem Encoder.NonNullFrom.mono (h : NonNullFrom e e' new)
    (more : ∀ key given, new key given → new' key given) : NonNullFrom e e' new' :=
  fun key inner stored => (h key inner stored).imp_right (more key _)

theorem Encoder.NonNullFrom.trans (first : NonNullFrom e e₁ new) (second : NonNullFrom e₁ e' new) :
    NonNullFrom e e' new := by
  intro key inner stored
  rcases second key inner stored with old | late
  · exact first key inner old
  · exact .inr late

/-- Entries of other keys are as before. -/
theorem Encoder.NonNullFrom.store (h : NonNullFrom e e' new) (type : TypeExpr n)
    {resolved : SchemaType}
    (own : ∀ inner, resolved = .nonNull inner → new (e'.cache.key U type) resolved) :
    NonNullFrom e (e'.store U type resolved) new := by
  intro key inner stored
  rw [store_cache, TypeCache.types_register] at stored
  split at stored
  · next same =>
    cases stored
    exact .inr (same ▸ own inner rfl)
  · exact h key inner stored

/-- A type that was unknown to the cache is non-null at its top only if its own provider says so. -/
theorem Course.provided_of_nonNull {type : TypeExpr n} {inner : SchemaType}
    (course : Course U call e (.ok (.nonNull inner)) e') (asked : call.type? = some type)
    (plain : type.isPointer = false) (miss : e.cache.lookup U type = none) :
    (e.hooksOf U type).typeProvider = some (.nonNull inner) := by
  have built : ∀ {start : Encoder n}, Course U (.build type) e (.ok (.nonNull inner)) start →
      (e.hooksOf U type).typeProvider = some (.nonNull inner) := by
    intro start course
    generalize ok : (Except.ok (.nonNull inner) : Except EncodeError SchemaType) = result at course
    cases course with
    | provided hook =>
      cases ok
      exact hook
    | @list _ _ _ result => cases result <;> cases ok
    | struct free other struct object =>
      subst ok
      cases object with
      | begun _ _ _ walk => cases walk.eq_object_of_walk
    | scalar | unrecognized => cases ok
  cases call with
  | walk => cases asked
  | build => cases asked; exact built course
  | resolve =>
    cases asked
    cases course with
    | pointer => cases plain
    | recalled _ hit =>
      rw [miss] at hit
      cases hit
    | resolved _ _ inner => exact built inner
  | object =>
    cases course with
    | begun _ _ _ walk => cases walk.eq_object_of_walk

theorem Call.StoresProvided.lift {outer : Call n} {start : Encoder n} {key : String}
    {given : SchemaType} (stores : call.StoresProvided U start key given)
    (makes : ∀ type moment, call.Makes U start (.resolve type) moment →
      outer.Makes U e (.resolve type) moment) : outer.StoresProvided U e key given := by
  obtain ⟨type, moment, made, rest⟩ := stores
  exact ⟨type, moment, makes type moment made, rest⟩

/-- A build adds non-null entries only where it stores what a provider gives. -/
theorem Course.nonNullFrom {result : Except EncodeError SchemaType}
    (course : Course U call e result e') : NonNullFrom e e' (call.StoresProvided U e) := by
  -- By induction on the course; the calls that a call makes have the stores of their own.
  induction course with
  | pointer inner ih => exact ih.mono fun _ _ stores => stores.lift fun _ _ => .pointee
  | recorded | recalled | objectRecorded | objectRecalled | notAnObject | notStruct
  | notSupported | provided | scalar | unrecognized | done => exact .of_types rfl
  | @resolved type e built e' plain miss inner ih =>
    refine .store (ih.mono fun _ _ stores => stores.lift fun _ _ => .build plain miss) type ?_
    rintro _ rfl
    rw [inner.keeps.key]
    exact ⟨type, e, .self, plain, rfl, miss, inner.provided_of_nonNull rfl plain miss⟩
  | refused plain miss inner ih =>
    exact ih.mono fun _ _ stores => stores.lift fun _ _ => .build plain miss
  | list free other listed inner ih =>
    exact (NonNullFrom.of_types rfl).trans
      (ih.mono fun _ _ stores => stores.lift fun _ _ => .item free listed)
  | struct free other struct inner ih =>
    exact (NonNullFrom.of_types rfl).trans
      (ih.mono fun _ _ stores => stores.lift fun _ _ => .object free struct)
  | @begun type options e object fields result e' miss struct made inner ih =>
    have begins : NonNullFrom e (e.begin U type object)
        ((Call.object type options).StoresProvided U e) := by
      have stores : NonNullFrom e (e.store U type (.object e.arena.nextId))
          ((Call.object type options).StoresProvided U e) :=
        (NonNullFrom.of_types rfl).store type fun _ ok => nomatch ok
      exact stores
    refine (begins.trans
      (ih.mono fun _ _ stores => stores.lift fun _ _ => .walk miss struct made)).trans ?_
    exact .of_types (close_types _ _ _ _)
  | untagged untagged inner ih =>
    exact ih.mono fun _ _ stores => stores.lift fun _ _ => .skip untagged
  | @tagged id path field text type rest e resolved e₁ result e' content first live inner ih₁ ih₂ =>
    refine (ih₁.mono fun _ _ stores => stores.lift fun _ _ => .field content).trans ?_
    refine NonNullFrom.trans (.of_types ?_)
      (ih₂.mono fun _ _ stores => stores.lift fun _ _ => .next content first live)
    rw [expose_cache]
  | stopped content first ih =>
    exact ih.mono fun _ _ stores => stores.lift fun _ _ => .field content
  | dangling content first dead ih =>
    refine (ih.mono fun _ _ stores => stores.lift fun _ _ => .field content).trans ?_
    exact .of_types (by simp)

theorem Move.nonNullFrom (move : Move U scope e e') :
    NonNullFrom e e' (StoresProvided U scope e e') := by
  cases move with
  | note | register | attach => exact .of_types rfl
  | call asked inside course =>
    exact course.nonNullFrom.mono fun _ _ stores => .call asked inside course stores
  | @enter call type _ built e₁ asked plain inside miss course =>
    refine .store (course.nonNullFrom.mono fun _ _ stores =>
      .inner asked plain inside miss course stores) type ?_
    rintro _ rfl
    rw [course.keeps.key]
    exact .entered asked plain inside miss course (course.provided_of_nonNull asked plain miss)

theorem Moves.nonNullFrom (moves : Moves U scope e e') :
    NonNullFrom e e' (StoredProvided U scope e e') := by
  induction moves with
  | refl => exact .of_types rfl
  | @tail between last first move ih =>
    refine NonNullFrom.trans (ih.mono ?_) (move.nonNullFrom.mono ?_)
    · rintro key given ⟨start, stop, toStart, stores, fromStop⟩
      exact ⟨start, stop, toStart, stores, fromStop.tail move⟩
    · intro key given stores
      exact ⟨between, last, first, stores, .refl⟩

end Entries

/-! ## Sessions -/

/-- What an answer to a request may use: any types, but no hook other than the one that the request
attaches. -/
def Request.scope (request : Request n) : Scope n where
  hook hook := request.hook? = some hook
  type _ := True

theorem Request.closed_scope (U : Universe n) (request : Request n) : request.scope.Closed U where
  pointee _ _ _ := trivial
  item _ _ _ _ := trivial
  field _ _ _ _ _ _ _ _ _ := trivial

/-- While it answered some request, the session stored under a key what the provider of a type gave,
and this was cached when the request was answered. -/
def Session.StoredProvided (U : Universe n) (requests : List (Request n)) (start : Encoder n)
    (key : String) (given : SchemaType) : Prop :=
  ∃ earlier request later answers between answer after, requests = earlier ++ request :: later ∧
    Session.run U earlier start = some (answers, between) ∧
    (request.run U).outcome between = some (answer, after) ∧
    RecordSchema.StoredProvided U request.scope between after key given ∧
    after.cache.types.get? key = some given

section Sessions

variable {U : Universe n} {e e₁ e' : Encoder n}

theorem Session.StoredProvided.cons {request : Request n} {rest : List (Request n)} {key : String}
    {given : SchemaType} {answer : Except EncodeError Answer}
    (first : (request.run U).outcome e = some (answer, e₁))
    (stored : Session.StoredProvided U rest e₁ key given) :
    Session.StoredProvided U (request :: rest) e key given := by
  obtain ⟨earlier, other, later, answers, between, answer', after, rfl, run, asked, stores⟩ :=
    stored
  exact ⟨request :: earlier, other, later, answer :: answers, between, answer', after, rfl,
    Session.run_cons first run, asked, stores⟩

/-- A session adds non-null entries only where it stores what a provider gives. -/
theorem Session.nonNullFrom {requests : List (Request n)}
    {answers : List (Except EncodeError Answer)}
    (run : Session.run U requests e = some (answers, e')) :
    NonNullFrom e e' (Session.StoredProvided U requests e) := by
  induction requests generalizing e answers with
  | nil =>
    cases run
    exact .of_types rfl
  | cons request rest ih =>
    simp only [Session.run, Option.bind_eq_bind, Option.bind_eq_some_iff] at run
    obtain ⟨⟨answer, e₁⟩, asked, ⟨answers', e₂⟩, later, same⟩ := run
    cases same
    have within : request.Within request.scope := ⟨fun _ own => own, fun _ _ => trivial⟩
    have moves := (Request.serves (request.closed_scope U) within).moves asked
    intro key inner stored
    rcases ih later key inner stored with present | late
    · rcases moves.nonNullFrom key inner present with old | stores
      · exact .inl old
      · exact .inr ⟨[], request, rest, [], e, answer, e₁, rfl, rfl, asked, stores, present⟩
    · exact .inr (late.cons asked)

/-- **Non-null layers never stack.**  No provider gives a type in which they do, and no request
puts one in the place of a field's type.  Then after every session they stack in no type of the
cache, in no field of an object, in no argument and in no answer, whatever was made of the types on
the way; and whenever an entry of the cache is non-null at its top, the session stored it as what
the provider of a type gave. -/
theorem Session.non_null_layers_never_stack (U : Universe n) (policy : KeyPolicy)
    (requests : List (Request n)) (brought : U.ProvidesOnly SchemaType.Unstacked)
    (attached : ∀ request ∈ requests, request.AttachesOnly SchemaType.Unstacked)
    (replaced : ∀ request ∈ requests, request.ReplacesOnly SchemaType.Unstacked) :
    ∃ answers e, Session.run U requests (.new U policy) = some (answers, e) ∧
      e.Throughout SchemaType.Unstacked ∧
      (∀ answer, .ok answer ∈ answers → answer.Throughout SchemaType.Unstacked) ∧
      ∀ key inner, e.cache.types.get? key = some (.nonNull inner) →
        Session.StoredProvided U requests (.new U policy) key (.nonNull inner) := by
  obtain ⟨answers, e, run, -⟩ := Session.lasts U requests (resting_new U policy)
  have start : Pervaded U SchemaType.Unstacked (.new U policy) :=
    ⟨providesOnly_new brought policy, .new U policy⟩
  obtain ⟨after, shown⟩ :=
    Session.throughout SchemaType.inherited_unstacked attached replaced start run
  refine ⟨answers, e, run, after.throughout, shown, fun key inner stored => ?_⟩
  rcases Session.nonNullFrom run key inner stored with old | stores
  · cases old
  · exact stores

end Sessions

namespace Sample

/-- A product, whose number is shown as a required scalar, and whose codes as a list of such. -/
def catalog : Universe 4 where
  declaration
    | 0 =>
      { path := "app::Product", name := "Product"
        body := .struct
          [⟨"sku", .tagged "!sku" (.declared 1)⟩,
           ⟨"others", .tagged "!others" (.list .vec (.declared 1))⟩,
           ⟨"codes", .tagged "!codes" (.pointer .option (.declared 2))⟩,
           ⟨"weight", .tagged "!weight" (.declared 3)⟩] }
    | 1 =>
      { path := "app::Sku", name := "Sku", body := .closed
        hooks := .of [.typeProvider (.nonNull (.scalar .id))] }
    | 2 =>
      { path := "app::Codes", name := "Codes", body := .closed
        hooks := .of [.typeProvider (.list (.nonNull (.scalar .string)))] }
    | 3 => { path := "app::Weight", name := "Weight", body := .closed }

/-- The provider of the weights comes late, and a field is given a required list. -/
def catalogRequests : List (Request 4) :=
  [.registerHook (.declared 3) (.typeProvider (.nonNull (.scalar .float))),
   .arrayOf (.declared 1) [],
   .fieldOf (.declared 0)
     [.arguments (.declared 0), .type (.nonNull (.list (.nonNull (.object ⟨1⟩))))]]

theorem providesOnly_catalog : catalog.ProvidesOnly SchemaType.Unstacked := by
  unfold Universe.ProvidesOnly
  decide

end Sample

/-- The types of the product's fields, and the entries that providers gave. -/
theorem Sample.non_null_layers_of_catalog :
    ((Session.run catalog catalogRequests (.new catalog .qualified)).map fun r =>
      ((r.2.arena.get? ⟨1⟩).map fun product => product.fields.values.map fun field =>
          r.2.display field.type, r.2.cache.lookup catalog (.declared 1),
        r.2.cache.lookup catalog (.declared 3))) =
      some (some ["ID!", "[ID!]!", "[String!]!", "Float!"],
        some (.nonNull (.scalar .id)), some (.nonNull (.scalar .float))) ∧
    ∃ answers e, Session.run catalog catalogRequests (.new catalog .qualified) = some (answers, e) ∧
      e.Throughout SchemaType.Unstacked ∧
      (∀ answer, .ok answer ∈ answers → answer.Throughout SchemaType.Unstacked) ∧
      ∀ key inner, e.cache.types.get? key = some (.nonNull inner) →
        Session.StoredProvided catalog catalogRequests (.new catalog .qualified) key
          (.nonNull inner) := by
  refine ⟨by decide +kernel, ?_⟩
  refine Session.non_null_layers_never_stack catalog .qualified catalogRequests
    providesOnly_catalog ?_ ?_
  · simp [catalogRequests, Request.AttachesOnly, Request.hook?, Hook.ProvidesOnly,
      SchemaType.Unstacked, SchemaType.isNonNull]
  · simp [catalogRequests, Request.ReplacesOnly, Request.replacements, Build.replacements,
      SchemaType.Unstacked, SchemaType.isNonNull]

end RecordSchema
