import RecordSchema.Proofs.Course.Arguments
import RecordSchema.Proofs.Reference
import RecordSchema.Proofs.WriteOnce

/-!
# Objects and arguments show what is cached for their fields

The fields of an object and the arguments of a map are collected from the same tags.  `Shows` says
what both have in common: the names, each in the place where it occurs first, and under each name
the schema type of the last field that carries it.  Two maps that show the same fields agree
(`Shows.agree`).

The schema type of a field is what is cached for its type.  For arguments this is so when they are
collected, and it stays so, for entries are kept.  For an object it has to hold through the end of
the build that the object was begun in, in which types of other keys enter the cache after their
parts were resolved; where types have different keys, no entry is overwritten by that
(`Course.portrays`).  So it holds between builds for every object that is not marked as failed
(`Moves.displays`).
-/

namespace RecordSchema

variable {n : Nat}

open Encoder

/-! ## Maps that show fields -/

/-- A map shows what the tags of fields say, if their types mean certain schema types: their names,
each in the place where it occurs first, and under each name the type of the last field that carries
it, with the layer of its tag. -/
structure Shows {α : Type} (means : TypeExpr n → Option SchemaType) (typeOf : α → SchemaType)
    (fields : List (RecordField n)) (m : OrderedMap α) : Prop where
  names : m.names = exposedNames fields
  last : ∀ before field after text content, fields = before ++ field :: after →
    field.content = .tagged text content → (FieldTag.parse text).name ∉ tagNames after →
      ∃ resolved, means content = some resolved ∧
        (m.get? (FieldTag.parse text).name).map typeOf =
          some (taggedType (.parse text) resolved)
  indexed : m.Indexed

/-- What a tagged field gives to a map if its type means a certain schema type. -/
def GivesType {α : Type} (means : TypeExpr n → Option SchemaType) (typeOf : α → SchemaType)
    (_ : List (RecordField n)) (tag : FieldTag) (content : TypeExpr n) (value : α) : Prop :=
  ∃ resolved, means content = some resolved ∧ typeOf value = taggedType tag resolved

namespace Shows

variable {α β : Type} {means means' : TypeExpr n → Option SchemaType} {typeOf : α → SchemaType}
  {typeOf' : β → SchemaType} {fields : List (RecordField n)} {field : RecordField n}
  {m : OrderedMap α} {m' : OrderedMap β}

/-- The map is gathered from the tags. -/
theorem gathers (shows : Shows means typeOf fields m) :
    Gathers (GivesType means typeOf) fields m where
  names := shows.names
  last before field after text content split tagged free := by
    obtain ⟨resolved, known, typed⟩ := shows.last before field after text content split tagged free
    obtain ⟨value, found, typed⟩ := Option.map_eq_some_iff.1 typed
    exact ⟨value, found, resolved, known, typed⟩
  indexed := shows.indexed

theorem of_gathers (gathers : Gathers (GivesType means typeOf) fields m) :
    Shows means typeOf fields m where
  names := gathers.names
  last before field after text content split tagged free := by
    obtain ⟨value, found, resolved, known, typed⟩ :=
      gathers.last before field after text content split tagged free
    exact ⟨resolved, known, by rw [found, Option.map_some, typed]⟩
  indexed := gathers.indexed

theorem nil : Shows means typeOf [] (.empty : OrderedMap α) := of_gathers .nil

/-- The types may get meanings that they had not. -/
theorem mono (shows : Shows means typeOf fields m)
    (kept : ∀ type resolved, means type = some resolved → means' type = some resolved) :
    Shows means' typeOf fields m where
  names := shows.names
  last before field after text content split tagged free := by
    obtain ⟨resolved, known, found⟩ := shows.last before field after text content split tagged free
    exact ⟨resolved, kept content resolved known, found⟩
  indexed := shows.indexed

theorem untagged (shows : Shows means typeOf fields m) (untagged : field.tag? = none) :
    Shows means typeOf (fields ++ [field]) m :=
  of_gathers (shows.gathers.untagged untagged)

/-- One more tagged field replaces what was shown under its name. -/
theorem tagged (shows : Shows means typeOf fields m) {text : String} {content : TypeExpr n}
    (tagged : field.content = .tagged text content) {resolved : SchemaType}
    (known : means content = some resolved) {value : α}
    (typed : typeOf value = taggedType (.parse text) resolved) :
    Shows means typeOf (fields ++ [field]) (m.insert (FieldTag.parse text).name value).2 :=
  of_gathers (shows.gathers.tagged tagged ⟨resolved, known, typed⟩)

/-- Two maps that show the same fields have the same names, and the same type under each. -/
theorem agree (first : Shows means typeOf fields m) (second : Shows means typeOf' fields m') :
    m.names = m'.names ∧ ∀ name, (m.get? name).map typeOf = (m'.get? name).map typeOf' := by
  refine ⟨first.names.trans second.names.symm, fun name => ?_⟩
  by_cases named : name ∈ tagNames fields
  · obtain ⟨before, field, after, text, content, split, tagged, rfl, free⟩ :=
      exists_last_of_mem_tagNames named
    obtain ⟨resolved, known, found⟩ := first.last _ _ _ _ _ split tagged free
    obtain ⟨resolved', known', found'⟩ := second.last _ _ _ _ _ split tagged free
    rw [known] at known'
    cases known'
    rw [found, found']
  · rw [first.gathers.get?_eq_none named, second.gathers.get?_eq_none named]
    rfl

end Shows

/-- Collected arguments show the fields that they were collected from. -/
theorem Collects.shows {U : Universe n} {path : String} {before fields : List (RecordField n)}
    {start arguments : ArgumentMap} {e e' : Encoder n}
    (collects : Collects U path fields start e (.ok arguments) e')
    (begins : Shows (e.cache.lookup U) Argument.type before start) :
    Shows (e'.cache.lookup U) Argument.type (before ++ fields) arguments := by
  generalize ok : (Except.ok arguments : Except EncodeError ArgumentMap) = result at collects
  induction collects generalizing before with
  | done =>
    cases ok
    rwa [List.append_nil]
  | @untagged field rest start e result e' untagged others ih =>
    have ends := ih (begins.untagged untagged) ok
    rwa [List.append_assoc] at ends
  | @tagged field text type rest start e resolved e₁ e₂ result e' content first same others ih =>
    have known : ∀ type resolved, e.cache.lookup U type = some resolved →
        e₂.cache.lookup U type = some resolved := fun type resolved hit => by
      rw [same.cache]
      exact first.keeps.lookup hit
    have hit : e₂.cache.lookup U type = some resolved := by
      rw [same.cache, first.lookup_of_resolve]
    have ends := ih ((begins.mono known).tagged content hit rfl) ok
    rwa [List.append_assoc] at ends
  | stopped => cases ok

/-! ## Objects -/

/-- An object shows the fields of the struct that it was begun for, with what is cached for their
types. -/
def Encoder.Shown (U : Universe n) (e : Encoder n) (id : ObjectId) : Prop :=
  ∃ struct fields object, e.struct? id = some struct ∧ U.detail struct = .struct fields ∧
    e.arena.get? id = some object ∧ Shows (e.cache.lookup U) Field.type fields object.fields

/-- After a successful call all new objects show their fields, and so does the object whose fields
were walked over. -/
structure Call.Portrays (U : Universe n) (call : Call n) (e e' : Encoder n) : Prop where
  finished : ∀ id, New e e' id → e'.Shown U id
  walked : ∀ id path fields, call = .walk id path fields → ∀ before object,
    e.arena.get? id = some object → Shows (e.cache.lookup U) Field.type before object.fields →
      ∃ object', e'.arena.get? id = some object' ∧
        Shows (e'.cache.lookup U) Field.type (before ++ fields) object'.fields

section Courses

variable {U : Universe n} {policy : KeyPolicy} {scope : Scope n} {call : Call n}
  {e e₁ e' : Encoder n} {type : TypeExpr n}

theorem Encoder.Shown.mono {id : ObjectId} (shown : e.Shown U id)
    (begun : ∀ struct, e.struct? id = some struct → e'.struct? id = some struct)
    (same : e'.arena.get? id = e.arena.get? id)
    (kept : ∀ type found, e.cache.lookup U type = some found →
      e'.cache.lookup U type = some found) : e'.Shown U id := by
  obtain ⟨struct, fields, object, own, detail, found, shows⟩ := shown
  exact ⟨struct, fields, object, begun struct own, detail, same.trans found, shows.mono kept⟩

namespace Call.Portrays

/-- A call for a type that adds no object. -/
theorem nothing {type : TypeExpr n} (asked : call.type? = some type)
    (size : e'.arena.size = e.arena.size) : call.Portrays U e e' where
  finished id new := absurd new (not_new_of_size size id)
  walked := by
    rintro id path fields rfl
    cases asked

/-- A call for a type that passes on what a call inside it did. -/
theorem pass {inner : Call n} {type : TypeExpr n} (asked : call.type? = some type)
    (portrays : inner.Portrays U e₁ e') (size : e₁.arena.size = e.arena.size) :
    call.Portrays U e e' where
  finished id new := by
    refine portrays.finished id ?_
    unfold New at new ⊢
    omega
  walked := by
    rintro id path fields rfl
    cases asked

/-- A new object shows the fields that were walked over. -/
theorem begun {options : List (SchemaOption n)} {object : ObjectType}
    {fields : List (RecordField n)} {final : SchemaType} {outermost : Bool} (tidy : Tidy e)
    (detail : U.detail type = .struct fields)
    (made : SchemaOption.applyAllToObject options { name := objectName (U.name type) } = .ok object)
    (inner : Course U (.walk e.arena.nextId (U.path type) fields) (e.begin U type object)
      (.ok final) e')
    (walks : (Call.walk e.arena.nextId (U.path type) fields).Portrays U (e.begin U type object)
      e') :
    (Call.object type options).Portrays U e
      (e'.close outermost (U.path type) (.ok final)) where
  finished id new := by
    have closed : e'.Shown U id → (e'.close outermost (U.path type) (.ok final)).Shown U id := by
      refine fun shown => shown.mono (fun struct own => ?_) (by rw [close_arena]) ?_
      · unfold struct? at own ⊢
        rwa [close_begun]
      · exact fun _ _ hit => (keeps_close 0 e' outermost (U.path type) _).lookup hit
    refine closed ?_
    have new' : New e e' id := by
      unfold New at new ⊢
      rwa [close_arena] at new
    rw [new_begin_iff U e e' type object inner.keeps.size] at new'
    rcases new' with rfl | later
    · have fresh := (SchemaOption.fields_of_applyAllToObject made).1
      obtain ⟨object', found, shows⟩ := walks.walked _ _ _ rfl [] object
        (Arena.get?_insert_nextId e.arena object) (by rw [fresh]; exact .nil)
      exact ⟨type, fields, object', inner.keeps.struct? (tidy.struct?_nextId U type object), detail,
        found, shows⟩
    · exact walks.finished id later
  walked := by rintro _ _ _ ⟨⟩

/-- A tagged field is added to the object that is walked over, and the other objects stay. -/
theorem tagged {id : ObjectId} {path text : String} {field : RecordField n}
    {rest : List (RecordField n)} {resolved : SchemaType} {result : Except EncodeError SchemaType}
    (content : field.content = .tagged text type)
    (first : Course U (.resolve type) e (.ok resolved) e₁)
    (inner : Course U (.walk id path rest)
      (e₁.expose U id path field.name (.parse text) type resolved) result e')
    (present : e.arena.contains id) (resolves : (Call.resolve type).Portrays U e e₁)
    (walks : (Call.walk id path rest).Portrays U
      (e₁.expose U id path field.name (.parse text) type resolved) e') :
    (Call.walk id path (field :: rest)).Portrays U e e' := by
  have exposed := keeps_expose U e₁ id path field.name (.parse text) type resolved
  have cache := e₁.expose_cache U id path field.name (.parse text) type resolved
  constructor
  · intro other new
    by_cases late : e₁.arena.size < other.number
    · refine walks.finished other ⟨?_, new.2⟩
      rwa [expose_arena, Arena.size_modify]
    · have early : New e e₁ other := ⟨new.1, not_lt.1 late⟩
      have apart : id ≠ other := fun same => not_new_of_live present (same ▸ new)
      have still := inner.untouched (exposed.live early.live) fun same => apart (by cases same; rfl)
      refine (resolves.finished other early).mono
        (fun _ own => inner.keeps.struct? (exposed.struct? own)) ?_
        fun _ _ hit => inner.keeps.lookup (exposed.lookup hit)
      rw [still, get?_expose_of_ne U e₁ id path field.name _ type resolved apart]
  · rintro _ _ _ ⟨⟩ before object found shows
    have found₁ : e₁.arena.get? id = some object := by
      rw [first.untouched present (fun same => nomatch same), found]
    have added := get?_expose_self U e₁ id path field.name (.parse text) type resolved
    rw [found₁, Option.map_some] at added
    have hit : (e₁.expose U id path field.name (.parse text) type resolved).cache.lookup U type =
        some resolved := by
      rw [cache, first.lookup_of_resolve]
    obtain ⟨object', found', shows'⟩ := walks.walked _ _ _ rfl (before ++ [field]) _ added
      ((shows.mono fun _ _ known => exposed.lookup (first.keeps.lookup known)).tagged content hit
        rfl)
    rw [List.append_assoc] at shows'
    exact ⟨object', found', shows'⟩

end Call.Portrays

/-- After a successful call all new objects show their fields. -/
theorem Course.portrays {final : SchemaType} (course : Course U call e (.ok final) e')
    (closed : scope.Closed U) (within : call.Within scope) (coherent : Coherent U policy scope e)
    (tidy : Tidy e) (ready : call.Ready e) : call.Portrays U e e' := by
  generalize ok : (Except.ok final : Except EncodeError SchemaType) = result at course
  induction course generalizing final with
  | recorded | refused | unrecognized | objectRecorded | notAnObject | notStruct | notSupported
  | stopped | dangling => cases ok
  | recalled | provided | scalar | objectRecalled => exact .nothing rfl rfl
  | @pointer shape pointee e result e' inner ih =>
    exact .pass rfl (ih (closed.pointee _ _ within) coherent tidy trivial ok) rfl
  | @resolved type e built e' plain miss inner ih =>
    have portrays := ih within coherent tidy trivial rfl
    refine ⟨fun id new => ?_, fun _ _ _ asked => nomatch asked⟩
    exact (portrays.finished id new).mono (fun _ own => own) rfl fun _ _ hit =>
      coherent.keeps_store closed inner rfl within miss hit
  | @list type item e result e' free other listed inner ih =>
    cases result with
    | error error => cases ok
    | ok resolved =>
      exact .pass rfl (ih (closed.item _ _ listed within) (coherent.met _ _)
        ((tidy.note rfl).meet U type) trivial rfl) rfl
  | @struct type e result e' free other struct inner ih =>
    exact .pass rfl (ih within (coherent.met _ _) ((tidy.note rfl).meet U type) trivial ok) rfl
  | @begun type options e object fields result e' miss detail made inner ih =>
    subst ok
    have walks := ih (fun field listed text content tagged =>
      closed.field type fields field text content detail listed tagged within)
      (coherent.begin within detail miss object) (tidy.begin U type object) (by simp [Call.Ready])
      rfl
    exact .begun tidy detail made inner walks
  | @done id path e =>
    refine ⟨fun other new => absurd new (not_new_of_size rfl other), ?_⟩
    rintro _ _ _ ⟨⟩ before object found shows
    rw [List.append_nil]
    exact ⟨object, found, shows⟩
  | @untagged id path field rest e result e' untagged inner ih =>
    have walks := ih (fun other listed => within other (List.mem_cons_of_mem _ listed)) coherent
      tidy ready ok
    refine ⟨walks.finished, ?_⟩
    rintro _ _ _ ⟨⟩ before object found shows
    obtain ⟨object', found', shows'⟩ := walks.walked _ _ _ rfl (before ++ [field]) object found
      (shows.untagged untagged)
    rw [List.append_assoc] at shows'
    exact ⟨object', found', shows'⟩
  | @tagged id path field text type rest e resolved e₁ result e' content first live inner ih₁ ih₂ =>
    have own : (Call.resolve type).Within scope := within field List.mem_cons_self text type content
    have books := first.accounts tidy trivial
    have started : id ∈ e₁.building :=
      ((books.inside (List.ne_nil_of_mem ready)).1 id).2 (.inl ready)
    have walks := ih₂ (fun other listed => within other (List.mem_cons_of_mem _ listed))
      ((coherent.after closed own first).expose id path field.name _ type resolved)
      (books.tidy.expose U id path field.name _ type resolved)
      (by unfold Call.Ready; rwa [expose_building]) ok
    exact .tagged content first inner (tidy.building id ready) (ih₁ own coherent tidy trivial rfl)
      walks

/-! ## Objects in the cache -/

/-- Whatever object is cached was begun for a struct of the scope that has this key. -/
def Encoder.Attributed (U : Universe n) (scope : Scope n) (e : Encoder n) : Prop :=
  ∀ key id, e.cache.types.get? key = some (.object id) → ∃ struct, e.struct? id = some struct ∧
    scope.type struct ∧ struct.isPointer = false ∧ e.cache.key U struct = key

/-- A call that results in an object has cached it. -/
theorem Course.lookup_of_ok_object {id : ObjectId} (course : Course U call e (.ok (.object id)) e')
    (asked : call.type? = some type) (free : HandleFree U e) :
    e'.cache.lookup U type = some (.object id) := by
  cases call with
  | walk => cases asked
  | resolve =>
    cases asked
    exact course.lookup_of_resolve
  | object =>
    cases asked
    exact course.lookup_of_object
  | build =>
    cases asked
    generalize ok : (Except.ok (SchemaType.object id) : Except EncodeError SchemaType) = result
      at course
    cases course with
    | provided hook =>
      cases ok
      have named := free _ _ hook
      cases named
    | scalar => cases ok
    | @list _ item _ result _ _ _ _ inner => cases result <;> cases ok
    | struct _ _ _ inner =>
      subst ok
      exact inner.lookup_of_object
    | unrecognized => cases ok

namespace Encoder.Attributed

theorem congr (attributed : Attributed U scope e) (types : e'.cache.types = e.cache.types)
    (policy : e'.cache.policy = e.cache.policy) (begun : e'.begun = e.begun) :
    Attributed U scope e' := by
  intro key id stored
  rw [types] at stored
  unfold struct?
  rw [begun, show e'.cache.key U = e.cache.key U from
    funext fun type => by rw [TypeCache.key_eq, TypeCache.key_eq, policy]]
  exact attributed key id stored

/-- A type may be cached with an object if it has this object already. -/
theorem store (attributed : Attributed U scope e) {resolved : SchemaType}
    (known : ∀ id, resolved = .object id → e.cache.lookup U type = some (.object id)) :
    Attributed U scope (e.store U type resolved) := by
  intro key id stored
  rw [store_cache, TypeCache.types_register] at stored
  split at stored
  · next same =>
    cases stored
    have hit := known id rfl
    unfold TypeCache.lookup at hit
    rw [same] at hit
    exact attributed key id hit
  · exact attributed key id stored

theorem begin (attributed : Attributed U scope e) (tidy : Tidy e) (inside : scope.type type)
    (struct : U.isStruct type) (miss : e.cache.lookup U type = none) (object : ObjectType) :
    Attributed U scope (e.begin U type object) := by
  intro key id stored
  rw [begin_cache, TypeCache.types_register] at stored
  split at stored
  · next same =>
    cases stored
    exact ⟨type, tidy.struct?_nextId U type object, inside, isPointer_eq_false_of_struct struct,
      same⟩
  · obtain ⟨other, begun, known⟩ := attributed key id stored
    exact ⟨other, (keeps_begin U e miss object).struct? begun, known⟩

end Encoder.Attributed

theorem Course.attributed {result : Except EncodeError SchemaType}
    (course : Course U call e result e') (closed : scope.Closed U) (within : call.Within scope)
    (free : HandleFree U e) (tidy : Tidy e) (busy : call.Busy e)
    (attributed : Attributed U scope e) : Attributed U scope e' := by
  induction course with
  | recorded | objectRecorded | notStruct | notSupported | done => exact attributed
  | recalled | objectRecalled | notAnObject =>
    exact attributed.congr rfl rfl (by simp [Event.begun?])
  | pointer inner ih => exact ih (closed.pointee _ _ within) free tidy trivial attributed
  | @resolved type e built e' plain miss inner ih =>
    refine (ih within free tidy trivial attributed).store fun id same => ?_
    subst same
    exact inner.lookup_of_ok_object rfl free
  | refused plain miss inner ih => exact ih within free tidy trivial attributed
  | provided | scalar | unrecognized => exact attributed.congr rfl rfl (by simp [Event.begun?])
  | list free' other listed inner ih =>
    exact ih (closed.item _ _ listed within) (free.met _ _) ((tidy.note rfl).meet U _) trivial
      (attributed.congr rfl rfl (by simp [Event.begun?]))
  | struct free' other struct inner ih =>
    exact ih within (free.met _ _) ((tidy.note rfl).meet U _) trivial
      (attributed.congr rfl rfl (by simp [Event.begun?]))
  | @begun type options e object fields result e' miss struct made inner ih =>
    have begins := attributed.begin tidy within (Universe.isStruct_of_detail struct) miss object
    have walks := ih (fun field listed text content tagged =>
      closed.field type fields field text content struct listed tagged within) free
      (tidy.begin U type object) (by simp [Call.Busy]) begins
    exact walks.congr (close_types _ _ _ _) (close_policy _ _ _ _) (close_begun _ _ _ _)
  | untagged untagged inner ih =>
    exact ih (fun other listed => within other (List.mem_cons_of_mem _ listed)) free tidy busy
      attributed
  | @tagged id path field text type rest e resolved e₁ result e' content first live inner ih₁ ih₂ =>
    have own : (Call.resolve type).Within scope := within field List.mem_cons_self text type content
    have books := first.accounts tidy trivial
    have free₁ : HandleFree U (e₁.expose U id path field.name (.parse text) type resolved) := by
      intro other given hook
      rw [hooksOf_of_met U (e₁.expose_registry U id path field.name _ type resolved),
        first.hooksOf] at hook
      exact free other given hook
    have still : (e₁.expose U id path field.name (.parse text) type resolved).building ≠ [] := by
      obtain ⟨other, started⟩ := List.exists_mem_of_ne_nil _ busy
      rw [expose_building]
      exact List.ne_nil_of_mem (((books.inside busy).1 other).2 (.inl started))
    exact ih₂ (fun other listed => within other (List.mem_cons_of_mem _ listed)) free₁
      (books.tidy.expose U id path field.name _ type resolved) still
      ((ih₁ own free tidy trivial attributed).congr (by simp) (by simp) (by simp))
  | stopped content first ih =>
    exact ih (within _ List.mem_cons_self _ _ content) free tidy trivial attributed
  | dangling content first dead ih =>
    exact (ih (within _ List.mem_cons_self _ _ content) free tidy trivial attributed).congr
      (by simp) (by simp) (by simp)

end Courses

/-! ## Between builds -/

/-- What holds between builds where types have different keys and providers name no handles. -/
structure Encoder.Displays (U : Universe n) (policy : KeyPolicy) (scope : Scope n)
    (e : Encoder n) : Prop where
  free : HandleFree U e
  resting : Resting e
  coherent : Coherent U policy scope e
  attributed : Attributed U scope e
  shown : ∀ id, e.Usable id → e.Shown U id

section Runs

variable {U : Universe n} {policy : KeyPolicy} {scope : Scope n} {e e' : Encoder n}

theorem Encoder.displays_new (provided : U.HooksNameNoHandle) (apart : scope.Apart U policy) :
    Displays U policy scope (.new U policy) where
  free := handleFree_new provided policy
  resting := resting_new U policy
  coherent := ⟨apart.listsAlike _, listed_new U scope policy, rfl⟩
  attributed key id stored := by cases stored
  shown id usable := by
    have inside := (Arena.contains_iff _ id).1 usable.live
    exact absurd inside.1 (not_lt.2 inside.2)

variable (closed : scope.Closed U) (apart : scope.Apart U policy)
  (nameless : ∀ given, scope.hook (.typeProvider given) → given.handles = [])

include nameless in
theorem Move.handleFree_of_nameless (move : Move U scope e e') (free : HandleFree U e) :
    HandleFree U e' := by
  refine Move.handleFree ?_ free
  cases move with
  | note other => exact .note other
  | register grown => exact .register grown
  | attach allowed => exact .attach fun given provides => nameless given (provides ▸ allowed)
  | call asked inside course => exact .call asked trivial course
  | enter asked plain inside miss course => exact .enter asked plain trivial miss course

include closed apart nameless

theorem Move.displays (move : Move U scope e e') (displays : Displays U policy scope e) :
    Displays U policy scope e' := by
  obtain ⟨resting, lasting⟩ := move.lasts displays.resting
  have coherent : Coherent U policy scope e' :=
    ⟨apart.listsAlike _, move.listed closed displays.coherent.alike displays.coherent.policy
      displays.coherent.listed, lasting.keeps.policy.trans displays.coherent.policy⟩
  refine ⟨move.handleFree_of_nameless nameless displays.free, resting, coherent, ?_, ?_⟩
  · cases move with
    | note other => exact displays.attributed.congr rfl rfl (by simp [other])
    | register | attach => exact displays.attributed.congr rfl rfl rfl
    | call asked inside course =>
      exact course.attributed closed (Call.within_of_asked asked inside) displays.free
        displays.resting.toTidy (Call.busy_of_asked asked) displays.attributed
    | enter asked plain inside miss course =>
      refine (course.attributed closed (Call.within_of_asked asked inside) displays.free
        displays.resting.toTidy (Call.busy_of_asked asked) displays.attributed).store
          fun id same => ?_
      subst same
      exact course.lookup_of_ok_object asked displays.free
  · -- An old object is as it was, and a new one that is not marked comes from a success.
    intro id usable
    rcases live_or_new (e := e) usable.live with old | new
    · refine (displays.shown id ⟨old, ?_⟩).mono (fun _ own => lasting.keeps.struct? own)
        (lasting.keeps.objects id ((Arena.contains_iff _ id).1 old).2)
        fun _ _ hit => lasting.keeps.lookup hit
      rw [← lasting.marks id old]
      exact usable.unmarked
    · cases move with
      | note | register | attach => exact absurd new (not_new_of_size rfl id)
      | @call call _ _ result _ asked inside course =>
        cases result with
        | error error =>
          have books := course.accounts displays.resting.toTidy (Call.busy_of_asked asked)
          have marks := (books.outside displays.resting.idle).2 id new
          rw [usable.unmarked] at marks
          cases marks
        | ok resolved =>
          exact (course.portrays closed (Call.within_of_asked asked inside) displays.coherent
            displays.resting.toTidy (Call.ready_of_asked asked)).finished id new
      | enter asked plain inside miss course =>
        have shown := (course.portrays closed (Call.within_of_asked asked inside)
          displays.coherent displays.resting.toTidy (Call.ready_of_asked asked)).finished id new
        exact shown.mono (fun _ own => own) rfl fun _ _ hit =>
          displays.coherent.keeps_store closed course asked inside miss hit

/-- Between builds every object that is not marked shows its fields. -/
theorem Moves.displays (moves : Moves U scope e e') (displays : Displays U policy scope e) :
    Displays U policy scope e' := by
  induction moves with
  | refl => exact displays
  | tail _ last ih => exact last.displays closed apart nameless ih

end Runs

end RecordSchema
