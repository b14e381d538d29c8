import RecordSchema.Proofs.Moves

/-!
# What the cache says of an object's struct

An object is cached under the key of its struct before its fields are walked, but another type of
the same key may overwrite the entry later in the same build.  `Twinned` says what survives: under
the key of each object's struct there always is a type that names an object with the same fate, in
progress and marked whenever the object is.

Where the cache tells the types apart, nothing is overwritten at all, and a cached list without a
provider is the list of what is cached for its item (`Listed`).  It is enough for this that whatever
has the key of a list is a list of items with one key (`ListsAlike`).
-/

namespace RecordSchema

variable {n : Nat}

open Encoder

/-! ## Twins -/

/-- The entry under the key of an object's struct names an object that is in progress when that
object is, and that has the same mark. -/
def Encoder.Twinned (U : Universe n) (e : Encoder n) : Prop :=
  ∀ id struct, e.struct? id = some struct → ∃ found twin,
    e.cache.lookup U struct = some found ∧ found.namedObject? = some twin ∧
      e.arena.contains twin ∧ e.cache.failures.get? twin = e.cache.failures.get? id ∧
        (twin ∈ e.building ↔ id ∈ e.building)

section Twins

variable {U : Universe n} {call : Call n} {e e' : Encoder n}
  {result : Except EncodeError SchemaType}

theorem Encoder.twinned_new (U : Universe n) (policy : KeyPolicy) : Twinned U (.new U policy) := by
  intro id struct begun
  obtain ⟨_ | position⟩ := id <;> cases begun

/-- Twins depend on the cache, on which objects live, and on the objects begun and in progress. -/
theorem Encoder.Twinned.congr (twinned : Twinned U e) (cache : e'.cache = e.cache)
    (live : ∀ id, e.arena.contains id → e'.arena.contains id) (building : e'.building = e.building)
    (begun : e'.begun = e.begun) : Twinned U e' := by
  intro id struct h
  unfold Encoder.struct? at h
  rw [begun] at h
  obtain ⟨found, twin, hit, named, present, marks, started⟩ := twinned id struct h
  rw [cache, building]
  exact ⟨found, twin, hit, named, live twin present, marks, started⟩

/-- A build stores an entry for a type that was unknown when it began.  All objects under the key
are its own, and so is the object that the entry names. -/
theorem Encoder.Twinned.store (twinned : Twinned U e) (tidy : Tidy e) {built : SchemaType}
    (course : Course U call e (.ok built) e') {type : TypeExpr n}
    (asked : call.type? = some type) (busy : call.Busy e) (miss : e.cache.lookup U type = none)
    (after : Twinned U e') : Twinned U (e'.store U type built) := by
  have books := course.accounts tidy busy
  intro id struct begun
  by_cases same : e'.cache.key U type = e'.cache.key U struct
  · have old : e.struct? id ≠ some struct := fun before => by
      obtain ⟨found, _, hit, _⟩ := twinned id struct before
      have key : e.cache.key U type = e.cache.key U struct := by
        rw [← course.keeps.key, ← course.keeps.key, same]
      rw [TypeCache.lookup_of_key key, hit] at miss
      cases miss
    have new : New e e' id := by
      rcases live_or_new (e := e) (books.tidy.live_of_struct? begun) with live | new
      · exfalso
        obtain ⟨other, before⟩ := tidy.struct?_of_live live
        have later := course.keeps.struct? before
        rw [show e'.struct? id = some struct from begun] at later
        cases later
        exact old before
      · exact new
    have grown : e.arena.size < e'.arena.size := lt_of_lt_of_le new.1 new.2
    obtain ⟨twin, named, newTwin⟩ := course.names_new asked grown
    refine ⟨built, twin, ?_, named, newTwin.live, ?_, ?_⟩
    · rw [store_cache, TypeCache.lookup_register, if_pos same]
    · by_cases free : e.building = []
      · have marks := (books.outside free).2
        exact (marks twin newTwin).trans (marks id new).symm
      · have marks := (books.inside free).2
        exact (marks twin newTwin).trans (marks id new).symm
    · by_cases free : e.building = []
      · have idle : (e'.store U type built).building = [] := (books.outside free).1
        rw [idle]
        exact ⟨fun h => (nomatch h), fun h => (nomatch h)⟩
      · have listed := (books.inside free).1
        exact ⟨fun _ => (listed id).2 (.inr new), fun _ => (listed twin).2 (.inr newTwin)⟩
  · obtain ⟨found, twin, hit, named, present, marks, started⟩ := after id struct begun
    refine ⟨found, twin, ?_, named, present, marks, started⟩
    rw [store_cache, TypeCache.lookup_register, if_neg same, hit]

/-- A new object is its own twin. -/
theorem Encoder.Twinned.begin (twinned : Twinned U e) (tidy : Tidy e) {type : TypeExpr n}
    (miss : e.cache.lookup U type = none) (object : ObjectType) :
    Twinned U (e.begin U type object) := by
  have kept := keeps_begin U e miss object
  have fresh : ∀ id, e.arena.contains id → id ≠ e.arena.nextId := fun id live same => by
    have inside := ((e.arena.contains_iff id).1 live).2
    rw [same, Arena.number_nextId] at inside
    omega
  intro id struct begun
  by_cases own : id = e.arena.nextId
  · subst own
    rw [tidy.struct?_nextId U type object] at begun
    cases begun
    refine ⟨.object e.arena.nextId, e.arena.nextId, ?_, rfl, ?_, rfl, Iff.rfl⟩
    · exact TypeCache.lookup_register_self U e.cache type _
    · rw [Arena.contains_iff, begin_arena, Arena.size_insert, Arena.number_nextId]
      omega
  · have live := (tidy.begin U type object).live_of_struct? begun
    rcases live_or_new (e := e) live with before | new
    · obtain ⟨other, known⟩ := tidy.struct?_of_live before
      have later := kept.struct? known
      rw [begun] at later
      cases later
      obtain ⟨found, twin, hit, named, present, marks, started⟩ := twinned id struct known
      refine ⟨found, twin, kept.lookup hit, named, kept.live present, marks, ?_⟩
      rw [begin_building, List.mem_append, List.mem_append, List.mem_singleton, List.mem_singleton,
        started]
      simp [fresh twin present, fresh id before]
    · rw [new_begin_iff U e _ type object le_rfl] at new
      exact absurd (new.resolve_left own) (not_new_of_size rfl id)

/-- The end of an outermost build marks an object and its twin alike. -/
theorem Encoder.Twinned.close {α : Type} (twinned : Twinned U e) (outermost : Bool) (path : String)
    (result : Except EncodeError α) : Twinned U (e.close outermost path result) := by
  cases outermost with
  | false => exact twinned
  | true =>
    intro id struct begun
    have before : e.struct? id = some struct := by
      unfold Encoder.struct? at begun ⊢
      rwa [close_begun] at begun
    obtain ⟨found, twin, hit, named, present, marks, started⟩ := twinned id struct before
    have kept := keeps_close 0 e true path result
    refine ⟨found, twin, kept.lookup hit, named, kept.live present, ?_, ?_⟩
    · cases result with
      | ok _ => exact marks
      | error error =>
        change (marked e.cache e.building error).failures.get? twin =
          (marked e.cache e.building error).failures.get? id
        rw [failures_marked, failures_marked, marks]
        simp only [started]
    · have none_left : (e.close true path result).building = [] := by
        cases result <;> rfl
      rw [none_left]
      exact ⟨fun h => absurd h List.not_mem_nil, fun h => absurd h List.not_mem_nil⟩

theorem Course.twinned (course : Course U call e result e') (twinned : Twinned U e) (tidy : Tidy e)
    (busy : call.Busy e) : Twinned U e' := by
  induction course with
  | pointer inner ih => exact ih twinned tidy trivial
  | recorded | objectRecorded | notStruct | notSupported | done => exact twinned
  | recalled | objectRecalled | notAnObject =>
    exact twinned.congr rfl (fun _ live => live) rfl (by simp [Event.begun?])
  | resolved plain miss inner ih =>
    exact twinned.store tidy inner rfl trivial miss (ih twinned tidy trivial)
  | refused plain miss inner ih => exact ih twinned tidy trivial
  | provided | scalar | unrecognized =>
    exact twinned.congr rfl (fun _ live => live) rfl (by simp [Event.begun?])
  | list free other listed inner ih | struct free other struct inner ih =>
    refine ih (twinned.congr rfl (fun _ live => live) rfl (by simp [Event.begun?])) ?_ trivial
    exact (tidy.note rfl).meet U _
  | @begun type options e object fields result e' miss struct made inner ih =>
    have begins := twinned.begin tidy miss object
    exact (ih begins (tidy.begin U type object) (by simp [Call.Busy])).close _ _ _
  | untagged untagged inner ih => exact ih twinned tidy busy
  | @tagged id path field text type rest e resolved e₁ result e' content first live inner ih₁ ih₂ =>
    have books := first.accounts tidy trivial
    have exposed := keeps_expose U e₁ id path field.name (.parse text) type resolved
    refine ih₂ ?_ (books.tidy.expose U id path field.name (.parse text) type resolved) ?_
    · exact (ih₁ twinned tidy trivial).congr (by simp) (fun _ => exposed.live) (by simp) (by simp)
    · obtain ⟨other, started⟩ := List.exists_mem_of_ne_nil _ busy
      have still := ((books.inside busy).1 other).2 (.inl started)
      unfold Call.Busy
      rw [expose_building]
      exact List.ne_nil_of_mem still
  | stopped content first ih => exact ih twinned tidy trivial
  | dangling content first dead ih =>
    refine (ih twinned tidy trivial).congr (by simp) (fun id live => ?_) (by simp) (by simp)
    rwa [meet_arena, warn_arena]

end Twins

/-! ## Lists whose items are cached -/

/-- The types of a scope have different keys, up to the pointers around them. -/
def Scope.Apart (U : Universe n) (policy : KeyPolicy) (scope : Scope n) : Prop :=
  ∀ a b, scope.type a → scope.type b →
    policy.text U a.withoutPointers = policy.text U b.withoutPointers →
      a.withoutPointers = b.withoutPointers

/-- Whatever else has the key of a list is itself a list, of items with the same key, and no
provider decides for it. -/
def Encoder.ListsAlike (U : Universe n) (policy : KeyPolicy) (scope : Scope n) (e : Encoder n) :
    Prop :=
  ∀ list other item, scope.type list → scope.type other → list.item? = some item →
    other.isPointer = false → policy.text U list = policy.text U other →
      list = other ∨ ∃ item', other.item? = some item' ∧
        policy.text U item.withoutPointers = policy.text U item'.withoutPointers ∧
          (e.hooksOf U other).typeProvider = none

/-- The types that a call starts from are in a scope. -/
def Call.Within (scope : Scope n) : Call n → Prop
  | .resolve type | .build type | .object type _ => scope.type type
  | .walk _ _ fields =>
    ∀ field ∈ fields, ∀ text type, field.content = .tagged text type → scope.type type

/-- What is cached for a list without a provider is the list of what is cached for its item. -/
def Encoder.Listed (U : Universe n) (scope : Scope n) (e : Encoder n) : Prop :=
  ∀ type item found, scope.type type → type.item? = some item →
    (e.hooksOf U type).typeProvider = none → e.cache.lookup U type = some found →
      ∃ inner, found = .list inner ∧ e.cache.lookup U item = some inner

section Lists

variable {U : Universe n} {scope : Scope n} {call : Call n} {e e' : Encoder n}
  {result : Except EncodeError SchemaType} {type item : TypeExpr n}

/-- Where all keys are different, types that are no pointers are told apart by their keys. -/
theorem Scope.Apart.eq_of_plain {policy : KeyPolicy} (apart : scope.Apart U policy)
    {a b : TypeExpr n} (insideA : scope.type a) (insideB : scope.type b)
    (plainA : a.isPointer = false) (plainB : b.isPointer = false)
    (same : policy.text U a = policy.text U b) : a = b := by
  have equal := apart a b insideA insideB
  rw [TypeExpr.withoutPointers_eq_self plainA, TypeExpr.withoutPointers_eq_self plainB] at equal
  exact equal same

/-- Where all keys are different, no two lists have to be alike. -/
theorem Scope.Apart.listsAlike {policy : KeyPolicy} (apart : scope.Apart U policy) (e : Encoder n) :
    ListsAlike U policy scope e := by
  intro list other item insideList insideOther listed plain same
  exact .inl (apart.eq_of_plain insideList insideOther (isPointer_eq_false_of_item listed) plain
    same)

theorem Encoder.ListsAlike.congr {policy : KeyPolicy} (alike : ListsAlike U policy scope e)
    (hooks : ∀ type, (e'.hooksOf U type).typeProvider = (e.hooksOf U type).typeProvider) :
    ListsAlike U policy scope e' := by
  intro list other item insideList insideOther listed plain same
  rw [hooks]
  exact alike list other item insideList insideOther listed plain same

theorem Encoder.ListsAlike.met {policy : KeyPolicy} (alike : ListsAlike U policy scope e)
    {met : TypeExpr n} (grown : e'.registry = e.registry.getOrRegister U met) :
    ListsAlike U policy scope e' :=
  alike.congr fun type => by rw [hooksOf_of_met U grown]

theorem Encoder.listed_new (U : Universe n) (scope : Scope n) (policy : KeyPolicy) :
    Listed U scope (.new U policy) := by
  intro type item found _ _ _ hit
  cases hit

/-- Lists depend on the entries, and a provider may turn up where there was none. -/
theorem Encoder.Listed.congr (listed : Listed U scope e)
    (types : e'.cache.types = e.cache.types) (policy : e'.cache.policy = e.cache.policy)
    (hooks : ∀ type, (e'.hooksOf U type).typeProvider = none →
      (e.hooksOf U type).typeProvider = none) : Listed U scope e' := by
  intro type item found inside listed' free hit
  rw [TypeCache.lookup_congr types policy] at hit ⊢
  exact listed type item found inside listed' (hooks type free) hit

theorem Encoder.Listed.met (listed : Listed U scope e) (path : String) (type : TypeExpr n) :
    Listed U scope ((e.note (.resolving path)).meet U type) := by
  refine listed.congr rfl rfl fun other free => ?_
  have same : ((e.note (.resolving path)).meet U type).registry =
      e.registry.getOrRegister U type := rfl
  rwa [hooksOf_of_met U same] at free

/-- An entry may be stored again with the same content, and a new entry for a list must be the list
of what is cached for its item. -/
theorem Encoder.Listed.store (listed : Listed U scope e) {policy : KeyPolicy}
    (alike : ListsAlike U policy scope e) (uses : e.cache.policy = policy)
    (plain : type.isPointer = false) (inside : scope.type type) {built : SchemaType}
    (own : ∀ item, type.item? = some item → (e.hooksOf U type).typeProvider = none →
      ∃ inner, built = .list inner ∧ e.cache.lookup U item = some inner)
    (again : ∀ found, e.cache.lookup U type = some found → found = built) :
    Listed U scope (e.store U type built) := by
  have stored : ∀ other, (e.store U type built).cache.lookup U other =
      if e.cache.key U type = e.cache.key U other then some built else e.cache.lookup U other :=
    fun other => e.cache.lookup_register U type other built
  have kept : ∀ other found, e.cache.lookup U other = some found →
      (e.store U type built).cache.lookup U other = some found := fun other found hit => by
    rw [stored]
    split
    · next same =>
      rw [again found ((TypeCache.lookup_of_key same).trans hit)]
    · exact hit
  intro list item found insideList listed' free hit
  rw [stored] at hit
  split at hit
  · next same =>
    cases hit
    rw [TypeCache.key_eq, TypeCache.key_eq, uses, TypeExpr.withoutPointers_eq_self plain,
      TypeExpr.withoutPointers_eq_self (isPointer_eq_false_of_item listed')] at same
    rcases alike list type item insideList inside listed' plain same.symm with
      rfl | ⟨item', listed'', sameItem, free'⟩
    · obtain ⟨inner, rfl, known⟩ := own item listed' free
      exact ⟨inner, rfl, kept item inner known⟩
    · obtain ⟨inner, rfl, known⟩ := own item' listed'' free'
      refine ⟨inner, rfl, kept item inner ?_⟩
      rwa [TypeCache.lookup_eq, uses, sameItem, ← uses, ← TypeCache.lookup_eq]
  · obtain ⟨inner, rfl, known⟩ := listed list item found insideList listed' free hit
    exact ⟨inner, rfl, kept item inner known⟩

/-- A struct is no list, so its object may be begun. -/
theorem Encoder.Listed.begin (listed : Listed U scope e) {policy : KeyPolicy}
    (alike : ListsAlike U policy scope e) (uses : e.cache.policy = policy)
    (inside : scope.type type) {fields : List (RecordField n)}
    (struct : U.detail type = .struct fields) (miss : e.cache.lookup U type = none)
    (object : ObjectType) : Listed U scope (e.begin U type object) := by
  have isStruct : U.isStruct type := Universe.isStruct_of_detail struct
  have stores : Listed U scope (e.store U type (.object e.arena.nextId)) := by
    refine listed.store alike uses (isPointer_eq_false_of_struct isStruct) inside ?_ ?_
    · intro item listed'
      rw [item?_eq_none_of_struct isStruct] at listed'
      cases listed'
    · intro found hit
      rw [miss] at hit
      cases hit
  exact stores.congr rfl rfl fun _ free => free

theorem Encoder.Listed.expose (listed : Listed U scope e) (id : ObjectId) (path name : String)
    (tag : FieldTag) (type : TypeExpr n) (resolved : SchemaType) :
    Listed U scope (e.expose U id path name tag type resolved) := by
  refine listed.congr (by simp) (by simp) fun other free => ?_
  rwa [hooksOf_of_met U (e.expose_registry U id path name tag type resolved)] at free

/-- What a call for an unknown type succeeds with agrees with what was cached for the type in the
meantime. -/
theorem Course.built_once {built : SchemaType} (course : Course U call e (.ok built) e')
    (asked : call.type? = some type) (inside : scope.type type)
    (miss : e.cache.lookup U type = none) (listed : Listed U scope e') :
    (∀ item, type.item? = some item → (e'.hooksOf U type).typeProvider = none →
      ∃ inner, built = .list inner ∧ e'.cache.lookup U item = some inner) ∧
    ∀ found, e'.cache.lookup U type = some found → found = built := by
  have hooks := course.hooksOf type
  have same : ∀ {found}, e'.cache.lookup U type = some built →
      e'.cache.lookup U type = some found → found = built := fun hit hit' => by
    rw [hit] at hit'
    exact (Option.some.inj hit').symm
  cases call with
  | walk id path fields => cases asked
  | resolve type =>
    cases asked
    have hit := course.lookup_of_resolve
    exact ⟨fun item listed' free => listed _ item _ inside listed' free hit, fun found => same hit⟩
  | object type options =>
    cases asked
    have hit := course.lookup_of_object
    refine ⟨fun item listed' free => ?_, fun found => same hit⟩
    exact listed _ item _ inside listed' free hit
  | build type =>
    cases asked
    -- A leaf stores nothing.  A struct and a list may have come back to the type while it was
    -- built, and then they have stored what they result in.
    generalize ok : (Except.ok built : Except EncodeError SchemaType) = outcome at course
    cases course with
    | provided hook =>
      refine ⟨fun item _ free => ?_, fun found hit => ?_⟩
      · rw [hooks, hook] at free
        cases free
      · rw [meet_cache, note_cache, miss] at hit
        cases hit
    | scalar free native =>
      refine ⟨fun item listed' _ => ?_, fun found hit => ?_⟩
      · rw [scalar?_eq_none_of_item listed'] at native
        cases native
      · rw [meet_cache, note_cache, miss] at hit
        cases hit
    | struct free other struct inner =>
      subst ok
      have hit := inner.lookup_of_object
      exact ⟨fun item listed' free => listed _ item _ inside listed' free hit,
        fun found => same hit⟩
    | @list _ item _ result _ free other listed' inner =>
      cases result with
      | error error => cases ok
      | ok resolved =>
        cases ok
        have known := inner.lookup_of_resolve
        refine ⟨fun item' listed'' _ => ?_, fun found hit => ?_⟩
        · rw [listed'] at listed''
          cases listed''
          exact ⟨resolved, rfl, known⟩
        · obtain ⟨resolved', rfl, known'⟩ := listed _ item found inside listed' (hooks ▸ free) hit
          rw [known] at known'
          cases known'
          rfl
    | unrecognized => cases ok

theorem Course.listed (course : Course U call e result e') (closed : scope.Closed U)
    {policy : KeyPolicy} (alike : ListsAlike U policy scope e) (uses : e.cache.policy = policy)
    (within : call.Within scope) (listed : Listed U scope e) : Listed U scope e' := by
  induction course with
  | @pointer shape pointee e result e' inner ih =>
    exact ih alike uses (closed.pointee shape pointee within) listed
  | recorded | objectRecorded | notStruct | notSupported | done => exact listed
  | recalled | objectRecalled | notAnObject => exact listed.congr rfl rfl fun _ free => free
  | resolved plain miss inner ih =>
    have after := ih alike uses within listed
    -- The type was unknown, but a cycle may have stored it while it was built.
    obtain ⟨own, again⟩ := inner.built_once rfl within miss after
    have alike' := alike.congr fun other => by rw [inner.hooksOf]
    exact after.store alike' (inner.keeps.policy.trans uses) plain within own again
  | refused plain miss inner ih => exact ih alike uses within listed
  | provided | scalar | unrecognized => exact listed.met _ _
  | @list type item e result e' free other listed' inner ih =>
    exact ih (alike.met rfl) uses (closed.item type item listed' within) (listed.met _ _)
  | struct free other struct inner ih => exact ih (alike.met rfl) uses within (listed.met _ _)
  | @begun type options e object fields result e' miss struct made inner ih =>
    have begins := listed.begin alike uses within struct miss object
    have walks := ih (alike.congr fun _ => rfl) uses (fun field listed' text content tagged =>
      closed.field type fields field text content struct listed' tagged within) begins
    refine walks.congr (close_types _ _ _ _) (close_policy _ _ _ _) fun other free => ?_
    rwa [hooksOf_of_registry U (close_registry _ _ _ _)] at free
  | @untagged id path field rest e result e' untagged inner ih =>
    exact ih alike uses (fun other listed' => within other (List.mem_cons_of_mem _ listed')) listed
  | @tagged id path field text type rest e resolved e₁ result e' content first live inner ih₁ ih₂ =>
    have resolves := ih₁ alike uses (within field List.mem_cons_self text type content) listed
    have policy₁ := first.keeps.policy.trans uses
    have alike₁ := alike.congr fun other => by rw [first.hooksOf]
    have grown := e₁.expose_registry U id path field.name (.parse text) type resolved
    refine ih₂ (alike₁.met grown) ?_
      (fun other listed' => within other (List.mem_cons_of_mem _ listed')) ?_
    · rw [expose_cache]
      exact policy₁
    · exact resolves.expose id path field.name _ type resolved
  | @stopped id path field text type rest e error e' content first ih =>
    exact ih alike uses (within field List.mem_cons_self text type content) listed
  | @dangling id path field text type rest e resolved e₁ content first dead ih =>
    have resolves := ih alike uses (within field List.mem_cons_self text type content) listed
    refine resolves.congr (by simp) (by simp) fun other free => ?_
    have grown : ((e₁.warn U type (.parse text) resolved).meet U type.withoutPointers).registry =
        e₁.registry.getOrRegister U type.withoutPointers := by
      rw [meet_registry, warn_registry]
    rwa [hooksOf_of_met U grown] at free

end Lists

/-! ## Between builds -/

section Moves

variable {U : Universe n} {scope : Scope n} {e e' : Encoder n}

theorem Move.twinned (move : Move U scope e e') (resting : Resting e) (twinned : Twinned U e) :
    Twinned U e' := by
  cases move with
  | note other => exact twinned.congr rfl (fun _ live => live) rfl (by simp [other])
  | register | attach => exact twinned.congr rfl (fun _ live => live) rfl rfl
  | call asked inside course =>
    exact course.twinned twinned resting.toTidy (Call.busy_of_asked asked)
  | enter asked plain inside miss course =>
    have after := course.twinned twinned resting.toTidy (Call.busy_of_asked asked)
    exact twinned.store resting.toTidy course asked (Call.busy_of_asked asked) miss after

theorem Moves.twinned (moves : Moves U scope e e') (resting : Resting e) (twinned : Twinned U e) :
    Twinned U e' := by
  induction moves with
  | refl => exact twinned
  | tail first last ih => exact last.twinned (Moves.lasts first resting).1 ih

/-- An attached hook takes no provider away. -/
theorem Encoder.provider_of_attach {type other : TypeExpr n} {hook : Hook}
    (free : ((e.know (e.registry.attach type hook)).hooksOf U other).typeProvider = none) :
    (e.hooksOf U other).typeProvider = none := by
  rw [hooksOf_attach] at free
  split at free
  · rw [Hooks.typeProvider_attach, Option.or_eq_none_iff] at free
    exact free.2
  · exact free

theorem Call.within_of_asked {call : Call n} {type : TypeExpr n} (asked : call.type? = some type)
    (inside : scope.type type) : call.Within scope := by
  cases call with
  | walk => cases asked
  | resolve | build | object =>
    cases asked
    exact inside

theorem Move.listed (move : Move U scope e e') (closed : scope.Closed U) {policy : KeyPolicy}
    (alike : ListsAlike U policy scope e) (uses : e.cache.policy = policy)
    (listed : Listed U scope e) : Listed U scope e' := by
  cases move with
  | note other => exact listed.congr rfl rfl fun _ free => free
  | register grown =>
    refine listed.congr rfl rfl fun type free => ?_
    rwa [hooksOf_know grown] at free
  | attach allowed => exact listed.congr rfl rfl fun _ free => provider_of_attach free
  | call asked inside course =>
    exact course.listed closed alike uses (Call.within_of_asked asked inside) listed
  | enter asked plain inside miss course =>
    have after := course.listed closed alike uses (Call.within_of_asked asked inside) listed
    obtain ⟨own, again⟩ := course.built_once asked inside miss after
    have alike' := alike.congr fun other => by rw [course.hooksOf]
    exact after.store alike' (course.keeps.policy.trans uses) plain inside own again

theorem Moves.listed (moves : Moves U scope e e') (closed : scope.Closed U) {policy : KeyPolicy}
    (apart : scope.Apart U policy) (resting : Resting e) (uses : e.cache.policy = policy)
    (listed : Listed U scope e) : Listed U scope e' := by
  induction moves with
  | refl => exact listed
  | tail first last ih =>
    have kept := (Moves.lasts first resting).2.keeps
    exact last.listed closed (apart.listsAlike _) (kept.policy.trans uses) ih

end Moves

end RecordSchema
