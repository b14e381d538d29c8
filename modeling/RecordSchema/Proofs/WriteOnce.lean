import RecordSchema.Proofs.Course.Inner
import RecordSchema.Proofs.Soundness
import RecordSchema.Proofs.Twins

/-!
# When cache entries are written once

A list enters the cache only after its item was resolved, and it enters it without another look.  So
what was cached under its key in the meantime is overwritten, and a type that was resolved to the
old entry resolves to another one later (`Sample.ring_entry_is_replaced`).

This takes a list and another type with one key.  If whatever has the key of a list is itself a
list, of items with one key, then every entry is written with what it has already: no entry is ever
replaced, and all types of one key resolve alike, between builds and inside one
(`Moves.entries_are_written_once`).
-/

namespace RecordSchema

variable {n : Nat}

open Encoder

/-! ## Coherent encoders -/

/-- Whatever has the key of a list is itself a list, of items with the same key. -/
def Scope.ListsAlike (U : Universe n) (policy : KeyPolicy) (scope : Scope n) : Prop :=
  ∀ list other item, scope.type list → scope.type other → list.item? = some item →
    other.isPointer = false → policy.text U list = policy.text U other →
      list = other ∨ ∃ item', other.item? = some item' ∧
        policy.text U item.withoutPointers = policy.text U item'.withoutPointers

/-- What holds at every moment of a run in which lists are alike. -/
structure Encoder.Coherent (U : Universe n) (policy : KeyPolicy) (scope : Scope n) (e : Encoder n) :
    Prop where
  alike : ListsAlike U policy scope e
  listed : Listed U scope e
  policy : e.cache.policy = policy

section Coherent

variable {U : Universe n} {policy : KeyPolicy} {scope : Scope n} {type : TypeExpr n}
  {e e₁ e' : Encoder n} {call inner : Call n} {result : Except EncodeError SchemaType}

namespace Encoder.Coherent

theorem met (coherent : Coherent U policy scope e) (path : String) (type : TypeExpr n) :
    Coherent U policy scope ((e.note (.resolving path)).meet U type) where
  policy := coherent.policy
  alike := coherent.alike.met rfl
  listed := coherent.listed.met path type

theorem begin (coherent : Coherent U policy scope e) (inside : scope.type type)
    {fields : List (RecordField n)} (struct : U.detail type = .struct fields)
    (miss : e.cache.lookup U type = none) (object : ObjectType) :
    Coherent U policy scope (e.begin U type object) where
  policy := coherent.policy
  alike := coherent.alike.congr fun _ => rfl
  listed := coherent.listed.begin coherent.alike coherent.policy inside struct miss object

theorem expose (coherent : Coherent U policy scope e) (id : ObjectId) (path name : String)
    (tag : FieldTag) (type : TypeExpr n) (resolved : SchemaType) :
    Coherent U policy scope (e.expose U id path name tag type resolved) where
  policy := by rw [expose_cache, coherent.policy]
  alike := coherent.alike.met (e.expose_registry U id path name tag type resolved)
  listed := coherent.listed.expose id path name tag type resolved

theorem after (coherent : Coherent U policy scope e) (closed : scope.Closed U)
    (within : call.Within scope) (course : Course U call e result e') :
    Coherent U policy scope e' where
  policy := course.keeps.policy.trans coherent.policy
  alike := coherent.alike.congr fun type => by rw [course.hooksOf]
  listed := course.listed closed coherent.alike coherent.policy within coherent.listed

end Encoder.Coherent

/-- Every call on the way starts on a coherent encoder. -/
theorem Call.Makes.coherent {start : Encoder n} (makes : call.Makes U e inner start)
    (closed : scope.Closed U) (within : call.Within scope) (coherent : Coherent U policy scope e) :
    inner.Within scope ∧ Coherent U policy scope start := by
  induction makes with
  | self => exact ⟨within, coherent⟩
  | pointee makes ih => exact ih (closed.pointee _ _ within) coherent
  | build plain miss makes ih => exact ih within coherent
  | item free listed makes ih => exact ih (closed.item _ _ listed within) (coherent.met _ _)
  | object free struct makes ih => exact ih within (coherent.met _ _)
  | @walk type options e object fields inner start miss struct made makes ih =>
    exact ih (fun field listed text content tagged =>
      closed.field type fields field text content struct listed tagged within)
      (coherent.begin within struct miss object)
  | skip untagged makes ih =>
    exact ih (fun other listed => within other (List.mem_cons_of_mem _ listed)) coherent
  | field content makes ih => exact ih (within _ List.mem_cons_self _ _ content) coherent
  | next content first live makes ih =>
    have own : (Call.resolve _).Within scope := within _ List.mem_cons_self _ _ content
    exact ih (fun other listed => within other (List.mem_cons_of_mem _ listed))
      ((coherent.after closed own first).expose _ _ _ _ _ _)

/-- A type that was built is stored over nothing but itself. -/
theorem Encoder.Coherent.keeps_store (coherent : Coherent U policy scope e)
    (closed : scope.Closed U) {built : SchemaType} (course : Course U call e (.ok built) e')
    (asked : call.type? = some type) (inside : scope.type type)
    (miss : e.cache.lookup U type = none) {key : String} {found : SchemaType}
    (stored : e'.cache.types.get? key = some found) :
    (e'.store U type built).cache.types.get? key = some found := by
  have after := coherent.after closed (Call.within_of_asked asked inside) course
  obtain ⟨-, again⟩ := course.built_once asked inside miss after.listed
  rw [store_cache, TypeCache.types_register]
  split
  · next same =>
    rw [← again found (by rw [TypeCache.lookup, same, stored])]
  · exact stored

/-- What a call on the way leaves in the cache is still there when the whole call ends. -/
theorem Call.Makes.entries_stand {start stop : Encoder n} (makes : call.Makes U e inner start)
    (closed : scope.Closed U) (within : call.Within scope) (coherent : Coherent U policy scope e)
    (course : Course U call e result e') {result' : Except EncodeError SchemaType}
    (ended : Course U inner start result' stop) {key : String} {found : SchemaType}
    (stored : stop.cache.types.get? key = some found) :
    e'.cache.types.get? key = some found := by
  induction makes generalizing result e' with
  | self =>
    obtain ⟨-, rfl⟩ := course.deterministic ended
    exact stored
  | pointee makes ih =>
    cases course with
    | pointer inner => exact ih (closed.pointee _ _ within) coherent inner ended
    | recorded plain | recalled plain | resolved plain | refused plain => cases plain
  | build plain miss makes ih =>
    cases course with
    | pointer => cases plain
    | recorded _ hit | recalled _ hit =>
      rw [miss] at hit
      cases hit
    | resolved _ _ inner =>
      exact coherent.keeps_store closed inner rfl within miss (ih within coherent inner ended)
    | refused _ _ inner => exact ih within coherent inner ended
  | item free listed makes ih =>
    cases course with
    | list _ _ listed' inner =>
      cases listed.symm.trans listed'
      exact ih (closed.item _ _ listed within) (coherent.met _ _) inner ended
    | provided hook =>
      rw [free] at hook
      cases hook
    | scalar _ native =>
      rw [scalar?_eq_none_of_item listed] at native
      cases native
    | struct _ _ struct =>
      rw [item?_eq_none_of_struct struct] at listed
      cases listed
    | unrecognized _ _ unlisted =>
      rw [unlisted] at listed
      cases listed
  | object free struct makes ih =>
    cases course with
    | struct _ _ _ inner => exact ih within (coherent.met _ _) inner ended
    | provided hook =>
      rw [free] at hook
      cases hook
    | scalar _ native =>
      rw [scalar?_eq_none_of_struct struct] at native
      cases native
    | list _ _ listed =>
      rw [item?_eq_none_of_struct struct] at listed
      cases listed
    | unrecognized _ _ _ noStruct =>
      rw [struct] at noStruct
      cases noStruct
  | @walk type options e object fields inner start miss struct made makes ih =>
    cases course with
    | objectRecorded hit | objectRecalled hit | notAnObject hit =>
      rw [miss] at hit
      cases hit
    | notStruct _ noStruct =>
      rw [Universe.isStruct_of_detail struct] at noStruct
      cases noStruct
    | notSupported _ _ refusal =>
      rw [made] at refusal
      cases refusal
    | begun _ struct' made' inner =>
      cases struct.symm.trans struct'
      cases made.symm.trans made'
      rw [close_types]
      exact ih (fun field listed text content tagged =>
        closed.field type fields field text content struct listed tagged within)
        (coherent.begin within struct miss object) inner ended
  | skip untagged makes ih =>
    cases course with
    | untagged _ inner =>
      exact ih (fun other listed => within other (List.mem_cons_of_mem _ listed)) coherent inner
        ended
    | tagged content | stopped content | dangling content =>
      exact absurd untagged (RecordField.tag?_ne_none_of_tagged content)
  | field content makes ih =>
    have own := within _ List.mem_cons_self _ _ content
    cases course with
    | untagged untagged => exact absurd untagged (RecordField.tag?_ne_none_of_tagged content)
    | tagged content' first live inner =>
      cases content.symm.trans content'
      refine inner.keeps.entries _ _ ?_
      rw [expose_cache]
      exact ih own coherent first ended
    | stopped content' first =>
      cases content.symm.trans content'
      exact ih own coherent first ended
    | dangling content' first dead =>
      cases content.symm.trans content'
      rw [meet_cache, warn_cache]
      exact ih own coherent first ended
  | next content first live makes ih =>
    have own : (Call.resolve _).Within scope := within _ List.mem_cons_self _ _ content
    have exposed := (coherent.after closed own first).expose
    cases course with
    | untagged untagged => exact absurd untagged (RecordField.tag?_ne_none_of_tagged content)
    | tagged content' first' live' inner =>
      cases content.symm.trans content'
      obtain ⟨⟨⟩, rfl⟩ := first.deterministic first'
      exact ih (fun other listed => within other (List.mem_cons_of_mem _ listed))
        (exposed _ _ _ _ _ _) inner ended
    | stopped content' first' =>
      cases content.symm.trans content'
      obtain ⟨same, -⟩ := first.deterministic first'
      cases same
    | dangling content' first' dead =>
      cases content.symm.trans content'
      obtain ⟨-, rfl⟩ := first.deterministic first'
      rw [live] at dead
      cases dead

/-- What a call on the way resolves a type to is what the cache has for it when the whole call
ends. -/
theorem Call.Makes.lookup_stands {start stop : Encoder n} {resolved : SchemaType}
    (makes : call.Makes U e (.resolve type) start) (closed : scope.Closed U)
    (within : call.Within scope) (coherent : Coherent U policy scope e)
    (course : Course U call e result e')
    (ended : Course U (.resolve type) start (.ok resolved) stop) :
    e'.cache.lookup U type = some resolved := by
  have stored := ended.lookup_of_resolve
  have starts := (makes.coherent closed within coherent).2
  rw [TypeCache.lookup_eq, ended.keeps.policy, starts.policy] at stored
  rw [TypeCache.lookup_eq, course.keeps.policy, coherent.policy]
  exact makes.entries_stand closed within coherent course ended stored

end Coherent

/-! ## Runs -/

/-- On a move from `e` an entry is stored while the cache is that of `moment`: a resolved type is
stored by the call that resolved it or by the request that asked for it, and a struct before its
object is populated. -/
inductive Move.Stores (U : Universe n) (scope : Scope n) (e : Encoder n) :
    TypeExpr n → SchemaType → Encoder n → Prop
  | resolved {call : Call n} {asked type start built moment} (about : call.type? = some asked)
      (inside : scope.type asked) (makes : call.Makes U e (.resolve type) start)
      (miss : start.cache.lookup U type = none)
      (course : Course U (.build type) start (.ok built) moment) :
      Stores U scope e type built moment
  | begun {call : Call n} {asked type options moment} (about : call.type? = some asked)
      (inside : scope.type asked) (makes : call.Makes U e (.object type options) moment)
      (miss : moment.cache.lookup U type = none) :
      Stores U scope e type (.object moment.arena.nextId) moment
  | entered {call : Call n} {type built moment} (about : call.type? = some type)
      (inside : scope.type type) (miss : e.cache.lookup U type = none)
      (course : Course U call e (.ok built) moment) :
      Stores U scope e type built moment

/-- On a move a type is resolved, by the call of the move or by one on its way. -/
inductive Move.Resolves (U : Universe n) (scope : Scope n) :
    Encoder n → Encoder n → TypeExpr n → SchemaType → Prop
  | call {call : Call n} {asked e result e' type start resolved stop}
      (about : call.type? = some asked) (inside : scope.type asked)
      (course : Course U call e result e') (makes : call.Makes U e (.resolve type) start)
      (ended : Course U (.resolve type) start (.ok resolved) stop) :
      Resolves U scope e e' type resolved
  | entered {call : Call n} {asked e built e' type start resolved stop}
      (about : call.type? = some asked) (plain : asked.isPointer = false)
      (inside : scope.type asked) (miss : e.cache.lookup U asked = none)
      (course : Course U call e (.ok built) e')
      (makes : call.Makes U e (.resolve type) start)
      (ended : Course U (.resolve type) start (.ok resolved) stop) :
      Resolves U scope e (e'.store U asked built) type resolved

/-- A type is resolved on one of the moves from `e` to `e'`. -/
def Moves.Resolve (U : Universe n) (scope : Scope n) (e e' : Encoder n) (type : TypeExpr n)
    (resolved : SchemaType) : Prop :=
  ∃ start stop, Moves U scope e start ∧ Move.Resolves U scope start stop type resolved ∧
    Moves U scope stop e'

section Runs

variable {U : Universe n} {policy : KeyPolicy} {scope : Scope n} {type : TypeExpr n}
  {e e' : Encoder n} {resolved : SchemaType}

/-- Hooks that provide no type change no provider. -/
theorem Encoder.provider_attach (e : Encoder n) (type other : TypeExpr n) {hook : Hook}
    (unprovided : ∀ given, hook ≠ .typeProvider given) :
    ((e.know (e.registry.attach type hook)).hooksOf U other).typeProvider =
      (e.hooksOf U other).typeProvider := by
  rw [hooksOf_attach]
  split
  · rw [Hooks.typeProvider_attach]
    cases hook with
    | typeProvider given => exact absurd rfl (unprovided given)
    | resolverProvider | custom => rfl
  · rfl

theorem Move.provider (move : Move U scope e e')
    (unprovided : ∀ given, ¬ scope.hook (.typeProvider given)) (type : TypeExpr n) :
    (e'.hooksOf U type).typeProvider = (e.hooksOf U type).typeProvider := by
  cases move with
  | note => rfl
  | register grown => rw [hooksOf_know grown]
  | attach allowed =>
    refine provider_attach e _ type ?_
    rintro given rfl
    exact unprovided given allowed
  | call _ _ course => rw [course.hooksOf]
  | enter _ _ _ _ course => rw [← course.hooksOf]; rfl

theorem Scope.ListsAlike.new (alike : scope.ListsAlike U policy) :
    Coherent U policy scope (.new U policy) where
  alike := by
    intro list other item insideList insideOther listed plain same
    refine (alike list other item insideList insideOther listed plain same).imp_right ?_
    rintro ⟨item', listed', sameItem⟩
    refine ⟨item', listed', sameItem, ?_⟩
    -- Lists bring no hooks along.
    rw [hooksOf_new]
    cases other with
    | list | array => rfl
    | native | declared | pointer | map => cases listed'
  listed := listed_new U scope policy
  policy := rfl

variable (closed : scope.Closed U) (unprovided : ∀ given, ¬ scope.hook (.typeProvider given))

include closed unprovided

theorem Move.coherent (move : Move U scope e e') (coherent : Coherent U policy scope e) :
    Coherent U policy scope e' where
  alike := coherent.alike.congr (move.provider unprovided)
  listed := move.listed closed coherent.alike coherent.policy coherent.listed
  policy := by
    cases move with
    | note | register | attach => exact coherent.policy
    | call _ _ course => exact course.keeps.policy.trans coherent.policy
    | enter _ _ _ _ course => exact course.keeps.policy.trans coherent.policy

theorem Moves.coherent (moves : Moves U scope e e') (coherent : Coherent U policy scope e) :
    Coherent U policy scope e' := by
  induction moves with
  | refl => exact coherent
  | tail _ last ih => exact last.coherent closed unprovided ih

omit unprovided in
/-- What was resolved on a move is what the cache has for the type after it. -/
theorem Move.Resolves.lookup (resolves : Move.Resolves U scope e e' type resolved)
    (coherent : Coherent U policy scope e) : e'.cache.lookup U type = some resolved := by
  cases resolves with
  | call about inside course makes ended =>
    exact makes.lookup_stands closed (Call.within_of_asked about inside) coherent course ended
  | entered about plain inside miss course makes ended =>
    exact coherent.keeps_store closed course about inside miss
      (makes.lookup_stands closed (Call.within_of_asked about inside) coherent course ended)

omit closed unprovided in
theorem Move.Resolves.move (resolves : Move.Resolves U scope e e' type resolved) :
    Move U scope e e' := by
  cases resolves with
  | call about inside course => exact .call about inside course
  | entered about plain inside miss course => exact .enter about plain inside miss course

/-- What was resolved on moves is what the cache has for the type in the end. -/
theorem Moves.Resolve.lookup (resolve : Moves.Resolve U scope e e' type resolved)
    (coherent : Coherent U policy scope e) (resting : Resting e) :
    e'.cache.lookup U type = some resolved := by
  obtain ⟨start, stop, toStart, resolves, fromStop⟩ := resolve
  have found := resolves.lookup closed (toStart.coherent closed unprovided coherent)
  have after := (Moves.lasts (toStart.tail resolves.move) resting).1
  exact (fromStop.lasts after).2.keeps.lookup found

/-- **Entries are written once where lists are alike.**  In every run of a new encoder that attaches
no provider, whatever is stored under a key for which there is an entry already equals this entry.
Any two types of the same key that are resolved on the way, be it inside one build, resolve alike.
-/
theorem Moves.entries_are_written_once (alike : scope.ListsAlike U policy)
    (run : Moves U scope (.new U policy) e) :
    (∀ type stored moment, Move.Stores U scope e type stored moment →
      ∀ found, moment.cache.lookup U type = some found → found = stored) ∧
    ∀ a b resolved resolved', Moves.Resolve U scope (.new U policy) e a resolved →
      Moves.Resolve U scope (.new U policy) e b resolved' →
        policy.text U a.withoutPointers = policy.text U b.withoutPointers →
          resolved = resolved' := by
  have coherent := run.coherent closed unprovided alike.new
  constructor
  · intro type stored moment stores found hit
    cases stores with
    | @resolved call asked _ start _ _ about inside makes miss course =>
      obtain ⟨own, starts⟩ := makes.coherent closed (Call.within_of_asked about inside) coherent
      have within : (Call.build type).Within scope := own
      have after := starts.after closed within course
      exact (course.built_once rfl within miss after.listed).2 found hit
    | begun about inside makes miss =>
      rw [miss] at hit
      cases hit
    | entered about inside miss course =>
      have after := coherent.after closed (Call.within_of_asked about inside) course
      exact (course.built_once about inside miss after.listed).2 found hit
  · intro a b resolved resolved' first second same
    have hit := first.lookup closed unprovided alike.new (resting_new U policy)
    have hit' := second.lookup closed unprovided alike.new (resting_new U policy)
    rw [TypeCache.lookup_eq, coherent.policy] at hit hit'
    rw [same, hit'] at hit
    exact (Option.some.inj hit).symm

end Runs

namespace Sample

/-- The two structs of one bare name, and lists of both. -/
def nodes : List (TypeExpr 4) :=
  [node, .declared 3, .list .vec node, .list .vec (.declared 3),
   .pointer .option (.pointer .box node), .pointer .box node, .primitive .u32, .primitive .f64]

/-- Sessions about the nodes that attach no provider. -/
def nodeScope : Scope 4 where
  hook hook := ∀ given, hook ≠ .typeProvider given
  type type := type ∈ nodes

theorem closed_nodeScope : nodeScope.Closed types :=
  Scope.closed_of_dependencies (by unfold nodeScope; decide)

theorem listsAlike_nodeScope : nodeScope.ListsAlike types .bareName := by
  have alike : ∀ list ∈ nodes, ∀ other ∈ nodes, list.item?.isSome → other.isPointer = false →
      KeyPolicy.text .bareName types list = KeyPolicy.text .bareName types other →
        (list.item?).map (fun item => KeyPolicy.text .bareName types item.withoutPointers) =
          (other.item?).map fun item => KeyPolicy.text .bareName types item.withoutPointers := by
    decide +kernel
  intro list other item insideList insideOther listed plain same
  have equal := alike list insideList other insideOther (by simp [listed]) plain same
  rw [listed, Option.map_some] at equal
  obtain ⟨item', listed', sameItem⟩ := Option.map_eq_some_iff.1 equal.symm
  exact .inr ⟨item', listed', sameItem.symm⟩

end Sample

/-- The lists of the two structs resolve alike, though a provider decides for one of the structs. -/
theorem Sample.lists_of_nodes_resolve_alike :
    ∃ e₁ e₂ resolved,
      (resolveType types (.list .vec node)).outcome (.new types .bareName) =
        some (.ok resolved, e₁) ∧
      (resolveType types (.list .vec (.declared 3))).outcome e₁ = some (.ok resolved, e₂) := by
  have success : ((resolveType types (.list .vec node)).outcome (.new types .bareName)).bind
      (fun r => ((resolveType types (.list .vec (.declared 3))).outcome r.2).map fun r' =>
        r.1.isOk && r'.1.isOk) = some true := by
    decide +kernel
  obtain ⟨⟨first, e₁⟩, run, success⟩ := Option.bind_eq_some_iff.1 success
  obtain ⟨⟨second, e₂⟩, run', ok⟩ := Option.map_eq_some_iff.1 success
  cases first with
  | error => cases ok
  | ok resolved =>
    cases second with
    | error => cases ok
    | ok resolved' =>
      have course := course_resolve run
      have course' := course_resolve run'
      have inside : nodeScope.type (.list .vec node) := by unfold nodeScope; decide
      have inside' : nodeScope.type (.list .vec (.declared 3)) := by unfold nodeScope; decide
      have move : Move types nodeScope (.new types .bareName) e₁ := .call rfl inside course
      have move' : Move types nodeScope e₁ e₂ := .call rfl inside' course'
      have same := (Moves.entries_are_written_once closed_nodeScope (fun given allowed =>
        allowed given rfl) listsAlike_nodeScope (.tail (.single move) move')).2 _ _ _ _
        ⟨_, _, .refl, .call rfl inside course .self course, .single move'⟩
        ⟨_, _, .single move, .call rfl inside' course' .self course', .refl⟩ (by decide +kernel)
      subst same
      exact ⟨e₁, e₂, resolved, run, run'⟩

/-! ## Nodes of a ring -/

namespace Sample

/-- A node and its ring, a struct of its own whose bare name is that of the list of nodes. -/
def rings : Universe 2 where
  declaration
    | 0 =>
      { path := "app::Node", name := "Node"
        body := .struct [⟨"ring", .tagged "ring" (.declared 1)⟩] }
    | 1 =>
      { path := "ring::Vec<app::Node>", name := "Vec<Node>"
        body := .struct [⟨"size", .tagged "size" (.primitive .u32)⟩] }

end Sample

/-- Under bare names, the build of the list of nodes resolves the ring to its own object, which is
the type of a field then, and afterwards caches the list in the place of this object.  From then on
the ring resolves to the list. -/
theorem Sample.ring_entry_is_replaced :
    (Session.run rings [.resolveType (.list .vec (.declared 0)), .resolveType (.declared 1)]
        (.new rings .bareName)).map (fun r =>
      (r.1, (r.2.arena.get? ⟨1⟩).bind fun node => (node.field? "ring").map Field.type,
        r.2.cache.lookup rings (.declared 1))) =
      some ([.ok (.type (.list (.object ⟨1⟩))), .ok (.type (.list (.object ⟨1⟩)))],
        some (.object ⟨2⟩), some (.list (.object ⟨1⟩))) := by
  decide +kernel

end RecordSchema
