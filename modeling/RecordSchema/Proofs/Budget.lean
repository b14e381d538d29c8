import RecordSchema.Proofs.Course.Inner
import RecordSchema.Proofs.Interruption
import RecordSchema.Proofs.Soundness

/-!
# What a request may cost

Every request ends, whatever the types refer to.  The bound on nested objects that the builder
starts from plays no part in this: the rules of `Course` mention none and leave one result for each
call (`Course.deterministic`), so every builder with at least this bound gives the same answer
(`Request.outcome_runBy`).

A request inserts few objects.  Each is begun for a struct whose key the cache did not know at that
moment, and the key stays known, so no two new objects share a key and none has a key that was known
before (`Brings`).
-/

namespace RecordSchema

variable {n : Nat}

open Encoder

/-! ## The bound on nested objects -/

/-- Two builders of objects with enough room for nested objects have the same outcomes. -/
theorem outcome_objectAt (U : Universe n) {depth : Nat} (enough : n ≤ depth) (type : TypeExpr n)
    (options : List (SchemaOption n)) (e : Encoder n) :
    (Build.objectAt U depth type options).outcome e =
      (Encoder.structOfInfo U type options).outcome e := by
  obtain ⟨result₁, e₁, run₁⟩ := objectAt_ends U depth type options ((e.absent_le U).trans enough)
  obtain ⟨result₂, e₂, run₂⟩ := structOfInfo_ends U type options e
  obtain ⟨same, rfl⟩ :=
    (course_objectAt depth type options run₁).deterministic (course_object run₂)
  have equal : result₁ = result₂ := by
    cases result₁ <;> cases result₂ <;> simp_all [Except.map]
  rw [run₁, run₂, equal]

theorem objectAt_eq_structOfInfo (U : Universe n) {depth : Nat} (enough : n ≤ depth) :
    Build.objectAt U depth = Encoder.structOfInfo U := by
  funext type options e
  exact outcome_objectAt U enough type options e

/-- The building of an object calls itself for the structs that it meets. -/
theorem structOfInfo_eq_objectWith (U : Universe n) (type : TypeExpr n)
    (options : List (SchemaOption n)) :
    Encoder.structOfInfo U type options =
      Build.objectWith U (resolveType U) (U.info type.withoutPointers) options := by
  have deeper : Encoder.structOfInfo U = Build.objectAt U (n + 1) :=
    (objectAt_eq_structOfInfo U n.le_succ).symm
  rw [deeper]
  unfold Build.objectAt resolveType
  rw [Universe.withoutPointers_info, objectAt_eq_structOfInfo U le_rfl]

/-- The answer to a request does not depend on the bound on nested objects. -/
theorem Request.outcome_runBy (U : Universe n) {depth : Nat} (enough : n ≤ depth)
    (request : Request n) (e : Encoder n) :
    (request.runBy U (Build.objectAt U depth)).outcome e = (request.run U).outcome e := by
  rw [objectAt_eq_structOfInfo U enough, Request.runBy_structOfInfo]

/-! ## Structs of new objects -/

namespace Encoder

/-- The objects inserted between two states of an encoder were begun for these structs.  Their keys
were unknown, are known now, and differ from each other. -/
structure Brings (U : Universe n) (e e' : Encoder n) (structs : List (TypeExpr n)) : Prop where
  begun : e'.begun = e.begun ++ structs
  struct : ∀ struct ∈ structs, U.isStruct struct
  unknown : ∀ struct ∈ structs, e.cache.lookup U struct = none
  known : ∀ struct ∈ structs, e'.cache.lookup U struct ≠ none
  apart : (structs.map (e.cache.key U)).Nodup

namespace Brings

variable {U : Universe n} {m m' : Nat} {e e₁ e' : Encoder n} {structs structs' : List (TypeExpr n)}

/-- A change that begins no object. -/
theorem nothing (U : Universe n) (same : e'.begun = e.begun) : Brings U e e' [] where
  begun := by rw [same, List.append_nil]
  struct _ listed := nomatch listed
  unknown _ listed := nomatch listed
  known _ listed := nomatch listed
  apart := List.nodup_nil

/-- The structs of two changes, one after the other.  What the first one made known is not unknown
to the second. -/
theorem trans (first : Brings U e e₁ structs) (second : Brings U e₁ e' structs')
    (kept₁ : Keeps m e e₁) (kept₂ : Keeps m' e₁ e') : Brings U e e' (structs ++ structs') where
  begun := by rw [second.begun, first.begun, List.append_assoc]
  struct struct listed := (List.mem_append.1 listed).elim (first.struct struct)
    (second.struct struct)
  unknown struct listed := by
    rcases List.mem_append.1 listed with early | late
    · exact first.unknown struct early
    · exact lookup_eq_none_of_keeps kept₁ (second.unknown struct late)
  known struct listed := by
    rcases List.mem_append.1 listed with early | late
    · exact fun miss => first.known struct early (lookup_eq_none_of_keeps kept₂ miss)
    · exact second.known struct late
  apart := by
    have keys : e₁.cache.key U = e.cache.key U := funext fun type => kept₁.key type
    have late := second.apart
    rw [keys] at late
    rw [List.map_append]
    refine List.Nodup.append first.apart late fun key early again => ?_
    obtain ⟨struct, listed, rfl⟩ := List.mem_map.1 early
    obtain ⟨other, listed', same⟩ := List.mem_map.1 again
    rw [← keys] at same
    have miss := second.unknown other listed'
    rw [TypeCache.lookup_of_key same] at miss
    exact first.known struct listed miss

/-- The object of a struct that the cache does not know. -/
theorem begin {type : TypeExpr n} (struct : U.isStruct type)
    (miss : e.cache.lookup U type = none) (object : ObjectType) :
    Brings U e (e.begin U type object) [type] where
  begun := e.begin_begun U type object
  struct other listed := by
    rw [List.mem_singleton.1 listed]
    exact struct
  unknown other listed := by
    rw [List.mem_singleton.1 listed]
    exact miss
  known other listed := by
    rw [List.mem_singleton.1 listed, begin_cache, TypeCache.lookup_register_self]
    simp
  apart := List.nodup_singleton _

/-- An entry may be stored under any key. -/
theorem store (h : Brings U e e' structs) (type : TypeExpr n) (resolved : SchemaType) :
    Brings U e (e'.store U type resolved) structs where
  begun := h.begun
  struct := h.struct
  unknown := h.unknown
  known struct listed := by
    rw [store_cache, TypeCache.lookup_register]
    split
    · simp
    · exact h.known struct listed
  apart := h.apart

/-- A later change that keeps all entries begins no object. -/
theorem before (h : Brings U e e₁ structs) (kept : Keeps m e₁ e')
    (same : e'.begun = e₁.begun) : Brings U e e' structs where
  begun := by rw [same, h.begun]
  struct := h.struct
  unknown := h.unknown
  known struct listed miss := h.known struct listed (lookup_eq_none_of_keeps kept miss)
  apart := h.apart

/-- An earlier change that leaves the cache alone and begins no object. -/
theorem after (h : Brings U e₁ e' structs) (cache : e₁.cache = e.cache)
    (same : e₁.begun = e.begun) : Brings U e e' structs where
  begun := by rw [h.begun, same]
  struct := h.struct
  unknown := by rw [← cache]; exact h.unknown
  known := h.known
  apart := by rw [← cache]; exact h.apart

end Brings

end Encoder

section Brings

variable {U : Universe n} {scope : Scope n} {e e' : Encoder n}

theorem Course.brings {call : Call n} {result : Except EncodeError SchemaType}
    (course : Course U call e result e') : ∃ structs, Brings U e e' structs := by
  induction course with
  | pointer inner ih => exact ih
  | recorded | objectRecorded | notStruct | notSupported | done => exact ⟨[], .nothing U rfl⟩
  | recalled | objectRecalled | notAnObject =>
    exact ⟨[], .nothing U (by simp [Event.begun?])⟩
  | resolved plain miss inner ih =>
    obtain ⟨structs, brings⟩ := ih
    exact ⟨structs, brings.store _ _⟩
  | refused plain miss inner ih => exact ih
  | provided | scalar | unrecognized =>
    exact ⟨[], .nothing U (by simp [Event.begun?])⟩
  | list free other listed inner ih | struct free other struct inner ih =>
    obtain ⟨structs, brings⟩ := ih
    exact ⟨structs, brings.after rfl (by simp [Event.begun?])⟩
  | @begun type options e object fields result e' miss struct made inner ih =>
    obtain ⟨structs, brings⟩ := ih
    have first : Brings U e (e.begin U type object) [type] :=
      .begin (Universe.isStruct_of_detail struct) miss object
    have both := first.trans brings (keeps_begin U e miss object) inner.keeps
    exact ⟨type :: structs, both.before (keeps_close 0 e' _ _ _) (close_begun _ _ _ _)⟩
  | untagged untagged inner ih => exact ih
  | @tagged id path field text type rest e resolved e₁ result e' content first live inner ih₁ ih₂ =>
    obtain ⟨structs, brings⟩ := ih₁
    obtain ⟨structs', brings'⟩ := ih₂
    exact ⟨structs ++ structs', brings.trans (brings'.after (by simp) (by simp)) first.keeps
      ((keeps_expose U e₁ id path field.name (.parse text) type resolved |>.mono
        (Nat.zero_le _)).trans (inner.keeps.mono (Nat.zero_le _)))⟩
  | stopped content first ih => exact ih
  | @dangling id path field text type rest e resolved e₁ content first dead ih =>
    obtain ⟨structs, brings⟩ := ih
    have warned : Keeps 0 e₁ (e₁.warn U type (.parse text) resolved) := by
      unfold warn
      split
      · exact keeps_note 0 e₁ _
      · exact Keeps.refl 0 e₁
    exact ⟨structs, brings.before (warned.trans (keeps_meet U 0 _ _)) (by simp)⟩

theorem Move.brings (move : Move U scope e e') : ∃ structs, Brings U e e' structs := by
  cases move with
  | note other => exact ⟨[], .nothing U (by simp [other])⟩
  | register | attach => exact ⟨[], .nothing U rfl⟩
  | call asked inside course => exact course.brings
  | enter asked plain inside miss course =>
    obtain ⟨structs, brings⟩ := course.brings
    exact ⟨structs, brings.store _ _⟩

theorem Moves.brings (moves : Moves U scope e e') (resting : Resting e) :
    ∃ structs, Brings U e e' structs := by
  induction moves with
  | refl => exact ⟨[], .nothing U rfl⟩
  | tail first last ih =>
    obtain ⟨between, lasting⟩ := Moves.lasts first resting
    obtain ⟨structs, brings⟩ := ih
    obtain ⟨structs', brings'⟩ := last.brings
    exact ⟨structs ++ structs', brings.trans brings' lasting.keeps (last.lasts between).2.keeps⟩

end Brings

/-! ## The cost of a request -/

/-- The keys of structs that the cache does not know. -/
def Encoder.absentKeys (U : Universe n) (e : Encoder n) : Finset String :=
  (Finset.univ.filter fun index : Fin n =>
    U.isStruct (.declared index) ∧ e.cache.lookup U (.declared index) = none).image
      fun index => e.cache.key U (.declared index)

/-- There is an absent key for each struct that a change brings. -/
theorem Encoder.Brings.length_le {U : Universe n} {e e' : Encoder n} {structs : List (TypeExpr n)}
    (brings : Brings U e e' structs) : structs.length ≤ (e.absentKeys U).card := by
  have keys : (structs.map (e.cache.key U)).toFinset ⊆ e.absentKeys U := by
    intro key listed
    obtain ⟨type, inside, rfl⟩ := List.mem_map.1 (List.mem_toFinset.1 listed)
    have struct := brings.struct type inside
    obtain ⟨fields, detail⟩ := U.fields_of_isStruct struct
    obtain ⟨index, rfl⟩ := eq_declared_of_struct detail
    refine Finset.mem_image.2 ⟨index, ?_, rfl⟩
    simp [struct, brings.unknown _ inside]
  calc structs.length = (structs.map (e.cache.key U)).toFinset.card := by
        rw [List.toFinset_card_of_nodup brings.apart, List.length_map]
    _ ≤ (e.absentKeys U).card := Finset.card_le_card keys

/-- From every state that a session can reach every request ends, with the same answer whatever
larger bound there is on nested objects.  It inserts an object for each struct of a list: these
structs have different keys, none of which the cache knew before, so there are at most as many new
objects as there were absent keys of structs. -/
theorem Session.requests_end_within_budget (U : Universe n) {policy : KeyPolicy}
    {requests : List (Request n)} {answers : List (Except EncodeError Answer)} {e : Encoder n}
    (reached : Session.run U requests (.new U policy) = some (answers, e))
    (request : Request n) :
    ∃ answer e' structs,
      (request.run U).outcome e = some (answer, e') ∧
      (∀ depth, n ≤ depth →
        (request.runBy U (Build.objectAt U depth)).outcome e = some (answer, e')) ∧
      e'.begun = e.begun ++ structs ∧
      e'.arena.size = e.arena.size + structs.length ∧
      (structs.map (e.cache.key U)).Nodup ∧
      (∀ struct ∈ structs, U.isStruct struct ∧ e.cache.lookup U struct = none) ∧
      e'.arena.size ≤ e.arena.size + (e.absentKeys U).card := by
  have whole := Scope.closed_everything U
  obtain ⟨_, _, run, resting, -⟩ := Session.lasts U requests (resting_new U policy)
  rw [reached] at run
  cases run
  obtain ⟨answer, e', ends, moves, -⟩ := Request.serves whole request.within_everything e
  obtain ⟨structs, brings⟩ := Moves.brings moves resting
  have after := (Moves.lasts moves resting).1
  have size : e'.arena.size = e.arena.size + structs.length := by
    rw [← after.journal, brings.begun, List.length_append, resting.journal]
  refine ⟨answer, e', structs, ends, fun depth enough => ?_, brings.begun, size, brings.apart,
    fun struct listed => ⟨brings.struct struct listed, brings.unknown struct listed⟩, ?_⟩
  · rw [Request.outcome_runBy U enough, ends]
  · rw [size]
    exact Nat.add_le_add_left brings.length_le _

/-- After a node was built, the two structs that refer to each other are asked for.  The bare name
of the struct in `money` is known, since it is that of the node. -/
theorem Sample.requests_end_within_budget_on_cycles :
    ∃ answers e answer e', ∃ structs : List (TypeExpr 4),
      Session.run types [.structOf node []] (.new types .bareName) = some (answers, e) ∧
      (e.absentKeys types).card = 2 ∧
      ((Request.arrayOf part []).run types).outcome e = some (answer, e') ∧
      (∀ depth, 4 ≤ depth →
        ((Request.arrayOf part []).runBy types (Build.objectAt types depth)).outcome e =
          some (answer, e')) ∧
      structs.length = 2 ∧ (structs.map (e.cache.key types)).Nodup ∧
      (∀ struct ∈ structs, types.isStruct struct ∧ e.cache.lookup types struct = none) ∧
      e'.arena.size ≤ e.arena.size + (e.absentKeys types).card := by
  obtain ⟨answers, e, reached, -⟩ := Session.lasts types [.structOf node []]
    (resting_new types .bareName)
  obtain ⟨answer, e', structs, run, bounded, -, size, apart, unknown, few⟩ :=
    Session.requests_end_within_budget types reached (.arrayOf part [])
  have measured : ((Session.run types [.structOf node []] (.new types .bareName)).bind fun r =>
      (((Request.arrayOf part []).run types).outcome r.2).map fun r' =>
        ((r.2.absentKeys types).card, r.2.arena.size, r'.2.arena.size)) = some (2, 1, 3) := by
    decide +kernel
  rw [reached, Option.bind_some, run] at measured
  simp only [Option.map_some, Option.some.injEq, Prod.mk.injEq] at measured
  obtain ⟨absent, before, after⟩ := measured
  exact ⟨answers, e, answer, e', structs, reached, absent, run, bounded, by omega, apart, unknown,
    few⟩

end RecordSchema
