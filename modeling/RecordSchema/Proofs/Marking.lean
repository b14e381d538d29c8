import RecordSchema.Proofs.Termination

/-!
# Which objects a failed build marks

Inside an object build every new object is put on the list of begun objects, and nothing is marked.
Where no object is in progress, a call that fails marks exactly the objects that it inserted, each
with its own error, and a call that succeeds marks none; either way the list is empty again.  The
induction in `Course.accounts` carries both halves at once: the outermost build learns from the
first half that the list holds all its objects.
-/

namespace RecordSchema

variable {n : Nat}

namespace Encoder

/-- What always holds of the bookkeeping: the journal tells the struct of each object, and only
objects of the arena are marked or in progress. -/
structure Tidy (e : Encoder n) : Prop where
  journal : e.begun.length = e.arena.size
  marked : ∀ id error, e.cache.failures.get? id = some error → e.arena.contains id
  building : ∀ id ∈ e.building, e.arena.contains id

/-- The struct that an object was begun for. -/
def struct? (e : Encoder n) (id : ObjectId) : Option (TypeExpr n) :=
  match id.number with
  | 0 => none
  | position + 1 => e.begun[position]?

theorem Tidy.live_of_struct? {e : Encoder n} (h : Tidy e) {id : ObjectId} {struct : TypeExpr n}
    (begun : e.struct? id = some struct) : e.arena.contains id := by
  obtain ⟨_ | position⟩ := id
  · cases begun
  · have inside := (List.getElem?_eq_some_iff.1 begun).1
    rw [h.journal] at inside
    exact (e.arena.contains_iff _).2 ⟨Nat.succ_pos _, inside⟩

theorem Tidy.struct?_of_live {e : Encoder n} (h : Tidy e) {id : ObjectId}
    (live : e.arena.contains id) : ∃ struct, e.struct? id = some struct := by
  obtain ⟨pos, inside⟩ := (e.arena.contains_iff id).1 live
  obtain ⟨_ | position⟩ := id
  · cases pos
  · rw [← h.journal] at inside
    exact ⟨_, List.getElem?_eq_getElem inside⟩

theorem Keeps.struct? {m : Nat} {e e' : Encoder n} (h : Keeps m e e') {id : ObjectId}
    {struct : TypeExpr n} (begun : e.struct? id = some struct) : e'.struct? id = some struct := by
  obtain ⟨later, grown⟩ := h.begun
  obtain ⟨_ | position⟩ := id
  · cases begun
  · have inside := (List.getElem?_eq_some_iff.1 begun).1
    change e'.begun[position]? = some struct
    rw [← grown, List.getElem?_append_left inside]
    exact begun

/-- A new object is begun for the struct that it is named after. -/
theorem Tidy.struct?_nextId {e : Encoder n} (h : Tidy e) (U : Universe n) (struct : TypeExpr n)
    (object : ObjectType) : (e.begin U struct object).struct? e.arena.nextId = some struct := by
  change (e.begin U struct object).begun[e.arena.size]? = some struct
  rw [begin_begun, ← h.journal]
  simp

/-- An object that was inserted between two states of an encoder. -/
def New (e e' : Encoder n) (id : ObjectId) : Prop :=
  e.arena.size < id.number ∧ id.number ≤ e'.arena.size

theorem New.live {e e' : Encoder n} {id : ObjectId} (h : New e e' id) : e'.arena.contains id :=
  (e'.arena.contains_iff id).2 ⟨by have := h.1; omega, h.2⟩

theorem not_new_of_live {e e' : Encoder n} {id : ObjectId} (live : e.arena.contains id) :
    ¬ New e e' id := fun new => by
  have inside := (e.arena.contains_iff id).1 live
  have outside := new.1
  omega

theorem not_new_of_size {e e' : Encoder n} (size : e'.arena.size = e.arena.size) (id : ObjectId) :
    ¬ New e e' id := by
  rintro ⟨above, below⟩
  omega

/-- The live objects of a grown arena are the old ones and the new ones. -/
theorem live_or_new {e e' : Encoder n} {id : ObjectId} (live : e'.arena.contains id) :
    e.arena.contains id ∨ New e e' id := by
  rw [Arena.contains_iff] at live ⊢
  unfold New
  omega

theorem Tidy.unmarked {e e' : Encoder n} (h : Tidy e) {id : ObjectId} (new : New e e' id) :
    e.cache.failures.get? id = none := by
  cases mark : e.cache.failures.get? id with
  | none => rfl
  | some error => exact absurd new (not_new_of_live (h.marked id error mark))

theorem new_begin_iff (U : Universe n) (e e' : Encoder n) (struct : TypeExpr n)
    (object : ObjectType) (grown : (e.begin U struct object).arena.size ≤ e'.arena.size)
    (id : ObjectId) :
    New e e' id ↔ id = e.arena.nextId ∨ New (e.begin U struct object) e' id := by
  have same : id = e.arena.nextId ↔ id.number = e.arena.size + 1 := by
    obtain ⟨number⟩ := id
    exact ⟨fun h => by rw [h]; rfl, fun h => by unfold Arena.nextId; rw [← h]⟩
  rw [same]
  unfold New
  rw [begin_arena, Arena.size_insert] at grown ⊢
  omega

theorem new_trans_iff {m m' : Nat} {e e₁ e' : Encoder n} (first : Keeps m e e₁)
    (second : Keeps m' e₁ e') (id : ObjectId) : New e e' id ↔ New e e₁ id ∨ New e₁ e' id := by
  have := first.size
  have := second.size
  unfold New
  omega

section Steps

variable (U : Universe n) {e : Encoder n}

theorem Tidy.note (h : Tidy e) {event : Event n} (other : event.begun? = none) :
    Tidy (e.note event) where
  journal := by simpa [other] using h.journal
  marked := h.marked
  building := h.building

theorem Tidy.meet (h : Tidy e) (type : TypeExpr n) : Tidy (e.meet U type) :=
  ⟨h.journal, h.marked, h.building⟩

theorem Tidy.store (h : Tidy e) (type : TypeExpr n) (resolved : SchemaType) :
    Tidy (e.store U type resolved) :=
  ⟨h.journal, h.marked, h.building⟩

theorem Tidy.begin (h : Tidy e) (struct : TypeExpr n) (object : ObjectType) :
    Tidy (e.begin U struct object) where
  journal := by simp [h.journal]
  marked id error mark := by
    have live := h.marked id error mark
    rw [Arena.contains_iff] at live ⊢
    rw [begin_arena, Arena.size_insert]
    omega
  building id started := by
    rw [begin_building, List.mem_append, List.mem_singleton] at started
    rw [Arena.contains_iff, begin_arena, Arena.size_insert]
    rcases started with old | rfl
    · have live := (e.arena.contains_iff id).1 (h.building id old)
      omega
    · rw [Arena.number_nextId]
      omega

theorem Tidy.close (h : Tidy e) {α : Type} (outermost : Bool) (path : String)
    (result : Except EncodeError α) : Tidy (e.close outermost path result) where
  journal := by rw [close_begun, close_arena, h.journal]
  marked id error mark := by
    rw [close_arena]
    cases outermost with
    | false => exact h.marked id error mark
    | true =>
      cases result with
      | ok _ => exact h.marked id error mark
      | error reason =>
        change (Encoder.marked e.cache e.building reason).failures.get? id = some error at mark
        rw [failures_marked] at mark
        split at mark
        · next started => exact h.building id started
        · exact h.marked id error mark
  building id started := by
    rw [close_arena]
    cases outermost with
    | false => exact h.building id started
    | true => cases result <;> cases started

theorem Tidy.warn (h : Tidy e) (type : TypeExpr n) (tag : FieldTag) (resolved : SchemaType) :
    Tidy (e.warn U type tag resolved) := by
  unfold Encoder.warn
  split
  · exact h.note rfl
  · exact h

theorem Tidy.expose (h : Tidy e) (id : ObjectId) (structPath fieldName : String) (tag : FieldTag)
    (type : TypeExpr n) (resolved : SchemaType) :
    Tidy (e.expose U id structPath fieldName tag type resolved) where
  journal := by simpa using h.journal
  marked other error mark := by
    rw [expose_cache] at mark
    rw [contains_expose]
    exact h.marked other error mark
  building other started := by
    rw [expose_building] at started
    rw [contains_expose]
    exact h.building other started

end Steps

end Encoder

open Encoder

/-- The error of a result, none if it is a success. -/
def reason? {α : Type} : Except EncodeError α → Option EncodeError
  | .ok _ => none
  | .error error => some error

@[simp] theorem reason?_map {α β : Type} (f : α → β) (result : Except EncodeError α) :
    reason? (result.map f) = reason? result := by
  cases result <;> rfl

/-- What a call does to the list of begun objects and to the marks. -/
structure Accounts (e : Encoder n) (result : Except EncodeError SchemaType) (e' : Encoder n) :
    Prop where
  tidy : Tidy e'
  /-- The marks of the objects that were there before are the same after. -/
  old : ∀ id, ¬ New e e' id → e'.cache.failures.get? id = e.cache.failures.get? id
  /-- Inside an object build, new objects are in progress and not marked. -/
  inside : e.building ≠ [] →
    (∀ id, id ∈ e'.building ↔ id ∈ e.building ∨ New e e' id) ∧
      ∀ id, New e e' id → e'.cache.failures.get? id = none
  /-- Outside, nothing is left in progress, and new objects are marked if the call failed. -/
  outside : e.building = [] →
    e'.building = [] ∧ ∀ id, New e e' id → e'.cache.failures.get? id = reason? result

namespace Accounts

variable {e e₁ e' : Encoder n} {result : Except EncodeError SchemaType}

/-- A call that inserts no object and leaves the bookkeeping alone. -/
theorem of_same (tidy : Tidy e') (size : e'.arena.size = e.arena.size)
    (building : e'.building = e.building) (failures : e'.cache.failures = e.cache.failures) :
    Accounts e result e' := by
  have none_new : ∀ id, ¬ New e e' id := not_new_of_size size
  exact {
    tidy := tidy
    old := fun id _ => by rw [failures]
    inside := fun _ =>
      ⟨fun id => by simp [building, none_new], fun id new => (none_new id new).elim⟩
    outside := fun free => ⟨by rw [building, free], fun id new => (none_new id new).elim⟩ }

/-- A call that begins by changes to neither arena nor bookkeeping. -/
theorem after (size : e₁.arena.size = e.arena.size) (building : e₁.building = e.building)
    (failures : e₁.cache.failures = e.cache.failures) (h : Accounts e₁ result e') :
    Accounts e result e' := by
  have same : ∀ id, New e e' id ↔ New e₁ e' id := fun id => by
    unfold New
    rw [size]
  constructor
  · exact h.tidy
  · intro id old
    rw [h.old id (fun new => old ((same id).2 new)), failures]
  · intro busy
    have inside := h.inside (by rwa [building])
    refine ⟨fun id => ?_, fun id new => inside.2 id ((same id).1 new)⟩
    rw [inside.1, building, same]
  · intro free
    have outside := h.outside (by rw [building, free])
    exact ⟨outside.1, fun id new => outside.2 id ((same id).1 new)⟩

theorem met {U : Universe n} {event : Event n} {type : TypeExpr n}
    (h : Accounts ((e.note event).meet U type) result e') : Accounts e result e' := by
  have size : ((e.note event).meet U type).arena.size = e.arena.size := rfl
  exact after size rfl rfl h

/-- A call that ends by changes to neither arena nor bookkeeping. -/
theorem before (h : Accounts e result e₁) (tidy : Tidy e') (size : e'.arena.size = e₁.arena.size)
    (building : e'.building = e₁.building) (failures : e'.cache.failures = e₁.cache.failures) :
    Accounts e result e' := by
  have same : ∀ id, New e e' id ↔ New e e₁ id := fun id => by
    unfold New
    rw [size]
  constructor
  · exact tidy
  · intro id old
    rw [failures, h.old id (fun new => old ((same id).2 new))]
  · intro busy
    have inside := h.inside busy
    refine ⟨fun id => ?_, fun id new => ?_⟩
    · rw [building, inside.1, same]
    · rw [failures, inside.2 id ((same id).1 new)]
  · intro free
    have outside := h.outside free
    refine ⟨by rw [building, outside.1], fun id new => ?_⟩
    rw [failures, outside.2 id ((same id).1 new)]

theorem map (h : Accounts e result e') (f : SchemaType → SchemaType) :
    Accounts e (result.map f) e' where
  tidy := h.tidy
  old := h.old
  inside := h.inside
  outside free := by
    rw [reason?_map]
    exact h.outside free

/-- Inside an object build the marks do not depend on how a call ends. -/
theorem of_busy (h : Accounts e result e') (busy : e.building ≠ [])
    (other : Except EncodeError SchemaType) : Accounts e other e' :=
  ⟨h.tidy, h.old, h.inside, fun free => absurd free busy⟩

/-- Two calls inside one object build. -/
theorem trans {first : Except EncodeError SchemaType} {m m' : Nat} (busy : e.building ≠ [])
    (h₁ : Accounts e first e₁) (h₂ : Accounts e₁ result e') (kept₁ : Keeps m e e₁)
    (kept₂ : Keeps m' e₁ e') : Accounts e result e' := by
  have inside₁ := h₁.inside busy
  have busy₁ : e₁.building ≠ [] := by
    obtain ⟨id, started⟩ := List.exists_mem_of_ne_nil _ busy
    exact List.ne_nil_of_mem ((inside₁.1 id).2 (.inl started))
  have inside₂ := h₂.inside busy₁
  constructor
  · exact h₂.tidy
  · intro id old
    rw [new_trans_iff kept₁ kept₂, not_or] at old
    rw [h₂.old id old.2, h₁.old id old.1]
  · intro _
    constructor
    · intro id
      rw [inside₂.1, inside₁.1, new_trans_iff kept₁ kept₂, or_assoc]
    · intro id new
      by_cases late : New e₁ e' id
      · exact inside₂.2 id late
      · have early : New e e₁ id := ((new_trans_iff kept₁ kept₂ id).1 new).resolve_right late
        rw [h₂.old id late, inside₁.2 id early]
  · exact fun free => absurd free busy

/-- The end of an object build.  The outermost one marks what the list of begun objects holds, and
that is all that it inserted. -/
theorem close (U : Universe n) {struct : TypeExpr n} {object : ObjectType} (tidy : Tidy e)
    (kept : Keeps e.arena.size (e.begin U struct object) e₁)
    (h : Accounts (e.begin U struct object) result e₁) (path : String) :
    Accounts e result (e₁.close e.building.isEmpty path result) := by
  have busy : (e.begin U struct object).building ≠ [] := by simp
  have inside := h.inside busy
  have begun : ∀ id, New e e₁ id ↔ id = e.arena.nextId ∨ New (e.begin U struct object) e₁ id :=
    new_begin_iff U e e₁ struct object kept.size
  have listed : ∀ id, id ∈ e₁.building ↔ id ∈ e.building ∨ New e e₁ id := fun id => by
    rw [inside.1, begun, begin_building, List.mem_append, List.mem_singleton, or_assoc]
  have same : ∀ id, New e (e₁.close e.building.isEmpty path result) id ↔ New e e₁ id := fun id => by
    unfold New
    rw [close_arena]
  have unmarked : ∀ id, New e e₁ id → e₁.cache.failures.get? id = none := fun id new => by
    by_cases late : New (e.begin U struct object) e₁ id
    · exact inside.2 id late
    · rw [h.old id late]
      exact tidy.unmarked new
  have kept_old : ∀ id, ¬ New e e₁ id →
      e₁.cache.failures.get? id = e.cache.failures.get? id := fun id old =>
    h.old id fun late => old ((begun id).2 (.inr late))
  constructor
  · exact h.tidy.close _ _ _
  · intro id old
    rw [same] at old
    by_cases free : e.building = []
    · cases result with
      | ok _ => rw [free]; exact kept_old id old
      | error error =>
        rw [free]
        change (Encoder.marked e₁.cache e₁.building error).failures.get? id = _
        have unlisted : id ∉ e₁.building := by
          rw [listed, free]
          simpa using old
        rw [failures_marked, if_neg unlisted]
        exact kept_old id old
    · have nested : e.building.isEmpty = false := by simpa using free
      rw [nested]
      exact kept_old id old
  · intro nested
    have nested : e.building.isEmpty = false := by simpa using nested
    simp only [same]
    rw [nested]
    exact ⟨listed, unmarked⟩
  · intro free
    simp only [same]
    rw [free]
    cases result with
    | ok _ => exact ⟨rfl, unmarked⟩
    | error error =>
      refine ⟨rfl, fun id new => ?_⟩
      change (Encoder.marked e₁.cache e₁.building error).failures.get? id = _
      rw [failures_marked, if_pos ((listed id).2 (.inr new)), unmarked id new]
      rfl

end Accounts

/-- Every call keeps the books: `Call.Busy` because fields are walked inside an object build only.
-/
def Call.Busy (e : Encoder n) : Call n → Prop
  | .walk _ _ _ => e.building ≠ []
  | _ => True

/-- A call for a type may begin at any time. -/
theorem Call.busy_of_asked {call : Call n} {type : TypeExpr n} {e : Encoder n}
    (asked : call.type? = some type) : call.Busy e := by
  cases call with
  | walk => cases asked
  | resolve | build | object => trivial

theorem Course.accounts {U : Universe n} {call : Call n} {e e' : Encoder n}
    {result : Except EncodeError SchemaType} (course : Course U call e result e')
    (tidy : Tidy e) (busy : call.Busy e) : Accounts e result e' := by
  induction course with
  | pointer inner ih => exact ih tidy trivial
  | recorded | objectRecorded | notStruct | notSupported | done =>
    exact .of_same tidy rfl rfl rfl
  | recalled | objectRecalled | notAnObject => exact .of_same (tidy.note rfl) rfl rfl rfl
  | resolved plain miss inner ih =>
    have built := ih tidy trivial
    exact built.before (built.tidy.store _ _ _) rfl rfl rfl
  | refused plain miss inner ih => exact ih tidy trivial
  | provided | scalar | unrecognized =>
    exact .of_same ((tidy.note rfl).meet _ _) rfl rfl rfl
  | list free other listed inner ih =>
    exact (ih ((tidy.note rfl).meet _ _) trivial).met.map _
  | struct free other struct inner ih =>
    exact (ih ((tidy.note rfl).meet _ _) trivial).met
  | @begun type options e object fields result e' miss struct made inner ih =>
    have walked := ih (tidy.begin U type object) (by simp [Call.Busy])
    have kept : Keeps e.arena.size (e.begin U type object) e' := by
      refine inner.keeps.mono ?_
      simp [Call.base]
    exact walked.close U tidy kept _
  | untagged untagged inner ih => exact ih tidy busy
  | @tagged id path field text type rest e resolved e₁ result e' content first live inner ih₁ ih₂ =>
    have resolves := ih₁ tidy trivial
    have exposed : Accounts e (.ok resolved)
        (e₁.expose U id path field.name (.parse text) type resolved) :=
      resolves.before (resolves.tidy.expose U _ _ _ _ _ _) (by simp) (by simp) (by simp)
    have still : (e₁.expose U id path field.name (.parse text) type resolved).building ≠ [] := by
      obtain ⟨id, started⟩ := List.exists_mem_of_ne_nil _ busy
      exact List.ne_nil_of_mem (((exposed.inside busy).1 id).2 (.inl started))
    have kept := (first.keeps.mono (Nat.zero_le _)).trans
      ((keeps_expose U e₁ id path field.name (.parse text) type resolved).mono (Nat.zero_le _))
    exact exposed.trans busy (ih₂ exposed.tidy still) kept inner.keeps
  | stopped content first ih => exact (ih tidy trivial).of_busy busy _
  | @dangling id path field text type rest e resolved e₁ content first dead ih =>
    have resolves := ih tidy trivial
    have warned := (resolves.tidy.warn U type (.parse text) resolved).meet U type.withoutPointers
    exact (resolves.before warned (by simp) (by simp) (by simp)).of_busy busy _

/-- A call for a type that inserts an object and succeeds results in a schema type that names an
object it inserted. -/
theorem Course.names_new {U : Universe n} {call : Call n} {e e' : Encoder n} {resolved : SchemaType}
    (course : Course U call e (.ok resolved) e') {type : TypeExpr n}
    (asked : call.type? = some type)
    (grown : e.arena.size < e'.arena.size) :
    ∃ id, resolved.namedObject? = some id ∧ New e e' id := by
  generalize same : (Except.ok resolved : Except EncodeError SchemaType) = result at course
  induction course generalizing resolved type with
  | pointer inner ih => exact ih rfl grown same
  | recorded | objectRecorded | notStruct | notSupported | refused | unrecognized | notAnObject =>
    cases same
  | recalled | provided | scalar | objectRecalled => exact absurd grown (lt_irrefl _)
  | resolved plain miss inner ih => exact ih rfl grown same
  | @list type item e result e' free other listed inner ih =>
    cases result with
    | error error => cases same
    | ok item =>
      cases same
      obtain ⟨id, named, new⟩ := @ih item _ rfl grown rfl
      exact ⟨id, named, new⟩
  | struct free other struct inner ih => exact ih rfl grown same
  | @begun type options e object fields result e' miss struct made inner ih =>
    subst same
    have grown' := inner.keeps.size
    rw [inner.eq_object_of_walk]
    refine ⟨e.arena.nextId, rfl, ?_⟩
    unfold New
    rw [close_arena]
    rw [begin_arena, Arena.size_insert] at grown'
    exact ⟨Nat.lt_succ_self _, grown'⟩
  | done | untagged | tagged | stopped | dangling => cases asked

end RecordSchema
