import Mathlib.Logic.Relation
import RecordSchema.Proofs.Course.Arguments
import RecordSchema.Proofs.Coverage

/-!
# What stands in the way of a type

Whether a type resolves can be seen before anything is built.  It fails if and only if it leads,
through types that are not cached, to one that cannot be had: a cached type whose object has failed,
or a type that is neither cached nor recognized (`TypeCache.Blocked`).

In one direction, a call that fails comes to such a type, perhaps after others have succeeded; but
what these have cached does not lead to new obstacles (`Course.blocked`).  In the other direction, a
success has cached all that the types lead to which it has cached, cycles included, so none of them
leads to an obstacle (`Encoder.Settles.not_blocked`).

Neither the order of the visit nor the moment at which a struct enters the cache plays a part.  So
an object of a struct and its arguments meet the same obstacles.
-/

namespace RecordSchema

variable {n : Nat}

open Encoder Reference

/-! ## Obstacles -/

section Obstacles

variable (U : Universe n) (hooks : TypeExpr n → Hooks)

/-- A type that cannot be had: its object has failed, or it is neither cached nor recognized. -/
inductive TypeCache.Barred (cache : TypeCache) : TypeExpr n → Prop
  | failed {type found error} (hit : cache.lookup U type = some found)
      (failed : cache.failure? found = some error) : Barred cache type
  | unrecognized {type} (miss : cache.lookup U type = none)
      (unrecognized : Unrecognized U hooks type) : Barred cache type

/-- A type that is not cached asks for what it leads to. -/
def TypeCache.AsksFor (cache : TypeCache) (a b : TypeExpr n) : Prop :=
  cache.lookup U a = none ∧ Leads U hooks a b

/-- A type asks, directly or through others, for one that cannot be had. -/
def TypeCache.Blocked (cache : TypeCache) (type : TypeExpr n) : Prop :=
  ∃ culprit, Relation.ReflTransGen (cache.AsksFor U hooks) type culprit ∧
    cache.Barred U hooks culprit

end Obstacles

variable {U : Universe n} {hooks : TypeExpr n → Hooks} {policy : KeyPolicy}
  {region : TypeExpr n → Prop} {e e₁ e' : Encoder n} {type : TypeExpr n} {call : Call n}

section Blocked

variable {cache : TypeCache}

/-- A type is blocked by whatever it asks for. -/
theorem TypeCache.Blocked.of_leads {part : TypeExpr n} (blocked : cache.Blocked U hooks part)
    (miss : cache.lookup U type = none) (leads : Leads U hooks type part) :
    cache.Blocked U hooks type := by
  obtain ⟨culprit, path, barred⟩ := blocked
  exact ⟨culprit, path.head ⟨miss, leads⟩, barred⟩

/-- A struct that is not cached is blocked by one of its fields. -/
theorem TypeCache.Blocked.field {fields : List (RecordField n)}
    (blocked : cache.Blocked U hooks type) (miss : cache.lookup U type = none)
    (detail : U.detail type = .struct fields) :
    ∃ field ∈ fields, ∃ text content, field.content = .tagged text content ∧
      cache.Blocked U hooks content.withoutPointers := by
  obtain ⟨culprit, path, barred⟩ := blocked
  rcases path.cases_head with rfl | ⟨part, asks, rest⟩
  · cases barred with
    | failed hit =>
      rw [miss] at hit
      cases hit
    | unrecognized _ unrecognized =>
      have struct := unrecognized.noStruct
      rw [Universe.isStruct_of_detail detail] at struct
      cases struct
  · obtain ⟨field, listed, text, content, tagged, rfl⟩ := asks.2.of_struct detail
    exact ⟨field, listed, text, content, tagged, culprit, rest, barred⟩

end Blocked

/-! ## Later encoders have no more obstacles -/

/-- What is cached later has not failed, and nothing that was cached has failed since. -/
structure Encoder.Advances (e e' : Encoder n) : Prop where
  kept : Keeps 0 e e'
  failures : e'.cache.failures = e.cache.failures
  sound : ∀ key found, e'.cache.types.get? key = some found →
    e.cache.types.get? key = some found ∨ e'.cache.failure? found = none

namespace Encoder.Advances

/-- A type that is blocked later was blocked before. -/
theorem blocked (advances : Advances e e') (blocked : e'.cache.Blocked U hooks type) :
    e.cache.Blocked U hooks type := by
  obtain ⟨culprit, path, barred⟩ := blocked
  refine ⟨culprit, Relation.ReflTransGen.mono (fun a b asks =>
    ⟨lookup_eq_none_of_keeps advances.kept asks.1, asks.2⟩) _ _ path, ?_⟩
  cases barred with
  | @failed found error hit failed =>
    rcases advances.sound _ found hit with old | unmarked
    · rw [advances.kept.key] at old
      rw [TypeCache.failure?_congr advances.failures] at failed
      exact .failed old failed
    · rw [unmarked] at failed
      cases failed
  | unrecognized miss unrecognized =>
    exact .unrecognized (lookup_eq_none_of_keeps advances.kept miss) unrecognized

/-- An object that is begun stands in nobody's way. -/
theorem begin (live : e.MarksLive) (miss : e.cache.lookup U type = none) (object : ObjectType) :
    Advances e (e.begin U type object) where
  kept := (keeps_begin U e miss object).mono (Nat.zero_le _)
  failures := rfl
  sound key found hit := by
    rw [begin_cache, TypeCache.types_register] at hit
    split at hit
    · cases hit
      exact .inr live.unmarked_nextId
    · exact .inl hit

end Encoder.Advances

/-- All that was cached since is recognized, has not failed, and leads to cached types that have not
failed. -/
structure Encoder.Settles (U : Universe n) (hooks : TypeExpr n → Hooks) (policy : KeyPolicy)
    (region : TypeExpr n → Prop) (e e' : Encoder n) : Prop where
  kept : Keeps 0 e e'
  failures : e'.cache.failures = e.cache.failures
  owned : ∀ key found, e'.cache.types.get? key = some found →
    e.cache.types.get? key = some found ∨ e'.cache.failure? found = none ∧
      ∃ type, region type ∧ ¬ Unrecognized U hooks type ∧ policy.text U type = key
  closes : ∀ a b, region a → e.cache.lookup U a = none → e'.cache.lookup U a ≠ none →
    Leads U hooks a b → e'.Knows U b

namespace Encoder.Settles

theorem advances (settles : Settles U hooks policy region e e') : Advances e e' where
  kept := settles.kept
  failures := settles.failures
  sound key found hit := (settles.owned key found hit).imp_right And.left

theorem of_unchanged (same : Unchanged e e') : Settles U hooks policy region e e' where
  kept := same.lasts.keeps.mono (Nat.zero_le _)
  failures := by rw [same.cache]
  owned key found hit := by
    rw [same.cache] at hit
    exact .inl hit
  closes a b _ miss known := by
    rw [same.cache] at known
    exact absurd miss known

theorem trans (first : Settles U hooks policy region e e₁)
    (second : Settles U hooks policy region e₁ e') : Settles U hooks policy region e e' where
  kept := first.kept.trans second.kept
  failures := second.failures.trans first.failures
  owned key found hit := by
    rcases second.owned key found hit with early | late
    · refine (first.owned key found early).imp_right fun own => ⟨?_, own.2⟩
      rw [TypeCache.failure?_congr second.failures, own.1]
    · exact .inr late
  closes a b inside miss known leads := by
    by_cases early : e₁.cache.lookup U a = none
    · exact second.closes a b inside early known leads
    · exact (first.closes a b inside miss early leads).mono second.kept second.failures

/-- What is known in the end was not blocked. -/
theorem not_blocked (settles : Settles U hooks policy region e e')
    (regular : Regular U hooks policy region) (uses : e.cache.policy = policy)
    (inside : region type) (knows : e'.Knows U type) : ¬ e.cache.Blocked U hooks type := by
  rintro ⟨culprit, path, barred⟩
  have comes : region culprit ∧ e'.Knows U culprit := by
    -- Along the path every type has been cached, with all that it leads to.
    clear barred
    induction path with
    | refl => exact ⟨inside, knows⟩
    | tail _ asks ih =>
      exact ⟨regular.closed _ _ ih.1 asks.2,
        settles.closes _ _ ih.1 asks.1 ih.2.lookup_ne_none asks.2⟩
  obtain ⟨own, found, hit, unmarked⟩ := comes
  cases barred with
  | failed hit' failed =>
    rw [settles.kept.lookup hit'] at hit
    cases hit
    rw [TypeCache.failure?_congr settles.failures, failed] at unmarked
    cases unmarked
  | unrecognized miss unrecognized =>
    rcases settles.owned _ found hit with old | ⟨-, other, insideOther, recognized, same⟩
    · rw [settles.kept.key] at old
      exact absurd (miss.symm.trans old) fun none => nomatch none
    · rw [TypeCache.key_eq, settles.kept.policy, uses,
        TypeExpr.withoutPointers_eq_self (regular.plain _ own)] at same
      rw [regular.distinct _ _ insideOther own same] at recognized
      exact recognized unrecognized

end Encoder.Settles

/-! ## Calls that fail are blocked -/

/-- An encoder that finds these hooks, keeps its cache under this policy, and trusts its providers.
-/
structure Encoder.Under (U : Universe n) (hooks : TypeExpr n → Hooks) (policy : KeyPolicy)
    (e : Encoder n) : Prop where
  hooked : ∀ type, e.hooksOf U type = hooks type
  uses : e.cache.policy = policy
  trusts : e.Trusts hooks

namespace Encoder.Under

theorem know (under : Under U hooks policy e) {registry : Registry n}
    (grown : e.registry.Extends U registry) : Under U hooks policy (e.know registry) where
  hooked type := (hooksOf_know grown type).trans (under.hooked type)
  uses := under.uses
  trusts := under.trusts.congr rfl le_rfl

theorem met (under : Under U hooks policy e) (event : Event n) (type : TypeExpr n) :
    Under U hooks policy ((e.note event).meet U type) where
  hooked other := (hooksOf_of_met U rfl other).trans (under.hooked other)
  uses := under.uses
  trusts := under.trusts.congr rfl le_rfl

theorem begin (under : Under U hooks policy e) (struct : TypeExpr n) (object : ObjectType) :
    Under U hooks policy (e.begin U struct object) where
  hooked := under.hooked
  uses := under.uses
  trusts := under.trusts.begin struct object

theorem after {resolved : SchemaType} (under : Under U hooks policy e)
    (course : Course U call e (.ok resolved) e') : Under U hooks policy e' where
  hooked other := (course.hooksOf other).trans (under.hooked other)
  uses := course.keeps.policy.trans under.uses
  trusts := under.trusts.after course

theorem expose (under : Under U hooks policy e) (id : ObjectId) (path name : String)
    (tag : FieldTag) (type : TypeExpr n) (resolved : SchemaType) :
    Under U hooks policy (e.expose U id path name tag type resolved) where
  hooked other :=
    (hooksOf_of_met U (e.expose_registry U id path name tag type resolved) other).trans
      (under.hooked other)
  uses := by rw [expose_cache, under.uses]
  trusts := under.trusts.congr (by rw [expose_cache]) (by simp)

theorem unchanged (under : Under U hooks policy e) (same : Unchanged e e') :
    Under U hooks policy e' where
  hooked other := (hooksOf_of_registry U same.registry other).trans (under.hooked other)
  uses := by rw [same.cache, under.uses]
  trusts := under.trusts.congr (by rw [same.cache]) (by rw [same.arena])

end Encoder.Under

section Calls

variable (regular : Regular U hooks policy region)

include regular

theorem Course.settles {resolved : SchemaType} (course : Course U call e (.ok resolved) e')
    (under : Under U hooks policy e) (inside : call.In hooks region) :
    Settles U hooks policy region e e' := by
  have covers := course.covers regular under.hooked under.uses under.trusts inside
  exact ⟨course.keeps.mono (Nat.zero_le _), course.failures, covers.owned, covers.closes⟩

omit regular in
/-- What a call is for is blocked.  A walk comes to a blocked field. -/
def Call.Blocked (U : Universe n) (hooks : TypeExpr n → Hooks) (e : Encoder n) : Call n → Prop
  | .resolve type => e.cache.Blocked U hooks type.withoutPointers
  | .build type => e.cache.lookup U type = none → e.cache.Blocked U hooks type
  | .object type options => options = [] → e.cache.lookup U type = none → U.isStruct type →
      e.cache.Blocked U hooks type
  | .walk id _ fields => e.arena.contains id → ∃ field ∈ fields, ∃ text content,
      field.content = .tagged text content ∧ e.cache.Blocked U hooks content.withoutPointers

/-- A call that fails was blocked when it began. -/
theorem Course.blocked {error : EncodeError} (course : Course U call e (.error error) e')
    (under : Under U hooks policy e) (inside : call.In hooks region) : call.Blocked U hooks e := by
  generalize failed : (Except.error error : Except EncodeError SchemaType) = result at course
  induction course generalizing error with
  | recalled | resolved | provided | scalar | objectRecalled | done => cases failed
  | pointer inner ih => exact ih under inside failed
  | @recorded type e found reason plain hit marked =>
    have known : e.cache.lookup U type.withoutPointers = some found := by
      rw [TypeCache.lookup_withoutPointers, hit]
    exact ⟨_, .refl, .failed known marked⟩
  | @refused type e reason e' plain miss inner ih =>
    have below := TypeExpr.withoutPointers_eq_self plain
    have own : region type := by
      have reached : region type.withoutPointers := inside
      rwa [below] at reached
    have blocked : e.cache.Blocked U hooks type := ih under own rfl miss
    rwa [← below] at blocked
  | @list type item e result e' free other listed inner ih =>
    intro miss
    cases result with
    | ok resolved => cases failed
    | error reason =>
      rw [under.hooked] at free
      have leads : Leads U hooks type item.withoutPointers := .item free listed
      have blocked := ih (under.met _ _) (regular.closed _ _ inside leads) rfl
      exact TypeCache.Blocked.of_leads blocked miss leads
  | @struct type e result e' free other struct inner ih =>
    intro miss
    rw [under.hooked] at free
    exact ih (under.met _ _) ⟨inside, free⟩ failed rfl miss struct
  | @unrecognized type e free other unlisted noStruct =>
    intro miss
    refine ⟨type, .refl, .unrecognized miss ⟨regular.plain type inside, ?_, noStruct, unlisted⟩⟩
    rw [leaf?_eq, ← under.hooked, free, other]
    rfl
  | objectRecorded hit | notAnObject hit =>
    intro _ miss
    rw [miss] at hit
    cases hit
  | notStruct miss noStruct =>
    intro _ _ struct
    rw [struct] at noStruct
    cases noStruct
  | notSupported miss struct refusal =>
    rintro rfl
    cases refusal
  | @begun type options e object fields result e' miss detail made inner ih =>
    rintro rfl - -
    have begins := Advances.begin under.trusts.live miss object
    have leads : ∀ field ∈ fields, ∀ text content, field.content = .tagged text content →
        Leads U hooks type content.withoutPointers :=
      fun field listed text content tagged => .field inside.2 detail listed tagged
    have live := Arena.contains_of_get? (Arena.get?_insert_nextId e.arena object)
    obtain ⟨field, listed, text, content, tagged, blocked⟩ :=
      ih (under.begin type object) (fun field listed text content tagged =>
        regular.closed _ _ inside.1 (leads field listed text content tagged)) failed live
    exact (begins.blocked blocked).of_leads miss (leads field listed text content tagged)
  | @untagged id path field rest e result e' untagged inner ih =>
    intro live
    obtain ⟨other, listed, found⟩ := ih under
      (fun other listed => inside other (List.mem_cons_of_mem _ listed)) failed live
    exact ⟨other, List.mem_cons_of_mem _ listed, found⟩
  | @tagged id path field text type rest e resolved e₁ result e' content first live inner ih₁ ih₂ =>
    intro _
    have settles := first.settles regular under (inside field List.mem_cons_self text type content)
    have exposed : (e₁.expose U id path field.name (.parse text) type resolved).cache = e₁.cache :=
      e₁.expose_cache U id path field.name _ type resolved
    have still :
        (e₁.expose U id path field.name (.parse text) type resolved).arena.contains id := by
      rwa [contains_expose]
    obtain ⟨other, listed, text', content', tagged, blocked⟩ := ih₂
      ((under.after first).expose id path field.name _ type resolved)
      (fun other listed => inside other (List.mem_cons_of_mem _ listed)) failed still
    rw [exposed] at blocked
    exact ⟨other, List.mem_cons_of_mem _ listed, text', content', tagged,
      settles.advances.blocked blocked⟩
  | @stopped id path field text type rest e reason e' content first ih =>
    intro _
    have blocked := ih under (inside field List.mem_cons_self text type content) rfl
    exact ⟨field, List.mem_cons_self, text, type, content, blocked⟩
  | dangling content first dead =>
    intro live
    rw [first.keeps.live live] at dead
    cases dead

/-! ## Objects and arguments meet the same obstacles -/

/-- The types of the tagged fields are of a region. -/
def Fielded (region : TypeExpr n → Prop) (fields : List (RecordField n)) : Prop :=
  ∀ field ∈ fields, ∀ text content, field.content = .tagged text content →
    region content.withoutPointers

/-- Arguments that were collected have settled the types of their fields. -/
theorem Collects.settles {path : String} {fields : List (RecordField n)}
    {start arguments : ArgumentMap} (collects : Collects U path fields start e (.ok arguments) e')
    (under : Under U hooks policy e) (inside : Fielded region fields) :
    Settles U hooks policy region e e' ∧ ∀ field ∈ fields, ∀ text content,
      field.content = .tagged text content → e'.Knows U content := by
  generalize ok : (Except.ok arguments : Except EncodeError ArgumentMap) = result at collects
  induction collects with
  | done => exact ⟨.of_unchanged (.refl _), fun field listed => nomatch listed⟩
  | untagged untagged others ih =>
    obtain ⟨settles, visited⟩ := ih under
      (fun other listed => inside other (List.mem_cons_of_mem _ listed)) ok
    refine ⟨settles, fun field listed text content tagged => ?_⟩
    rcases List.mem_cons.1 listed with rfl | later
    · exact absurd untagged (RecordField.tag?_ne_none_of_tagged tagged)
    · exact visited field later text content tagged
  | @tagged field text type rest start e resolved e₁ e₂ result e' content first same others ih =>
    have own := inside field List.mem_cons_self text type content
    have between : Settles U hooks policy region e e₂ :=
      (first.settles regular under own).trans (.of_unchanged same)
    obtain ⟨settles, visited⟩ := ih ((under.after first).unchanged same)
      (fun other listed => inside other (List.mem_cons_of_mem _ listed)) ok
    refine ⟨between.trans settles, fun other listed text' content' tagged => ?_⟩
    rcases List.mem_cons.1 listed with rfl | later
    · cases content.symm.trans tagged
      have knows := (first.knows under.hooked under.trusts).congr same.cache
      exact knows.mono settles.kept settles.failures
    · exact visited other later text' content' tagged
  | stopped => cases ok

/-- Arguments that cannot be collected were blocked by a field. -/
theorem Collects.blocked {path : String} {fields : List (RecordField n)} {start : ArgumentMap}
    {error : EncodeError} (collects : Collects U path fields start e (.error error) e')
    (under : Under U hooks policy e) (inside : Fielded region fields) :
    ∃ field ∈ fields, ∃ text content, field.content = .tagged text content ∧
      e.cache.Blocked U hooks content.withoutPointers := by
  generalize failed : (Except.error error : Except EncodeError ArgumentMap) = result at collects
  induction collects with
  | done => cases failed
  | untagged untagged others ih =>
    obtain ⟨other, listed, found⟩ := ih under
      (fun other listed => inside other (List.mem_cons_of_mem _ listed)) failed
    exact ⟨other, List.mem_cons_of_mem _ listed, found⟩
  | @tagged field text type rest start e resolved e₁ e₂ result e' content first same others ih =>
    have own := inside field List.mem_cons_self text type content
    have between : Settles U hooks policy region e e₂ :=
      (first.settles regular under own).trans (.of_unchanged same)
    obtain ⟨other, listed, text', content', tagged, blocked⟩ := ih
      ((under.after first).unchanged same)
      (fun other listed => inside other (List.mem_cons_of_mem _ listed)) failed
    exact ⟨other, List.mem_cons_of_mem _ listed, text', content', tagged,
      between.advances.blocked blocked⟩
  | @stopped field text type rest start e reason e' content first =>
    have blocked := first.blocked regular under
      (inside field List.mem_cons_self text type content)
    exact ⟨field, List.mem_cons_self, text, type, content, blocked⟩

section Structs

variable {fields : List (RecordField n)} (detail : U.detail type.withoutPointers = .struct fields)
  (free : (hooks type.withoutPointers).typeProvider = none)
  (miss : e.cache.lookup U type = none) (under : Under U hooks policy e)
  (inside : region type.withoutPointers)

include detail free miss under inside

/-- The object of an unknown struct is built if and only if the struct is not blocked. -/
theorem structOf_ok_iff :
    (∃ id e', (structOf U type []).outcome e = some (.ok id, e')) ↔
      ¬ e.cache.Blocked U hooks type.withoutPointers := by
  obtain ⟨registry, registered, grown, -⟩ := Build.outcome_register U type e
  obtain ⟨result, e', run⟩ := structOfInfo_ends U type [] (e.know registry)
  have known := under.know grown
  have outcome := Build.outcome_bind_ok registered fun _ => structOfInfo U type []
  have course := course_object run
  rw [run] at outcome
  unfold structOf
  rw [outcome]
  cases result with
  | error error =>
    have unknown : (e.know registry).cache.lookup U type.withoutPointers = none :=
      (TypeCache.lookup_withoutPointers U e.cache type).trans miss
    have blocked := course.blocked regular known ⟨inside, free⟩ rfl unknown
      (Universe.isStruct_of_detail detail)
    refine ⟨?_, fun free => absurd blocked free⟩
    rintro ⟨id, e', ⟨⟩⟩
  | ok id =>
    have settles := course.settles regular known ⟨inside, free⟩
    refine ⟨fun _ => ?_, fun _ => ⟨id, e', rfl⟩⟩
    exact settles.not_blocked regular under.uses inside (course.knows_object known.trusts)

/-- The arguments of an unknown struct are collected if and only if the struct is not blocked. -/
theorem argsOf_ok_iff :
    (∃ arguments e', (argsOf U type).outcome e = some (.ok arguments, e')) ↔
      ¬ e.cache.Blocked U hooks type.withoutPointers := by
  have unknown : e.cache.lookup U type.withoutPointers = none :=
    (TypeCache.lookup_withoutPointers U e.cache type).trans miss
  have leads : ∀ field ∈ fields, ∀ text content, field.content = .tagged text content →
      Leads U hooks type.withoutPointers content.withoutPointers :=
    fun field listed text content tagged => .field free detail listed tagged
  have parts : Fielded region fields := fun field listed text content tagged =>
    regular.closed _ _ inside (leads field listed text content tagged)
  constructor
  · rintro ⟨arguments, e', run⟩ blocked
    obtain ⟨registry, grown, collects⟩ := collects_argsOf detail run
    obtain ⟨settles, visited⟩ := collects.settles regular (under.know grown) parts
    obtain ⟨field, listed, text, content, tagged, stuck⟩ := blocked.field unknown detail
    exact settles.not_blocked regular under.uses (parts field listed text content tagged)
      (visited field listed text content tagged).withoutPointers stuck
  · intro unblocked
    obtain ⟨answer, e', run, -⟩ := Request.serves (Scope.closed_everything U)
      (Request.within_everything (.argsOf type)) e
    unfold Request.run at run
    rw [Build.outcome_map, Option.map_eq_some_iff] at run
    obtain ⟨⟨result, e₁⟩, run, -⟩ := run
    cases result with
    | ok arguments => exact ⟨arguments, e₁, run⟩
    | error error =>
      obtain ⟨registry, grown, collects⟩ := collects_argsOf detail run
      obtain ⟨field, listed, text, content, tagged, blocked⟩ :=
        collects.blocked regular (under.know grown) parts
      exact absurd (blocked.of_leads unknown (leads field listed text content tagged)) unblocked

end Structs

end Calls

end RecordSchema
