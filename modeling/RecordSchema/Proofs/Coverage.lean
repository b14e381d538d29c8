import RecordSchema.Proofs.Course.Inner
import RecordSchema.Proofs.Mirror
import RecordSchema.Proofs.Provenance

/-!
# What a build leaves in the cache

A build caches types of its region only, and with each type, once it has succeeded, all that the
type leads to.  While it goes on this is not so: a struct is cached before its fields are walked,
and the types of the fields are cached one after the other.  `Call.Covers` therefore speaks of the
types that a call adds, and of the fields that a walk comes to; `Course.covers` shows it for every
successful call.

The encoder may have failed before.  What a successful call caches, and what the types lead to that
it caches, names no failed object, as long as no provider names one (`Encoder.Trusts`).
-/

namespace RecordSchema

variable {n : Nat}

open Encoder Reference

/-- A call for a type of a region, or for fields of such types.  An object is asked for only where
no provider decides. -/
def Call.In (hooks : TypeExpr n → Hooks) (region : TypeExpr n → Prop) : Call n → Prop
  | .resolve type => region type.withoutPointers
  | .build type => region type
  | .object type _ => region type ∧ (hooks type).typeProvider = none
  | .walk _ _ fields => ∀ field ∈ fields, ∀ text content,
      field.content = .tagged text content → region content.withoutPointers

theorem Call.Fits.in {U : Universe n} {hooks : TypeExpr n → Hooks} {region : TypeExpr n → Prop}
    {e : Encoder n} {call : Call n} (fits : call.Fits U hooks region e) : call.In hooks region := by
  cases call with
  | resolve | build => exact fits
  | object => exact ⟨fits.1, fits.2.2.1⟩
  | walk => exact fits.2

/-- A type is cached, and what is cached for it names no failed object. -/
def Encoder.Knows (U : Universe n) (e : Encoder n) (type : TypeExpr n) : Prop :=
  ∃ found, e.cache.lookup U type = some found ∧ e.cache.failure? found = none

/-- No failed object is out of sight: only objects of the arena are marked, and no provider names a
marked one. -/
structure Encoder.Trusts (hooks : TypeExpr n → Hooks) (e : Encoder n) : Prop where
  live : e.MarksLive
  provided : ∀ type given, (hooks type).typeProvider = some given → e.cache.failure? given = none

/-- What a successful call adds to the cache: recognized types of the region, and with each of them
what it leads to, nothing of which has failed.  What a built type leads to is cached before the
type, and a walk caches the types of its fields. -/
structure Call.Covers (U : Universe n) (hooks : TypeExpr n → Hooks) (policy : KeyPolicy)
    (region : TypeExpr n → Prop) (call : Call n) (e e' : Encoder n) : Prop where
  owned : ∀ key found, e'.cache.types.get? key = some found →
    e.cache.types.get? key = some found ∨ e'.cache.failure? found = none ∧
      ∃ type, region type ∧ ¬ Unrecognized U hooks type ∧ policy.text U type = key
  closes : ∀ a b, region a → e.cache.lookup U a = none → e'.cache.lookup U a ≠ none →
    Leads U hooks a b → e'.Knows U b
  leads : ∀ type b, call = .build type → e.cache.lookup U type = none → Leads U hooks type b →
    e'.Knows U b
  visited : ∀ id path fields, call = .walk id path fields → ∀ field ∈ fields, ∀ text content,
    field.content = .tagged text content → e'.Knows U content

section Coverage

variable {U : Universe n} {hooks : TypeExpr n → Hooks} {policy : KeyPolicy}
  {region : TypeExpr n → Prop} {type item struct : TypeExpr n} {e e₁ e' : Encoder n} {call : Call n}

theorem Encoder.lookup_store_ne_none (type : TypeExpr n) (resolved : SchemaType)
    {other : TypeExpr n} (known : e.cache.lookup U other ≠ none) :
    (e.store U type resolved).cache.lookup U other ≠ none := by
  rw [store_cache, TypeCache.lookup_register]
  split
  · exact fun none => nomatch none
  · exact known

theorem Encoder.Keeps.lookup_ne_none {m : Nat} (kept : Keeps m e e')
    (known : e.cache.lookup U type ≠ none) : e'.cache.lookup U type ≠ none := by
  obtain ⟨found, hit⟩ := Option.ne_none_iff_exists'.1 known
  rw [kept.lookup hit]
  exact fun none => nomatch none

namespace Encoder.Knows

theorem lookup_ne_none (known : e.Knows U type) : e.cache.lookup U type ≠ none := by
  obtain ⟨found, hit, -⟩ := known
  rw [hit]
  exact fun none => nomatch none

theorem withoutPointers (known : e.Knows U type) : e.Knows U type.withoutPointers := by
  unfold Knows
  rw [TypeCache.lookup_withoutPointers]
  exact known

/-- A known type stays known while entries are kept and nothing is marked. -/
theorem mono {m : Nat} (known : e.Knows U type) (kept : Keeps m e e')
    (failures : e'.cache.failures = e.cache.failures) : e'.Knows U type := by
  obtain ⟨found, hit, unmarked⟩ := known
  exact ⟨found, kept.lookup hit, (TypeCache.failure?_congr failures found).trans unmarked⟩

theorem congr (known : e.Knows U type) (cache : e'.cache = e.cache) : e'.Knows U type := by
  unfold Knows
  rw [cache]
  exact known

/-- A known type stays known when something that has not failed is cached. -/
theorem store (known : e.Knows U type) (other : TypeExpr n) {resolved : SchemaType}
    (unmarked : e.cache.failure? resolved = none) : (e.store U other resolved).Knows U type := by
  obtain ⟨found, hit, sound⟩ := known
  unfold Knows
  rw [store_cache, TypeCache.lookup_register]
  split
  · exact ⟨resolved, rfl, unmarked⟩
  · exact ⟨found, hit, sound⟩

end Encoder.Knows

namespace Encoder.Trusts

theorem congr (trusts : e.Trusts hooks) (failures : e'.cache.failures = e.cache.failures)
    (grown : e.arena.size ≤ e'.arena.size) : e'.Trusts hooks where
  live := trusts.live.congr failures grown
  provided type given hook :=
    (TypeCache.failure?_congr failures given).trans (trusts.provided type given hook)

theorem after {resolved : SchemaType} (trusts : e.Trusts hooks)
    (course : Course U call e (.ok resolved) e') : e'.Trusts hooks :=
  trusts.congr course.failures course.keeps.size

theorem begin (trusts : e.Trusts hooks) (struct : TypeExpr n) (object : ObjectType) :
    (e.begin U struct object).Trusts hooks :=
  trusts.congr rfl (by rw [begin_arena, Arena.size_insert]; omega)

end Encoder.Trusts

/-- Where nothing has failed there is nothing to trust. -/
theorem Encoder.Mirrors.trusts {order : List (TypeExpr n)}
    (faithful : Mirrors U hooks policy region order e) : e.Trusts hooks where
  live id error mark := by
    rw [faithful.unmarked] at mark
    cases mark
  provided _ given _ := faithful.sound given

/-- A type that resolves is known from then on. -/
theorem Course.knows {resolved : SchemaType} (course : Course U (.resolve type) e (.ok resolved) e')
    (hooked : ∀ type, e.hooksOf U type = hooks type) (trusts : e.Trusts hooks) :
    e'.Knows U type := by
  refine ⟨resolved, course.lookup_of_resolve, ?_⟩
  rcases course.unmarked_or_given trusts.live with unmarked | given
  · exact unmarked
  · rw [TypeCache.failure?_congr course.failures]
    exact given.unmarked fun type given hook => trusts.provided type given (by rw [← hooked, hook])

/-- A struct whose object was built is known from then on. -/
theorem Course.knows_object {resolved : SchemaType} {options : List (SchemaOption n)}
    (course : Course U (.object type options) e (.ok resolved) e') (trusts : e.Trusts hooks) :
    e'.Knows U type :=
  ⟨resolved, course.lookup_of_object, course.unmarked_of_object trusts.live⟩

/-- Only recognized types are built. -/
theorem Course.recognized {resolved : SchemaType}
    (course : Course U (.build type) e (.ok resolved) e')
    (hooked : ∀ type, e.hooksOf U type = hooks type) : ¬ Unrecognized U hooks type := by
  intro unrecognized
  have leaf := unrecognized.leaf
  rw [leaf?_eq, ← hooked] at leaf
  generalize ok : (Except.ok resolved : Except EncodeError SchemaType) = result at course
  cases course with
  | provided hook =>
    rw [hook] at leaf
    cases leaf
  | scalar free native =>
    rw [free, native] at leaf
    cases leaf
  | list _ _ listed =>
    rw [unrecognized.noList] at listed
    cases listed
  | struct _ _ struct =>
    rw [unrecognized.noStruct] at struct
    cases struct
  | unrecognized => cases ok

/-- The types of a region are told apart by a cache that uses its policy. -/
theorem Reference.Regular.eq_of_key (regular : Regular U hooks policy region)
    (uses : e.cache.policy = policy) {a b : TypeExpr n} (insideA : region a) (insideB : region b)
    (same : e.cache.key U a = e.cache.key U b) : a = b := by
  rw [TypeCache.key_eq, TypeCache.key_eq, uses,
    TypeExpr.withoutPointers_eq_self (regular.plain a insideA),
    TypeExpr.withoutPointers_eq_self (regular.plain b insideB)] at same
  exact regular.distinct a b insideA insideB same

/-- A list leads to its item only. -/
theorem Reference.Leads.of_item {b : TypeExpr n} (listed : type.item? = some item)
    (leads : Leads U hooks type b) : b = item.withoutPointers := by
  cases leads with
  | field free detail =>
    rw [item?_eq_none_of_struct (Universe.isStruct_of_detail detail)] at listed
    cases listed
  | item free listed' =>
    rw [listed] at listed'
    cases listed'
    rfl

/-- A struct leads to the types of its tagged fields only. -/
theorem Reference.Leads.of_struct {b : TypeExpr n} {fields : List (RecordField n)}
    (detail : U.detail type = .struct fields) (leads : Leads U hooks type b) :
    ∃ field ∈ fields, ∃ text content, field.content = .tagged text content ∧
      b = content.withoutPointers := by
  cases leads with
  | field free detail' listed tagged =>
    rw [detail] at detail'
    cases detail'
    exact ⟨_, listed, _, _, tagged, rfl⟩
  | item free listed =>
    rw [item?_eq_none_of_struct (Universe.isStruct_of_detail detail)] at listed
    cases listed

/-- Leaves lead nowhere. -/
theorem Reference.Leads.leaf?_eq_none {b : TypeExpr n} (leads : Leads U hooks type b) :
    leaf? U hooks type = none := by
  cases leads with
  | field free detail => exact leaf?_of_struct (Universe.isStruct_of_detail detail) free
  | item free listed => exact leaf?_of_item listed free

namespace Call.Covers

/-- Whatever is cached after a call was cached before, or is of the region. -/
theorem owned_key (covers : call.Covers U hooks policy region e e') (key : String)
    (known : e'.cache.types.get? key ≠ none) :
    e.cache.types.get? key ≠ none ∨ ∃ type, region type ∧ policy.text U type = key := by
  obtain ⟨found, hit⟩ := Option.ne_none_iff_exists'.1 known
  rcases covers.owned key found hit with old | ⟨-, type, inside, -, same⟩
  · exact .inl (by rw [old]; exact fun none => nomatch none)
  · exact .inr ⟨type, inside, same⟩

/-- A call that stores nothing. -/
theorem nothing (types : e'.cache.types = e.cache.types)
    (same : e'.cache.policy = e.cache.policy)
    (leads : ∀ type b, call = .build type → Leads U hooks type b → e'.Knows U b)
    (visited : ∀ id path fields, call = .walk id path fields → fields = []) :
    call.Covers U hooks policy region e e' where
  owned key found hit := by
    rw [types] at hit
    exact .inl hit
  closes a b _ miss known := by
    rw [TypeCache.lookup_congr types same] at known
    exact absurd miss known
  leads type b asked _ := leads type b asked
  visited id path fields asked field listed := by
    rw [visited id path fields asked] at listed
    cases listed

/-- A call stores what a call inside it stores. -/
theorem pass {inner : Call n} {start : Encoder n}
    (covers : inner.Covers U hooks policy region start e') (cache : start.cache = e.cache)
    (leads : ∀ type b, call = .build type → e.cache.lookup U type = none → Leads U hooks type b →
      e'.Knows U b)
    (visited : ∀ id path fields, call ≠ .walk id path fields) :
    call.Covers U hooks policy region e e' where
  owned := by rw [← cache]; exact covers.owned
  closes := by rw [← cache]; exact covers.closes
  leads := leads
  visited id path fields asked := absurd asked (visited id path fields)

/-- A type that was built is cached. -/
theorem store (covers : (Call.build type).Covers U hooks policy region e e₁)
    (regular : Regular U hooks policy region) (uses : e₁.cache.policy = policy)
    (inside : region type) (recognized : ¬ Unrecognized U hooks type)
    (miss : e.cache.lookup U type = none) {resolved : SchemaType}
    (unmarked : e₁.cache.failure? resolved = none) :
    (Call.resolve type).Covers U hooks policy region e (e₁.store U type resolved) where
  owned key found hit := by
    rw [store_cache, TypeCache.types_register] at hit
    split at hit
    · next same =>
      cases hit
      rw [TypeCache.key_eq, uses, TypeExpr.withoutPointers_eq_self (regular.plain _ inside)] at same
      exact .inr ⟨unmarked, type, inside, recognized, same⟩
    · exact covers.owned key found hit
  closes a b insideA missed known leads := by
    rw [store_cache, TypeCache.lookup_register] at known
    refine Knows.store ?_ type unmarked
    split at known
    · next same =>
      have equal := regular.eq_of_key uses inside insideA same
      subst equal
      exact covers.leads type b rfl miss leads
    · exact covers.closes a b insideA missed known leads
  leads _ _ asked := nomatch asked
  visited _ _ _ asked := nomatch asked

/-- A new object leads to the types of the fields that were walked. -/
theorem begun {fields : List (RecordField n)} {options : List (SchemaOption n)}
    {object : ObjectType} {path : String} {outermost : Bool} {resolved : SchemaType}
    (walk : Course U (.walk e.arena.nextId path fields) (e.begin U type object) (.ok resolved) e₁)
    (covers : (Call.walk e.arena.nextId path fields).Covers U hooks policy region
      (e.begin U type object) e₁)
    (live : e.MarksLive) (regular : Regular U hooks policy region) (uses : e.cache.policy = policy)
    (inside : region type) (detail : U.detail type = .struct fields) :
    (Call.object type options).Covers U hooks policy region e
      (e₁.close outermost path (.ok resolved)) := by
  have after : (e₁.close outermost path (.ok resolved)).cache = e₁.cache := by
    cases outermost <;> rfl
  constructor
  · intro key found hit
    rw [after] at hit ⊢
    rcases covers.owned key found hit with early | own
    · rw [begin_cache, TypeCache.types_register] at early
      split at early
      · next same =>
        cases early
        rw [TypeCache.key_eq, uses,
          TypeExpr.withoutPointers_eq_self (regular.plain _ inside)] at same
        refine .inr ⟨?_, type, inside, fun unrecognized => ?_, same⟩
        · rw [TypeCache.failure?_congr walk.failures]
          exact live.unmarked_nextId
        · have struct := unrecognized.noStruct
          rw [Universe.isStruct_of_detail detail] at struct
          cases struct
      · exact .inl early
    · exact .inr own
  · intro a b insideA missed known leads
    rw [after] at known
    refine Knows.congr ?_ after
    by_cases same : e.cache.key U type = e.cache.key U a
    · have equal := regular.eq_of_key uses inside insideA same
      subst equal
      obtain ⟨field, listed, text, content, tagged, rfl⟩ := leads.of_struct detail
      exact (covers.visited _ _ _ rfl field listed text content tagged).withoutPointers
    · refine covers.closes a b insideA ?_ known leads
      rw [begin_cache, TypeCache.lookup_register, if_neg same, missed]
  · rintro _ _ ⟨⟩
  · rintro _ _ _ ⟨⟩

/-- The walk over a field goes on with the other fields. -/
theorem tagged {id : ObjectId} {path text : String} {field : RecordField n}
    {rest : List (RecordField n)} {resolved final : SchemaType}
    (content : field.content = .tagged text type) (knows : e₁.Knows U type)
    (first : (Call.resolve type).Covers U hooks policy region e e₁)
    (course : Course U (.walk id path rest)
      (e₁.expose U id path field.name (.parse text) type resolved) (.ok final) e')
    (second : (Call.walk id path rest).Covers U hooks policy region
      (e₁.expose U id path field.name (.parse text) type resolved) e') :
    (Call.walk id path (field :: rest)).Covers U hooks policy region e e' := by
  have exposed : (e₁.expose U id path field.name (.parse text) type resolved).cache = e₁.cache :=
    e₁.expose_cache U id path field.name _ type resolved
  have later : ∀ other, e₁.Knows U other → e'.Knows U other :=
    fun other known => (known.congr exposed).mono course.keeps course.failures
  constructor
  · intro key found hit
    rcases second.owned key found hit with early | own
    · rw [exposed] at early
      refine (first.owned key found early).imp_right fun own => ⟨?_, own.2⟩
      rw [TypeCache.failure?_congr (course.failures.trans (by rw [exposed])), own.1]
    · exact .inr own
  · intro a b insideA missed known leads
    by_cases early : e₁.cache.lookup U a = none
    · exact second.closes a b insideA (by rw [exposed, early]) known leads
    · exact later b (first.closes a b insideA missed early leads)
  · exact fun _ _ asked => nomatch asked
  · rintro _ _ _ ⟨⟩ other listed text' content' tagged'
    rcases List.mem_cons.1 listed with rfl | after
    · rw [content] at tagged'
      cases tagged'
      exact later type knows
    · exact second.visited _ _ _ rfl other after text' content' tagged'

end Call.Covers

/-- Whatever a successful call caches is of the region and leads to cached types only, none of which
has failed. -/
theorem Course.covers {final : SchemaType} (course : Course U call e (.ok final) e')
    (regular : Regular U hooks policy region) (hooked : ∀ type, e.hooksOf U type = hooks type)
    (uses : e.cache.policy = policy) (trusts : e.Trusts hooks) (inside : call.In hooks region) :
    call.Covers U hooks policy region e e' := by
  generalize ok : (Except.ok final : Except EncodeError SchemaType) = result at course
  induction course generalizing final with
  | @pointer shape pointee e result e' inner ih =>
    exact (ih hooked uses trusts inside ok).pass rfl (fun _ _ asked => nomatch asked)
      fun _ _ _ asked => nomatch asked
  | recorded | refused | unrecognized | objectRecorded | notAnObject | notStruct | notSupported
  | stopped | dangling => cases ok
  | recalled | objectRecalled =>
    exact .nothing rfl rfl (fun _ _ asked => nomatch asked) fun _ _ _ asked => nomatch asked
  | @resolved type e built e' plain miss inner ih =>
    have own : region type := by
      have below : region type.withoutPointers := inside
      rwa [TypeExpr.withoutPointers_eq_self plain] at below
    obtain ⟨found, hit, unmarked⟩ := (Course.resolved plain miss inner).knows hooked trusts
    rw [store_cache, TypeCache.lookup_register_self] at hit
    cases hit
    exact (ih hooked uses trusts own rfl).store regular (inner.keeps.policy.trans uses) own
      (inner.recognized hooked) miss unmarked
  | @provided type e given hook =>
    refine .nothing rfl rfl ?_ fun _ _ _ asked => nomatch asked
    rintro _ b ⟨⟩ leads
    have leaf := leads.leaf?_eq_none
    rw [leaf?_eq, ← hooked, hook] at leaf
    cases leaf
  | @scalar type e leaf free native =>
    refine .nothing rfl rfl ?_ fun _ _ _ asked => nomatch asked
    rintro _ b ⟨⟩ leads
    have none := leads.leaf?_eq_none
    rw [leaf?_eq, ← hooked, free, native] at none
    cases none
  | @list type item e result e' free other listed inner ih =>
    cases result with
    | error error => cases ok
    | ok resolved =>
      rw [hooked] at free
      have met : ∀ type', ((e.note (.resolving (U.path type))).meet U type).hooksOf U type' =
          hooks type' := fun type' => (hooksOf_of_met U rfl type').trans (hooked type')
      have trusts' : ((e.note (.resolving (U.path type))).meet U type).Trusts hooks :=
        trusts.congr rfl le_rfl
      refine (ih met uses trusts' (regular.closed _ _ inside (.item free listed)) rfl).pass rfl ?_
        fun _ _ _ asked => nomatch asked
      rintro _ b ⟨⟩ - leads
      rw [leads.of_item listed]
      exact (inner.knows met trusts').withoutPointers
  | @struct type e result e' free other struct inner ih =>
    subst ok
    rw [hooked] at free
    have met : ∀ type', ((e.note (.resolving (U.path type))).meet U type).hooksOf U type' =
        hooks type' := fun type' => (hooksOf_of_met U rfl type').trans (hooked type')
    have covers := ih met uses (trusts.congr rfl le_rfl) ⟨inside, free⟩ rfl
    refine covers.pass rfl ?_ fun _ _ _ asked => nomatch asked
    rintro _ b ⟨⟩ miss leads
    refine covers.closes type b inside miss ?_ leads
    rw [inner.lookup_of_object]
    exact fun none => nomatch none
  | @begun type options e object fields result e' miss detail made inner ih =>
    subst ok
    have walks := ih hooked uses (trusts.begin type object) (fun field listed text content tagged =>
      regular.closed _ _ inside.1 (.field inside.2 detail listed tagged)) rfl
    exact .begun inner walks trusts.live regular uses inside.1 detail
  | done =>
    refine .nothing rfl rfl (fun _ _ asked => nomatch asked) ?_
    rintro _ _ _ ⟨⟩
    rfl
  | @untagged id path field rest e result e' untagged inner ih =>
    have covers := ih hooked uses trusts
      (fun other listed => inside other (List.mem_cons_of_mem _ listed)) ok
    refine ⟨covers.owned, covers.closes, fun _ _ asked => (nomatch asked), ?_⟩
    rintro _ _ _ ⟨⟩ other listed text content tagged
    rcases List.mem_cons.1 listed with rfl | after
    · exact absurd untagged (RecordField.tag?_ne_none_of_tagged tagged)
    · exact covers.visited _ _ _ rfl other after text content tagged
  | @tagged id path field text type rest e resolved e₁ result e' content first live inner ih₁ ih₂ =>
    subst ok
    have resolves := ih₁ hooked uses trusts (inside field List.mem_cons_self text type content) rfl
    have exposed : ∀ other,
        (e₁.expose U id path field.name (.parse text) type resolved).hooksOf U other =
          hooks other := fun other => by
      rw [hooksOf_of_met U (e₁.expose_registry U id path field.name _ type resolved),
        first.hooksOf, hooked]
    have policy₁ := first.keeps.policy.trans uses
    have trusts₁ : (e₁.expose U id path field.name (.parse text) type resolved).Trusts hooks :=
      (trusts.after first).congr (by rw [expose_cache]) (by simp)
    have walks := ih₂ exposed (by rw [expose_cache, policy₁]) trusts₁
      (fun other listed => inside other (List.mem_cons_of_mem _ listed)) rfl
    exact .tagged content (first.knows hooked trusts) resolves inner walks

end Coverage

end RecordSchema
