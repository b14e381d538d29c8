import RecordSchema.Proofs.Growth

/-!
# Builds always end

No argument of the recursion gets smaller: the declared types may refer to each other in cycles.
But an object is begun only for a struct whose key is absent from the cache, the key is stored
before the fields are walked, and no key ever leaves the cache.  So the number of declared types
with absent keys bounds the nesting of objects from every encoder, and the bound that the definition
of the builder starts from is never exceeded: `structOfInfo_ends`, `resolveType_ends` and
`buildType_ends`.
-/

namespace RecordSchema

variable {n : Nat}

namespace Encoder

variable {U : Universe n} {m : Nat} {e e' : Encoder n}

/-- How many declared types have a key that the cache does not know. -/
def absent (U : Universe n) (e : Encoder n) : Nat :=
  (Finset.univ.filter fun index : Fin n => e.cache.lookup U (.declared index) = none).card

theorem absent_le (U : Universe n) (e : Encoder n) : e.absent U ≤ n :=
  (Finset.card_le_univ _).trans_eq (Fintype.card_fin n)

theorem lookup_eq_none_of_keeps (h : Keeps m e e') {type : TypeExpr n}
    (miss : e'.cache.lookup U type = none) : e.cache.lookup U type = none := by
  cases hit : e.cache.lookup U type with
  | none => rfl
  | some found =>
    rw [h.lookup hit] at miss
    cases miss

theorem Keeps.absent_le (h : Keeps m e e') : e'.absent U ≤ e.absent U := by
  apply Finset.card_le_card
  intro index miss
  simp only [Finset.mem_filter, Finset.mem_univ, true_and] at miss ⊢
  exact lookup_eq_none_of_keeps h miss

/-- To begin an object makes a key present. -/
theorem absent_begin_lt {index : Fin n} (miss : e.cache.lookup U (.declared index) = none)
    (object : ObjectType) : (e.begin U (.declared index) object).absent U < e.absent U := by
  apply Finset.card_lt_card
  rw [Finset.ssubset_iff_of_subset]
  · refine ⟨index, by simpa using miss, ?_⟩
    have stored : (e.begin U (.declared index) object).cache.lookup U (.declared index) =
        some (.object e.arena.nextId) := TypeCache.lookup_register_self U e.cache _ _
    rw [Finset.mem_filter, stored]
    simp
  · intro other absent
    simp only [Finset.mem_filter, Finset.mem_univ, true_and] at absent ⊢
    exact lookup_eq_none_of_keeps (keeps_begin U e miss object) absent

end Encoder

open Encoder

/-- A struct is a declared type. -/
theorem eq_declared_of_struct {U : Universe n} {type : TypeExpr n}
    {fields : List (RecordField n)} (struct : U.detail type = .struct fields) :
    ∃ index, type = .declared index := by
  cases type with
  | declared index => exact ⟨index, rfl⟩
  | native type => cases type <;> cases struct
  | list | array | pointer | map => cases struct

/-- A step ends on an encoder if it has an outcome there. -/
def Build.Ends {α : Type} (step : Build n α) (e : Encoder n) : Prop :=
  ∃ result e', step.outcome e = some (result, e')

section Bounded

variable {U : Universe n} {bound : Nat} {resolve : TypeExpr n → Build n SchemaType}

/-- What a step for resolving types has to do: it ends while few keys are absent, and takes the
course of the rules. -/
structure Resolves (U : Universe n) (bound : Nat) (resolve : TypeExpr n → Build n SchemaType) :
    Prop where
  ends : ∀ type (e : Encoder n), e.absent U ≤ bound → (resolve type).Ends e
  course : ∀ type e result e', (resolve type).outcome e = some (result, e') →
    Course U (.resolve type) e result e'

theorem populate_ends (h : Resolves U bound resolve) (id : ObjectId) (path : String)
    (fields : List (RecordField n)) {e : Encoder n} (few : e.absent U ≤ bound) :
    (Build.populate U resolve id path fields).Ends e := by
  induction fields generalizing e with
  | nil => exact ⟨_, _, rfl⟩
  | cons field rest ih =>
    change Build.Ends (Build.populateField U resolve id path field >>= fun _ =>
      Build.populate U resolve id path rest) e
    cases content : field.content with
    | hidden | untagged =>
      have untagged : field.tag? = none := by simp [RecordField.tag?, content]
      rw [Build.populateField_of_untagged U resolve id path untagged, pure_bind]
      exact ih few
    | tagged text type =>
      obtain ⟨result, e₁, first⟩ := h.ends type e few
      unfold Build.Ends
      rw [Build.outcome_bind, Build.outcome_populateField U resolve id path content, first]
      cases result with
      | error error => exact ⟨_, _, rfl⟩
      | ok resolved =>
        by_cases live : e₁.arena.contains id
        · simp only [Option.map_some, live, if_true, Option.bind_some]
          apply ih
          have kept := (h.course _ _ _ _ first).keeps.absent_le (U := U)
          have exposed := (keeps_expose U e₁ id path field.name (.parse text) type
            resolved).absent_le (U := U)
          omega
        · exact ⟨.error (.danglingObject id), _, by simp [live]; rfl⟩

theorem objectWith_ends (type : TypeExpr n) (options : List (SchemaOption n)) {e : Encoder n}
    (h : ∀ index, e.cache.lookup U (.declared index) = none →
      ∃ bound, e.absent U ≤ bound + 1 ∧ Resolves U bound resolve) :
    (Build.objectWith U resolve (U.info type) options).Ends e := by
  unfold Build.Ends
  cases hit : e.cache.lookup U type with
  | some found =>
    cases failed : e.cache.failure? found with
    | some error => exact ⟨_, _, Build.outcome_objectWith_of_failed U resolve hit failed⟩
    | none => exact ⟨_, _, Build.outcome_objectWith_of_hit U resolve hit failed⟩
  | none =>
    rcases Universe.struct_or_not U type with ⟨fields, struct⟩ | noStruct
    · cases made : SchemaOption.applyAllToObject options
          { name := objectName (U.name type) } with
      | error error =>
        exact ⟨_, _, Build.outcome_objectWith_of_refused U resolve hit struct made⟩
      | ok object =>
        rw [Build.outcome_objectWith_of_begun U resolve hit struct made]
        obtain ⟨index, rfl⟩ := eq_declared_of_struct struct
        obtain ⟨bound, few, resolves⟩ := h index hit
        have fewer : (e.begin U (.declared index) object).absent U ≤ bound := by
          have less := absent_begin_lt hit object
          omega
        obtain ⟨result, e', walked⟩ := populate_ends resolves e.arena.nextId
          (U.path (.declared index)) fields fewer
        exact ⟨_, _, by rw [walked]; rfl⟩
    · exact ⟨_, _, Build.outcome_objectWith_of_other U resolve hit noStruct⟩

end Bounded

section Recursion

variable {U : Universe n} {bound : Nat} {object : TypeExpr n → Build n ObjectId}
  (objects : ∀ type (e : Encoder n), e.absent U ≤ bound → (object type).Ends e)

include objects

theorem buildType_ends_of (type : TypeExpr n)
    (items : ∀ item, type.item? = some item → ∀ e : Encoder n, e.absent U ≤ bound →
      (Build.resolve U object item).Ends e)
    {e : Encoder n} (few : e.absent U ≤ bound) : (Build.buildType U object type).Ends e := by
  unfold Build.Ends
  rw [buildType_eq, Build.outcome_buildBy]
  cases (e.hooksOf U type).typeProvider with
  | some given => exact ⟨_, _, rfl⟩
  | none =>
    cases (U.info type).scalar? with
    | some leaf => exact ⟨_, _, rfl⟩
    | none =>
      cases listed : type.item? with
      | some item =>
        obtain ⟨result, e', resolved⟩ := items item listed
          ((e.note (.resolving (U.path type))).meet U type) few
        simp only [Build.outcome_map, resolved]
        exact ⟨_, _, rfl⟩
      | none =>
        cases U.isStruct type with
        | true =>
          obtain ⟨result, e', built⟩ := objects type
            ((e.note (.resolving (U.path type))).meet U type) few
          simp only [if_true, Build.outcome_map, built]
          exact ⟨_, _, rfl⟩
        | false => exact ⟨_, _, rfl⟩

omit objects in
theorem recalled_ends_of {type : TypeExpr n} {build : Build n SchemaType} {e : Encoder n}
    (builds : build.Ends e) : (Build.recalled U type build).Ends e := by
  unfold Build.Ends
  cases hit : e.cache.lookup U type with
  | some found =>
    cases failed : e.cache.failure? found with
    | some error => exact ⟨_, _, Build.outcome_recalled_of_failed U hit failed build⟩
    | none => exact ⟨_, _, Build.outcome_recalled_of_hit U hit failed build⟩
  | none =>
    obtain ⟨result, e', built⟩ := builds
    rw [Build.outcome_recalled_of_miss U hit, built]
    exact ⟨_, _, rfl⟩

theorem resolve_ends_of (type : TypeExpr n) {e : Encoder n} (few : e.absent U ≤ bound) :
    (Build.resolve U object type).Ends e := by
  induction type generalizing e with
  | pointer shape pointee ih => exact ih few
  | list shape item ih =>
    refine recalled_ends_of (buildType_ends_of objects (.list shape item) ?_ few)
    intro item' same
    cases same
    exact fun _ => ih
  | array item length ih =>
    refine recalled_ends_of (buildType_ends_of objects (.array item length) ?_ few)
    intro item' same
    cases same
    exact fun _ => ih
  | native type =>
    exact recalled_ends_of
      (buildType_ends_of objects (.native type) (fun _ same => by cases same) few)
  | declared index =>
    exact recalled_ends_of
      (buildType_ends_of objects (.declared index) (fun _ same => by cases same) few)
  | map shape key value =>
    exact recalled_ends_of
      (buildType_ends_of objects (.map shape key value) (fun _ same => by cases same) few)

end Recursion

section Ends

variable (U : Universe n)

/-- The building of an object ends if no more keys are absent than objects may be nested. -/
theorem objectAt_ends (depth : Nat) (type : TypeExpr n) (options : List (SchemaOption n))
    {e : Encoder n} (few : e.absent U ≤ depth) : (Build.objectAt U depth type options).Ends e := by
  induction depth generalizing type options e with
  | zero =>
    unfold Build.objectAt
    rw [Universe.withoutPointers_info]
    refine objectWith_ends _ _ fun index miss => ?_
    -- Without an absent key no object is begun, so nothing is resolved.
    have present := absent_begin_lt miss { name := "" }
    omega
  | succ depth ih =>
    unfold Build.objectAt
    rw [Universe.withoutPointers_info]
    refine objectWith_ends _ _ fun index miss => ⟨depth, few, ?_⟩
    constructor
    · intro type e few
      exact resolve_ends_of (fun type e few => ih type [] few) type few
    · intro type e result e' run
      refine course_resolve_of (fun type e result e' struct built => ?_) type run
      have course := course_objectAt depth type [] built
      rwa [TypeExpr.withoutPointers_eq_self (isPointer_eq_false_of_struct struct)] at course

/-- The building of an object ends on every encoder. -/
theorem structOfInfo_ends (type : TypeExpr n) (options : List (SchemaOption n)) (e : Encoder n) :
    (Encoder.structOfInfo U type options).Ends e :=
  objectAt_ends U n type options (e.absent_le U)

/-- Resolving a type ends on every encoder. -/
theorem resolveType_ends (type : TypeExpr n) (e : Encoder n) :
    (Encoder.resolveType U type).Ends e :=
  resolve_ends_of (fun type e _ => structOfInfo_ends U type [] e) type (e.absent_le U)

/-- Building past the cache ends on every encoder. -/
theorem buildType_ends (type : TypeExpr n) (e : Encoder n) :
    (Build.buildType U (fun type => Encoder.structOfInfo U type []) type).Ends e :=
  buildType_ends_of (fun type e _ => structOfInfo_ends U type [] e) type
    (fun item _ e _ => resolveType_ends U item e) (e.absent_le U)

end Ends

end RecordSchema
