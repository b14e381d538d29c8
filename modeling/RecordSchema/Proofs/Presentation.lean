import RecordSchema.Proofs.Coverage
import RecordSchema.Proofs.Permanence
import RecordSchema.Proofs.Renaming

/-!
# The schema that requests leave behind

Between requests an encoder presents the schema of the structs that it was led to so far: each of
them has a finished object, what is cached for a type is its meaning, and with a type all that it
leads to is cached (`Encoder.Presents`).  A request goes on from there.  It fails only on a type
that is not recognized or where it has no answer in any order of the structs, and otherwise answers
what `Request.reference?` says (`Request.computes`).  The same holds of a whole session
(`Session.presents`).

Which structs come first depends on the order of the requests.  Nothing else does, and this is why
the statements fix a region of types and leave the order of its structs open.
-/

namespace RecordSchema

variable {n : Nat}

open Encoder Reference

/-! ## What a request asks for -/

/-- The types of the tagged fields, below all pointers. -/
def Reference.fieldTypes (fields : List (RecordField n)) : List (TypeExpr n) :=
  fields.filterMap fun field =>
    match field.content with
    | .tagged _ content => some content.withoutPointers
    | _ => none

theorem Reference.fieldTypes_cons_of_untagged {field : RecordField n} (untagged : field.tag? = none)
    (rest : List (RecordField n)) : fieldTypes (field :: rest) = fieldTypes rest := by
  refine List.filterMap_cons_none ?_
  cases content : field.content with
  | hidden | untagged => rfl
  | tagged text type => simp [RecordField.tag?, content] at untagged

theorem Reference.fieldTypes_cons_of_tagged {field : RecordField n} {text : String}
    {type : TypeExpr n} (content : field.content = .tagged text type)
    (rest : List (RecordField n)) :
    fieldTypes (field :: rest) = type.withoutPointers :: fieldTypes rest :=
  List.filterMap_cons_some (by rw [content])

/-- The types that a request resolves, below all pointers. -/
def Request.roots (U : Universe n) : Request n → List (TypeExpr n)
  | .structOf type _ | .arrayOf type _ | .resolveType type => [type.withoutPointers]
  | .argsOf type =>
    match U.detail type.withoutPointers with
    | .struct fields => fieldTypes fields
    | _ => []
  | _ => []

theorem Reference.plain_of_mem_fieldTypes {fields : List (RecordField n)} {type : TypeExpr n}
    (listed : type ∈ fieldTypes fields) : type.isPointer = false := by
  obtain ⟨field, -, same⟩ := List.mem_filterMap.1 listed
  split at same
  · cases same
    exact TypeExpr.isPointer_withoutPointers _
  · cases same

theorem Request.plain_of_mem_roots {U : Universe n} {request : Request n} {type : TypeExpr n}
    (listed : type ∈ request.roots U) : type.isPointer = false := by
  cases request with
  | structOf | arrayOf | resolveType =>
    rw [List.mem_singleton.1 listed]
    exact TypeExpr.isPointer_withoutPointers _
  | argsOf type =>
    simp only [Request.roots] at listed
    split at listed
    · exact plain_of_mem_fieldTypes listed
    · cases listed
  | structOfInfo | argsOfInfo | fieldOf | registerHook | insertHook => cases listed

/-- A request without options for an object, an argument map or a schema type.  It does not ask for
the object of a struct for which a provider decides. -/
def Request.Schematic (U : Universe n) (hooks : TypeExpr n → Hooks) : Request n → Prop
  | .structOf type options | .arrayOf type options =>
    options = [] ∧ (U.isStruct type.withoutPointers →
      (hooks type.withoutPointers).typeProvider = none)
  | .argsOf _ | .resolveType _ => True
  | _ => False

/-! ## The encoder between requests -/

/-- The encoder presents the schema of the structs in an order, whose types are in a region. -/
structure Encoder.Presents (U : Universe n) (hooks : TypeExpr n → Hooks) (policy : KeyPolicy)
    (region : TypeExpr n → Prop) (order : List (TypeExpr n)) (e : Encoder n) : Prop where
  mirrors : Mirrors U hooks policy region order e
  finished : ∀ position struct, order[position]? = some struct →
    Finished U hooks order e.arena position struct
  owned : ∀ key, e.cache.types.get? key ≠ none → ∃ type, region type ∧ policy.text U type = key
  closed : ∀ a b, region a → e.cache.lookup U a ≠ none → Leads U hooks a b →
    e.cache.lookup U b ≠ none

section Presents

variable {U : Universe n} {hooks : TypeExpr n → Hooks} {policy : KeyPolicy}
  {region : TypeExpr n → Prop} {type struct : TypeExpr n} {order order' : List (TypeExpr n)}
  {e e' : Encoder n} {call : Call n} {resolved : SchemaType}

/-- An encoder that has built nothing presents the empty schema. -/
theorem Encoder.presents_start (region : TypeExpr n → Prop) (cache : e.cache = .empty policy)
    (arena : e.arena = .empty) : Presents U (e.hooksOf U) policy region [] e where
  mirrors := mirrors_start region cache arena
  finished position struct numbered := by cases numbered
  owned key known := by
    rw [cache] at known
    exact absurd rfl known
  closed a b _ known := by
    rw [cache] at known
    exact absurd rfl known

namespace Encoder.Presents

theorem congr (presents : Presents U hooks policy region order e) (cache : e'.cache = e.cache)
    (arena : e'.arena = e.arena) (hooked : ∀ type, e'.hooksOf U type = e.hooksOf U type) :
    Presents U hooks policy region order e' where
  mirrors := presents.mirrors.congr cache (by rw [arena]) hooked
  finished position struct numbered :=
    (presents.finished position struct numbered).mono (by rw [arena]) (List.prefix_refl _)
  owned := by rw [cache]; exact presents.owned
  closed := by rw [cache]; exact presents.closed

theorem note (presents : Presents U hooks policy region order e) (event : Event n) :
    Presents U hooks policy region order (e.note event) :=
  presents.congr rfl rfl fun _ => rfl

theorem know (presents : Presents U hooks policy region order e) {registry : Registry n}
    (grown : e.registry.Extends U registry) :
    Presents U hooks policy region order (e.know registry) :=
  presents.congr rfl rfl (hooksOf_know grown)

/-- A type whose parts are cached may be cached with its meaning. -/
theorem store (presents : Presents U hooks policy region order e)
    (regular : Regular U hooks policy region) (inside : region type)
    (means : meaning U hooks order type = some resolved)
    (leads : ∀ b, Leads U hooks type b → e.cache.lookup U b ≠ none) :
    Presents U hooks policy region order (e.store U type resolved) where
  mirrors := presents.mirrors.store regular inside means
  finished := presents.finished
  owned key known := by
    rw [store_cache, TypeCache.types_register] at known
    split at known
    · next same =>
      rw [TypeCache.key_eq, presents.mirrors.policy,
        TypeExpr.withoutPointers_eq_self (regular.plain _ inside)] at same
      exact ⟨type, inside, same⟩
    · exact presents.owned key known
  closed a b insideA known step := by
    refine lookup_store_ne_none type resolved ?_
    rw [store_cache, TypeCache.lookup_register] at known
    split at known
    · next same =>
      obtain rfl := regular.eq_of_key presents.mirrors.policy inside insideA same
      exact leads b step
    · exact presents.closed a b insideA known step

/-- With a type, all that is reached from it is cached. -/
theorem cached_of_reached (presents : Presents U hooks policy region order e)
    (regular : Regular U hooks policy region) {root : TypeExpr n} (inside : region root)
    (known : e.cache.lookup U root ≠ none) (reached : Reached U hooks root type) :
    region type ∧ e.cache.lookup U type ≠ none := by
  induction reached with
  | refl => exact ⟨inside, known⟩
  | tail _ last ih => exact ⟨regular.closed _ _ ih.1 last, presents.closed _ _ ih.1 ih.2 last⟩

/-- A cached type of the region has a meaning, which is what is cached for it. -/
theorem means_of_cached (presents : Presents U hooks policy region order e) (inside : region type)
    (known : e.cache.lookup U type ≠ none) :
    ∃ resolved, e.cache.lookup U type = some resolved ∧
      meaning U hooks order type = some resolved := by
  obtain ⟨resolved, hit⟩ := Option.ne_none_iff_exists'.1 known
  exact ⟨resolved, hit, presents.mirrors.entries type resolved inside hit⟩

/-- A call goes on with the schema. -/
theorem after_call (presents : Presents U hooks policy region order e)
    (regular : Regular U hooks policy region) {result : Except EncodeError SchemaType}
    (course : Course U call e result e') (asked : call.type? = some type)
    (fits : call.Fits U hooks region e) :
    match result with
    | .error _ => ∃ type, region type ∧ Unrecognized U hooks type
    | .ok resolved => ∃ order', order <+: order' ∧ Presents U hooks policy region order' e' ∧
        meaning U hooks order' type = some resolved ∧ call.Covers U hooks policy region e e' := by
  have computes := course.mirrors regular order fits presents.mirrors
  cases result with
  | error error => exact computes
  | ok resolved =>
    obtain ⟨order', adds⟩ := computes
    have covers := course.covers regular presents.mirrors.hooked presents.mirrors.policy
      presents.mirrors.trusts fits.in
    refine ⟨order', adds.walk.grows, ⟨adds.faithful, ?_, ?_, ?_⟩, adds.means type asked, covers⟩
    · intro position struct numbered
      by_cases early : position < order.length
      · have own : order[position]? = some struct := by
          obtain ⟨later, rfl⟩ := adds.walk.grows
          rwa [List.getElem?_append_left early] at numbered
        have live : e.arena.contains ⟨position + 1⟩ := by
          rw [Arena.contains_iff, presents.mirrors.size]
          exact ⟨Nat.succ_pos _, early⟩
        have other : call.target? ≠ some ⟨position + 1⟩ := by
          cases call with
          | walk => cases asked
          | resolve | build | object => exact fun same => nomatch same
        exact (presents.finished position struct own).mono (course.untouched live other)
          adds.walk.grows
      · exact adds.finished position struct (not_lt.1 early) numbered
    · intro key known
      rcases covers.owned_key key known with old | new
      · exact presents.owned key old
      · exact new
    · intro a b inside known step
      by_cases fresh : e.cache.lookup U a = none
      · exact (covers.closes a b inside fresh known step).lookup_ne_none
      · exact course.keeps.lookup_ne_none (presents.closed a b inside fresh step)

end Encoder.Presents

end Presents

/-! ## Steps of a request -/

/-- What a successful step leaves: the schema with more structs, the meant result, and certain types
in the cache. -/
structure Build.Adds {α : Type} (U : Universe n) (hooks : TypeExpr n → Hooks) (policy : KeyPolicy)
    (region : TypeExpr n → Prop) (meant : List (TypeExpr n) → Option α) (roots : List (TypeExpr n))
    (order : List (TypeExpr n)) (e : Encoder n) (a : α) (e' : Encoder n)
    (order' : List (TypeExpr n)) : Prop where
  grown : order <+: order'
  presents : Presents U hooks policy region order' e'
  means : meant order' = some a
  kept : ∀ type, e.cache.lookup U type ≠ none → e'.cache.lookup U type ≠ none
  cached : ∀ root ∈ roots, e'.cache.lookup U root ≠ none

/-- A step that computes what is meant.  It fails only if the region holds a type that is not
recognized. -/
def Build.Computes {α : Type} (U : Universe n) (hooks : TypeExpr n → Hooks) (policy : KeyPolicy)
    (region : TypeExpr n → Prop) (meant : List (TypeExpr n) → Option α) (roots : List (TypeExpr n))
    (step : Build n α) : Prop :=
  ∀ order e result e', Presents U hooks policy region order e →
    step.outcome e = some (result, e') →
      match result with
      | .error _ => ∃ type, region type ∧ Unrecognized U hooks type
      | .ok a => ∃ order', Adds U hooks policy region meant roots order e a e' order'

namespace Build

variable {α β : Type} {U : Universe n} {hooks : TypeExpr n → Hooks} {policy : KeyPolicy}
  {region : TypeExpr n → Prop} {meant : List (TypeExpr n) → Option α} {type : TypeExpr n}
  {roots : List (TypeExpr n)} {step : Build n α}

theorem computes_map (f : α → β) (computes : step.Computes U hooks policy region meant roots) :
    Build.Computes U hooks policy region (fun order => (meant order).map f) roots (f <$> step) := by
  intro order e result e' presents run
  rw [outcome_map, Option.map_eq_some_iff] at run
  obtain ⟨⟨inner, e₁⟩, ran, same⟩ := run
  cases same
  have computed := computes order e inner e₁ presents ran
  cases inner with
  | error error => exact computed
  | ok a =>
    obtain ⟨order', adds⟩ := computed
    exact ⟨order', adds.grown, adds.presents, by rw [adds.means]; rfl, adds.kept, adds.cached⟩

/-- A step may go on after the types that it is about were registered. -/
theorem computes_registered (type : TypeExpr n)
    (computes : step.Computes U hooks policy region meant roots) :
    Build.Computes U hooks policy region meant roots (do register U type; step) := by
  intro order e result e' presents run
  obtain ⟨registry, registered, grown, -⟩ := outcome_register U type e
  rw [outcome_bind_ok registered] at run
  have computed := computes order _ result e' (presents.know grown) run
  cases result with
  | error error => exact computed
  | ok a =>
    obtain ⟨order', adds⟩ := computed
    exact ⟨order', adds.grown, adds.presents, adds.means, adds.kept, adds.cached⟩

variable (regular : Regular U hooks policy region)

include regular

theorem computes_resolveType (inside : region type.withoutPointers) :
    (resolveType U type).Computes U hooks policy region (fun order => meaning U hooks order type)
      [type.withoutPointers] := by
  intro order e result e' presents run
  have course := course_resolve run
  have called := presents.after_call regular course rfl inside
  cases result with
  | error error => exact called
  | ok resolved =>
    obtain ⟨order', grown, presents', means, -⟩ := called
    refine ⟨order', grown, presents', means, fun _ => course.keeps.lookup_ne_none, ?_⟩
    intro root listed
    rw [List.mem_singleton.1 listed, TypeCache.lookup_withoutPointers, course.lookup_of_resolve]
    exact fun none => nomatch none

theorem computes_structOfInfo (inside : region type.withoutPointers)
    (struct : U.isStruct type.withoutPointers)
    (free : (hooks type.withoutPointers).typeProvider = none) :
    (structOfInfo U type []).Computes U hooks policy region
      (fun order => (meaning U hooks order type).bind SchemaType.object?)
      [type.withoutPointers] := by
  intro order e result e' presents run
  have course := course_object run
  have called := presents.after_call regular course rfl ⟨inside, struct, free, rfl⟩
  cases result with
  | error error => exact called
  | ok id =>
    obtain ⟨order', grown, presents', means, -⟩ := called
    rw [meaning_withoutPointers] at means
    refine ⟨order', grown, presents', ?_, fun _ => course.keeps.lookup_ne_none, ?_⟩
    · simp only [means]
      rfl
    · intro root listed
      rw [List.mem_singleton.1 listed, course.lookup_of_object]
      exact fun none => nomatch none

/-- An item that the cache does not know is built and then cached. -/
theorem computes_itemType (plain : type.isPointer = false) (inside : region type)
    (free : U.isStruct type → (hooks type).typeProvider = none) {order : List (TypeExpr n)}
    {e e' : Encoder n} {result : Except EncodeError SchemaType}
    (presents : Presents U hooks policy region order e) (miss : e.cache.lookup U type = none)
    (run : (itemType U type []).outcome e = some (result, e')) :
    match result with
    | .error _ => ∃ type, region type ∧ Unrecognized U hooks type
    | .ok resolved => ∃ order', order <+: order' ∧ meaning U hooks order' type = some resolved ∧
        Presents U hooks policy region order' (e'.store U type resolved) ∧
          ∀ other, e.cache.lookup U other ≠ none → e'.cache.lookup U other ≠ none := by
  unfold itemType at run
  split at run
  · next struct =>
    rw [outcome_map, Option.map_eq_some_iff] at run
    obtain ⟨⟨outcome, e₁⟩, began, same⟩ := run
    cases same
    have course := course_object began
    rw [TypeExpr.withoutPointers_eq_self plain] at course
    have called := presents.after_call regular course rfl
      ⟨inside, struct, free struct, rfl⟩
    cases outcome with
    | error error => exact called
    | ok id =>
      obtain ⟨order', grown, presents', means, -⟩ := called
      refine ⟨order', grown, means, presents'.store regular inside means ?_,
        fun _ => course.keeps.lookup_ne_none⟩
      intro b leads
      refine presents'.closed type b inside ?_ leads
      rw [course.lookup_of_object]
      exact fun none => nomatch none
  · have course := course_build run
    have called := presents.after_call regular course rfl inside
    cases result with
    | error error => exact called
    | ok resolved =>
      obtain ⟨order', grown, presents', means, covers⟩ := called
      exact ⟨order', grown, means, presents'.store regular inside means fun b leads =>
        (covers.leads type b rfl miss leads).lookup_ne_none, fun _ => course.keeps.lookup_ne_none⟩

theorem computes_arrayOf (inside : region type.withoutPointers)
    (free : U.isStruct type.withoutPointers → (hooks type.withoutPointers).typeProvider = none) :
    (arrayOf U type []).Computes U hooks policy region
      (fun order => (meaning U hooks order type).map .list) [type.withoutPointers] := by
  intro order e result e' presents run
  obtain ⟨registry, registered, grown, -⟩ := outcome_register U type e
  have start := presents.know grown
  cases hit : (e.know registry).cache.lookup U type with
  | some found =>
    rw [outcome_arrayOf_of_hit registered hit (start.mirrors.sound found)] at run
    cases run
    have known : (e.know registry).cache.lookup U type.withoutPointers = some found := by
      rw [TypeCache.lookup_withoutPointers, hit]
    have means := start.mirrors.entries _ _ inside known
    rw [meaning_withoutPointers] at means
    refine ⟨order, List.prefix_refl _, start.note _, by rw [means]; rfl, fun _ kept => kept, ?_⟩
    intro root listed
    rw [List.mem_singleton.1 listed, note_cache, known]
    exact fun none => nomatch none
  | none =>
    rw [outcome_arrayOf_of_miss registered hit, Option.map_eq_some_iff] at run
    obtain ⟨⟨item, e₁⟩, built, same⟩ := run
    cases same
    rw [← TypeCache.lookup_withoutPointers] at hit
    have called := computes_itemType regular type.isPointer_withoutPointers inside free start hit
      built
    cases item with
    | error error => exact called
    | ok resolved =>
      obtain ⟨order', grown', means, presents', kept⟩ := called
      rw [meaning_withoutPointers] at means
      refine ⟨order', grown', presents', by rw [means]; rfl, ?_, ?_⟩
      · exact fun other known => lookup_store_ne_none _ _ (kept other known)
      · intro root listed
        rw [List.mem_singleton.1 listed, store_cache, TypeCache.lookup_register_self]
        exact fun none => nomatch none

/-! ### Arguments -/

/-- Arguments are added to others, field by field. -/
theorem computes_arguments (path : String) {fields : List (RecordField n)}
    (inside : ∀ root ∈ fieldTypes fields, region root) (start : ArgumentMap) :
    Build.Computes U hooks policy region (fun order => argumentsFrom U hooks order start fields)
      (fieldTypes fields) (fields.foldlM (addArgument U (resolveType U) path) start) := by
  induction fields generalizing start with
  | nil =>
    intro order e result e' presents run
    cases run
    exact ⟨order, List.prefix_refl _, presents, rfl, fun _ kept => kept,
      fun _ listed => nomatch listed⟩
  | cons field rest ih =>
    intro order e result e' presents run
    rw [List.foldlM_cons] at run
    cases content : field.content with
    | hidden | untagged =>
      have untagged : field.tag? = none := by simp [RecordField.tag?, content]
      have skipped : addArgument U (resolveType U) path start field = pure start := by
        simp [addArgument, content]
      rw [skipped, pure_bind] at run
      rw [fieldTypes_cons_of_untagged untagged] at inside ⊢
      simp only [argumentsFrom_cons_of_untagged untagged]
      exact ih inside start order e result e' presents run
    | tagged text type =>
      rw [fieldTypes_cons_of_tagged content] at inside ⊢
      obtain ⟨first, e₁, resolves⟩ := resolveType_ends (U := U) type e
      have own := inside _ List.mem_cons_self
      have computed := computes_resolveType regular own order e first e₁ presents resolves
      cases first with
      | error error =>
        have failed : (addArgument U (resolveType U) path start field).outcome e =
            some (.error (error.inStruct path field.name), e₁) := by
          unfold addArgument
          rw [content]
          exact outcome_bind_error (outcome_fieldType_error U resolves) _
        rw [outcome_bind_error failed] at run
        cases run
        exact computed
      | ok resolved =>
        obtain ⟨order₁, adds⟩ := computed
        obtain ⟨e₂, added, same⟩ := addArgument_of_ok content path start resolves
        rw [outcome_bind_ok added] at run
        have between : Presents U hooks policy region order₁ e₂ :=
          adds.presents.congr same.cache same.arena (hooksOf_of_registry U same.registry)
        have later := ih (fun root listed => inside root (List.mem_cons_of_mem _ listed)) _ order₁
          e₂ result e' between run
        cases result with
        | error error => exact later
        | ok arguments =>
          obtain ⟨order', adds'⟩ := later
          have kept : ∀ other, e₁.cache.lookup U other ≠ none → e'.cache.lookup U other ≠ none :=
            fun other known => adds'.kept other (by rwa [same.cache])
          refine ⟨order', adds.grown.trans adds'.grown, adds'.presents, ?_,
            fun other known => kept other (adds.kept other known), ?_⟩
          · simp only [argumentsFrom_cons_of_tagged content, typeUnder_eq]
            rw [meaning_mono adds'.grown adds.means]
            exact adds'.means
          · intro root listed
            rcases List.mem_cons.1 listed with rfl | listed
            · exact kept _ (adds.cached _ List.mem_cons_self)
            · exact adds'.cached root listed

theorem computes_argsOf {fields : List (RecordField n)}
    (struct : U.detail type.withoutPointers = .struct fields)
    (inside : ∀ root ∈ fieldTypes fields, region root) :
    (argsOf U type).Computes U hooks policy region
      (fun order => argumentsFrom U hooks order .empty fields) (fieldTypes fields) := by
  refine computes_registered type ?_
  rw [argsOfInfo_eq, argumentsWith_of_struct _ struct]
  exact computes_arguments regular _ inside _

end Build

/-! ## Requests -/

section Requests

variable {U : Universe n} {hooks : TypeExpr n → Hooks} {policy : KeyPolicy}
  {region : TypeExpr n → Prop} {type : TypeExpr n} {order : List (TypeExpr n)} {e e' : Encoder n}

/-- The meaning of a type is an object only if a struct is below its pointers. -/
theorem Reference.isStruct_of_meaning
    (free : ∀ type given, (hooks type).typeProvider = some given → given.handles = [])
    {id : ObjectId} (means : meaning U hooks order type = some (.object id)) :
    U.isStruct type.withoutPointers := by
  rw [← meaning_withoutPointers, meaning_eq type.isPointer_withoutPointers] at means
  cases leaf : leaf? U hooks type.withoutPointers with
  | some given =>
    rw [leaf] at means
    cases means
    cases handles_of_leaf? free leaf
  | none =>
    rw [leaf, Option.none_or] at means
    split at means
    · obtain ⟨inner, -, same⟩ := Option.map_eq_some_iff.1 means
      cases same
    · split at means
      · assumption
      · cases means

/-- No object is given for a type that is no struct. -/
theorem Build.structOf_of_other
    (free : ∀ type given, (hooks type).typeProvider = some given → given.handles = [])
    (inside : region type.withoutPointers) (noStruct : U.isStruct type.withoutPointers = false)
    (presents : Presents U hooks policy region order e)
    {options : List (SchemaOption n)} {result : Except EncodeError ObjectId}
    (run : (structOf U type options).outcome e = some (result, e')) :
    ∃ error, result = .error error := by
  obtain ⟨registry, registered, grown, -⟩ := Build.outcome_register U type e
  unfold structOf at run
  rw [Build.outcome_bind_ok registered] at run
  have course := course_object run
  cases result with
  | error error => exact ⟨error, rfl⟩
  | ok id =>
    cases course with
    | objectRecalled hit sound =>
      have means := (presents.know grown).mirrors.entries _ _ inside hit
      rw [meaning_withoutPointers] at means
      rw [isStruct_of_meaning free means] at noStruct
      cases noStruct
    | begun miss struct =>
      rw [Universe.isStruct_of_detail struct] at noStruct
      cases noStruct

/-- A request has an answer in some order of the structs, and then it is answered like this unless
the region holds a type that is not recognized. -/
theorem Request.computes (regular : Regular U hooks policy region)
    (free : ∀ type given, (hooks type).typeProvider = some given → given.handles = [])
    {request : Request n} (schematic : request.Schematic U hooks)
    (inside : ∀ root ∈ request.roots U, region root) :
    Build.Computes U hooks policy region (request.reference? U hooks) (request.roots U)
        (request.run U) ∨
      (∀ order, request.reference? U hooks order = none) ∧
        ∀ order e answer e', Presents U hooks policy region order e →
          (request.run U).outcome e = some (answer, e') → ∃ error, answer = .error error := by
  cases request with
  | structOf type options =>
    obtain ⟨rfl, spared⟩ := schematic
    have own := inside _ List.mem_cons_self
    cases struct : U.isStruct type.withoutPointers with
    | true =>
      exact .inl (Build.computes_map _ (Build.computes_registered type
        (Build.computes_structOfInfo regular own struct (spared struct))))
    | false =>
      refine .inr ⟨fun order => ?_, fun order e answer e' presents run => ?_⟩
      · simp only [Request.reference?]
        cases means : meaning U hooks order type with
        | none => rfl
        | some resolved =>
          cases resolved with
          | object id =>
            rw [isStruct_of_meaning free means] at struct
            cases struct
          | scalar | list | nonNull => rfl
      · change (Answer.object <$> Encoder.structOf U type []).outcome e = _ at run
        rw [Build.outcome_map, Option.map_eq_some_iff] at run
        obtain ⟨⟨result, e₁⟩, ran, same⟩ := run
        cases same
        obtain ⟨error, rfl⟩ := Build.structOf_of_other free own struct presents ran
        exact ⟨error, rfl⟩
  | argsOf type =>
    rcases Universe.struct_or_not U type.withoutPointers with ⟨fields, struct⟩ | noStruct
    · have roots : (Request.argsOf type).roots U = fieldTypes fields := by
        simp only [Request.roots, struct]
      have meant : (Request.argsOf type).reference? U hooks = fun order =>
          (argumentsFrom U hooks order .empty fields).map .arguments := by
        funext order
        simp only [Request.reference?, struct]
      rw [roots] at inside ⊢
      rw [meant]
      exact .inl (Build.computes_map _ (Build.computes_argsOf regular struct inside))
    · refine .inr ⟨fun order => ?_, fun order e answer e' presents run => ?_⟩
      · simp only [Request.reference?]
        cases detail : U.detail type.withoutPointers with
        | struct fields =>
          rw [Universe.isStruct_of_detail detail] at noStruct
          cases noStruct
        | primitive | list | array | pointer | map | closed | dynamic => rfl
      · obtain ⟨registry, registered, -, -⟩ := Build.outcome_register U type e
        change (Answer.arguments <$> Encoder.argsOf U type).outcome e = _ at run
        rw [Build.outcome_map] at run
        unfold Encoder.argsOf at run
        rw [Build.outcome_bind_ok registered, Build.argsOfInfo_eq,
          Build.argumentsWith_of_other _ noStruct] at run
        cases run
        exact ⟨_, rfl⟩
  | arrayOf type options =>
    obtain ⟨rfl, spared⟩ := schematic
    have computes := Build.computes_map Answer.type
      (Build.computes_arrayOf regular (inside _ List.mem_cons_self) spared)
    simp only [Option.map_map] at computes
    exact .inl computes
  | resolveType type =>
    exact .inl (Build.computes_map _
      (Build.computes_resolveType regular (inside _ List.mem_cons_self)))
  | structOfInfo | argsOfInfo | fieldOf | registerHook | insertHook => cases schematic

end Requests

end RecordSchema
