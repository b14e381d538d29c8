import RecordSchema.Proofs.Faithfulness
import RecordSchema.Proofs.Presentation

/-!
# The order of requests

The requests of a session lead to a region of types: those that are reached from the types that they
resolve.  If all of them succeed, exactly this region is cached in the end, and every struct in it
for which no provider decides has its object.  Another order of the same requests leads to the same
region, so all that it can change is the order of the structs, and with it the handles of their
objects (`Session.permuted_requests_correspond`).
-/

namespace RecordSchema

variable {n : Nat}

open Encoder Reference

/-! ## Sessions -/

/-- The types that requests lead to. -/
def Session.Reaches (U : Universe n) (hooks : TypeExpr n → Hooks) (requests : List (Request n))
    (type : TypeExpr n) : Prop :=
  ∃ request ∈ requests, ∃ root ∈ request.roots U, Reached U hooks root type

/-- The answer to a request that has one in an order of the structs. -/
def Request.answer (U : Universe n) (hooks : TypeExpr n → Hooks) (order : List (TypeExpr n))
    (request : Request n) : Answer :=
  (request.reference? U hooks order).getD (.attached false)

/-- What a session leaves whose requests all succeeded. -/
structure Session.Adds (U : Universe n) (hooks : TypeExpr n → Hooks) (policy : KeyPolicy)
    (region : TypeExpr n → Prop) (requests : List (Request n)) (order : List (TypeExpr n))
    (e : Encoder n) (answers : List (Except EncodeError Answer)) (e' : Encoder n)
    (order' : List (TypeExpr n)) : Prop where
  grown : order <+: order'
  presents : Presents U hooks policy region order' e'
  answers : answers = requests.map fun request => .ok (request.answer U hooks order')
  answered : ∀ request ∈ requests, request.reference? U hooks order' ≠ none
  kept : ∀ type, e.cache.lookup U type ≠ none → e'.cache.lookup U type ≠ none
  cached : ∀ request ∈ requests, ∀ root ∈ request.roots U, e'.cache.lookup U root ≠ none

section Sessions

variable {U : Universe n} {hooks : TypeExpr n → Hooks} {policy : KeyPolicy}
  {region : TypeExpr n → Prop} {requests permuted : List (Request n)} {type : TypeExpr n}
  {order order' : List (TypeExpr n)} {e e' : Encoder n}

/-- A session goes on with the schema, unless a request fails: then the region holds a type that is
not recognized, or the request has no answer in any order. -/
theorem Session.presents (regular : Regular U hooks policy region)
    (free : ∀ type given, (hooks type).typeProvider = some given → given.handles = [])
    (schematic : ∀ request ∈ requests, request.Schematic U hooks)
    (inside : ∀ request ∈ requests, ∀ root ∈ request.roots U, region root)
    {answers : List (Except EncodeError Answer)}
    (run : Session.run U requests e = some (answers, e'))
    (presents : Presents U hooks policy region order e) :
    (∃ order', Session.Adds U hooks policy region requests order e answers e' order') ∨
      (∃ error, .error error ∈ answers) ∧
        ((∃ type, region type ∧ Unrecognized U hooks type) ∨
          ∃ request ∈ requests, ∀ order, request.reference? U hooks order = none) := by
  induction requests generalizing order e answers with
  | nil =>
    cases run
    refine .inl ⟨order, List.prefix_refl _, presents, rfl, ?_, fun _ kept => kept, ?_⟩
    · rintro _ ⟨⟩
    · rintro _ ⟨⟩
  | cons request rest ih =>
    simp only [Session.run, Option.bind_eq_bind, Option.bind_eq_some_iff] at run
    obtain ⟨⟨answer, e₁⟩, asked, ⟨answers', e₂⟩, later, same⟩ := run
    cases same
    rcases Request.computes regular free (schematic request List.mem_cons_self)
      (inside request List.mem_cons_self) with computes | ⟨unanswered, fails⟩
    · have computed := computes order e answer e₁ presents asked
      cases answer with
      | error error => exact .inr ⟨⟨error, List.mem_cons_self⟩, .inl computed⟩
      | ok given =>
        obtain ⟨order₁, adds⟩ := computed
        rcases ih (fun other listed => schematic other (List.mem_cons_of_mem _ listed))
          (fun other listed => inside other (List.mem_cons_of_mem _ listed)) later
          adds.presents with ⟨order', adds'⟩ | ⟨⟨error, listed⟩, reason⟩
        · have means := Request.reference?_mono adds'.grown adds.means
          refine .inl ⟨order', adds.grown.trans adds'.grown, adds'.presents, ?_, ?_, ?_, ?_⟩
          · rw [List.map_cons, ← adds'.answers]
            unfold Request.answer
            rw [means, Option.getD_some]
          · intro other listed
            rcases List.mem_cons.1 listed with rfl | listed
            · rw [means]
              exact Option.some_ne_none _
            · exact adds'.answered other listed
          · exact fun other known => adds'.kept other (adds.kept other known)
          · intro other listed root rooted
            rcases List.mem_cons.1 listed with rfl | listed
            · exact adds'.kept root (adds.cached root rooted)
            · exact adds'.cached other listed root rooted
        · refine .inr ⟨⟨error, List.mem_cons_of_mem _ listed⟩, reason.imp_right ?_⟩
          rintro ⟨other, listed, unanswered⟩
          exact ⟨other, List.mem_cons_of_mem _ listed, unanswered⟩
    · obtain ⟨error, rfl⟩ := fails order e answer e₁ presents asked
      exact .inr ⟨⟨error, List.mem_cons_self⟩, .inr ⟨request, List.mem_cons_self, unanswered⟩⟩

/-! ## The region that requests lead to -/

/-- What requests lead to is a region, if the keys of its types are different. -/
theorem Session.regular (distinct : ∀ a b, Reaches U hooks requests a → Reaches U hooks requests b →
      policy.text U a = policy.text U b → a = b) :
    Regular U hooks policy (Reaches U hooks requests) where
  plain := by
    rintro type ⟨request, listed, root, rooted, reached⟩
    exact reached.plain (Request.plain_of_mem_roots rooted)
  closed := by
    rintro a b ⟨request, listed, root, rooted, reached⟩ leads
    exact ⟨request, listed, root, rooted, .tail reached leads⟩
  distinct := distinct

theorem Session.reaches_root {request : Request n} (listed : request ∈ requests)
    {root : TypeExpr n} (rooted : root ∈ request.roots U) : Reaches U hooks requests root :=
  ⟨request, listed, root, rooted, .refl⟩

/-- The order of the requests does not matter for what they lead to. -/
theorem Session.reaches_of_perm (permutation : requests.Perm permuted) :
    Reaches U hooks permuted = Reaches U hooks requests := by
  funext type
  unfold Reaches
  simp only [permutation.mem_iff]

end Sessions

/-! ## Complete schemas -/

/-- An encoder that presents the schema of a whole region: all types of the region are cached. -/
structure Encoder.Completes (U : Universe n) (hooks : TypeExpr n → Hooks) (policy : KeyPolicy)
    (region : TypeExpr n → Prop) (order : List (TypeExpr n)) (e : Encoder n) : Prop
    extends Presents U hooks policy region order e where
  known : ∀ type, region type → e.cache.lookup U type ≠ none

section Complete

variable {U : Universe n} {hooks : TypeExpr n → Hooks} {policy : KeyPolicy}
  {region : TypeExpr n → Prop} {requests : List (Request n)} {type : TypeExpr n}
  {order order' : List (TypeExpr n)} {e e₁ e₂ : Encoder n}

/-- Requests that all succeeded complete the schema of what they lead to. -/
theorem Session.Adds.completes {answers : List (Except EncodeError Answer)}
    (adds : Session.Adds U hooks policy (Session.Reaches U hooks requests) requests order e answers
      e₁ order')
    (regular : Regular U hooks policy (Session.Reaches U hooks requests)) :
    Completes U hooks policy (Session.Reaches U hooks requests) order' e₁ where
  toPresents := adds.presents
  known := by
    rintro type ⟨request, listed, root, rooted, reached⟩
    have inside : Session.Reaches U hooks requests root := Session.reaches_root listed rooted
    exact (adds.presents.cached_of_reached regular inside
      (adds.cached request listed root rooted) reached).2

namespace Encoder.Completes

theorem means (complete : Completes U hooks policy region order e) (inside : region type) :
    ∃ resolved, meaning U hooks order type = some resolved := by
  obtain ⟨resolved, -, means⟩ := complete.means_of_cached inside (complete.known type inside)
  exact ⟨resolved, means⟩

/-- The structs with an object are those of the region for which no provider decides. -/
theorem mem_order (complete : Completes U hooks policy region order e) (struct : TypeExpr n) :
    struct ∈ order ↔
      region struct ∧ U.isStruct struct ∧ (hooks struct).typeProvider = none := by
  constructor
  · intro listed
    exact ⟨complete.mirrors.reached struct listed, complete.mirrors.structs struct listed⟩
  · rintro ⟨inside, isStruct, free⟩
    obtain ⟨resolved, means⟩ := complete.means inside
    exact mem_of_meaning isStruct free means

theorem get?_text (complete : Completes U hooks policy region order e)
    (regular : Regular U hooks policy region) (inside : region type) :
    e.cache.types.get? (policy.text U type) = meaning U hooks order type := by
  obtain ⟨resolved, hit, means⟩ := complete.means_of_cached inside (complete.known type inside)
  rw [TypeCache.lookup_eq, complete.mirrors.policy,
    TypeExpr.withoutPointers_eq_self (regular.plain type inside)] at hit
  rw [hit, means]

variable (complete₁ : Completes U hooks policy region order e₁)
  (complete₂ : Completes U hooks policy region order' e₂)

include complete₁ complete₂

/-- The schemas of a region have the same structs. -/
theorem perm : order.Perm order' := by
  rw [List.perm_ext_iff_of_nodup complete₁.mirrors.nodup complete₂.mirrors.nodup]
  exact fun struct => (complete₁.mem_order struct).trans (complete₂.mem_order struct).symm

/-- They cache the same types with the same meanings, up to the handles. -/
theorem entries (regular : Regular U hooks policy region)
    (free : ∀ type given, (hooks type).typeProvider = some given → given.handles = [])
    (key : String) :
    e₂.cache.types.get? key =
      (e₁.cache.types.get? key).map (SchemaType.rename (renumber order order')) := by
  have permutation := complete₁.perm complete₂
  by_cases owned : ∃ type, region type ∧ policy.text U type = key
  · obtain ⟨type, inside, rfl⟩ := owned
    rw [complete₁.get?_text regular inside, complete₂.get?_text regular inside,
      meaning_rename free (handle?_renumber permutation)]
  · have absent : ∀ {order e}, Completes U hooks policy region order e →
        e.cache.types.get? key = none := fun complete => by
      by_contra known
      exact owned (complete.owned key known)
    rw [absent complete₁, absent complete₂, Option.map_none]

/-- The objects of a struct show the same, up to the handles. -/
theorem objects (free : ∀ type given, (hooks type).typeProvider = some given → given.handles = [])
    {id : ObjectId} {object : ObjectType} (found : e₁.arena.get? id = some object) :
    ∃ object', e₂.arena.get? (renumber order order' id) = some object' ∧
      (object.rename (renumber order order')).Alike object' := by
  have permutation := complete₁.perm complete₂
  have live := (Arena.contains_iff _ id).1 (Arena.contains_of_get? found)
  rw [complete₁.mirrors.size] at live
  obtain ⟨_ | position⟩ := id
  · exact absurd live.1 (lt_irrefl 0)
  · obtain ⟨struct, numbered⟩ : ∃ struct, order[position]? = some struct :=
      ⟨_, List.getElem?_eq_getElem live.2⟩
    have own := handle?_of_getElem? complete₁.mirrors.nodup numbered
    have other := handle?_renumber permutation struct
    rw [own, Option.map_some] at other
    obtain ⟨position', same, numbered'⟩ := getElem?_of_handle? other
    obtain ⟨object₁, object₂, found₁, found₂, alike⟩ :=
      (complete₁.finished _ _ numbered).rename free (handle?_renumber permutation)
        (complete₂.finished _ _ numbered')
    rw [found] at found₁
    cases found₁
    exact ⟨object₂, by rw [same, found₂], alike⟩

/-- Live handles have live handles in their place. -/
theorem contains_renumber (id : ObjectId) :
    e₂.arena.contains (renumber order order' id) = e₁.arena.contains id := by
  have permutation := complete₁.perm complete₂
  have size : e₂.arena.size = e₁.arena.size := by
    rw [complete₁.mirrors.size, complete₂.mirrors.size, permutation.length_eq]
  obtain ⟨_ | position⟩ := id
  · rfl
  · cases numbered : order[position]? with
    | none =>
      have same : renumber order order' ⟨position + 1⟩ = ⟨position + 1⟩ := by
        simp [renumber, numbered]
      rw [same, Bool.eq_iff_iff, Arena.contains_iff, Arena.contains_iff, size]
    | some struct =>
      have own := handle?_of_getElem? complete₁.mirrors.nodup numbered
      have other := handle?_renumber permutation struct
      rw [own, Option.map_some] at other
      obtain ⟨position', same, numbered'⟩ := getElem?_of_handle? other
      have below := (List.getElem?_eq_some_iff.1 numbered).1
      have below' := (List.getElem?_eq_some_iff.1 numbered').1
      rw [same, Bool.eq_iff_iff, Arena.contains_iff, Arena.contains_iff, complete₁.mirrors.size,
        complete₂.mirrors.size]
      exact ⟨fun _ => ⟨Nat.succ_pos _, below⟩, fun _ => ⟨Nat.succ_pos _, below'⟩⟩

/-- Requests have the same answers, up to the handles. -/
theorem answer (free : ∀ type given, (hooks type).typeProvider = some given → given.handles = [])
    (request : Request n) :
    request.answer U hooks order' =
      (request.answer U hooks order).rename (renumber order order') := by
  unfold Request.answer
  rw [Request.reference?_rename free (handle?_renumber (complete₁.perm complete₂))]
  cases request.reference? U hooks order <;> rfl

end Encoder.Completes

end Complete

/-! ## Permuted requests -/

/-- **The order of requests does not matter for the schema.**  An encoder with neither cached types
nor objects, but with any registry whose hooks name no handle, answers schematic requests, which
lead to types with different keys.  If all of them succeed, they all succeed in every order, and
there is a bijection between the handles under which the answers to the requests, the objects and
the cached types in one order are those in the other. -/
theorem Session.permuted_requests_correspond (U : Universe n) (policy : KeyPolicy) (e : Encoder n)
    (cache : e.cache = .empty policy) (arena : e.arena = .empty) (free : HandleFree U e)
    {requests permuted : List (Request n)} (permutation : requests.Perm permuted)
    (schematic : ∀ request ∈ requests, request.Schematic U (e.hooksOf U))
    (distinct : ∀ a b, Reaches U (e.hooksOf U) requests a → Reaches U (e.hooksOf U) requests b →
      policy.text U a = policy.text U b → a = b)
    {answers : List (Except EncodeError Answer)} {e₁ : Encoder n}
    (run : Session.run U requests e = some (answers, e₁))
    (succeeded : ∀ error, .error error ∉ answers) :
    ∃ (answer : Request n → Answer) (e₂ : Encoder n) (renamed : ObjectId ≃ ObjectId),
      answers = requests.map (fun request => .ok (answer request)) ∧
      Session.run U permuted e =
        some (permuted.map fun request => .ok ((answer request).rename renamed), e₂) ∧
      (∀ id, e₂.arena.contains (renamed id) = e₁.arena.contains id) ∧
      (∀ id object, e₁.arena.get? id = some object → ∃ object',
        e₂.arena.get? (renamed id) = some object' ∧ (object.rename renamed).Alike object') ∧
      (∀ key, e₂.cache.types.get? key =
        (e₁.cache.types.get? key).map (SchemaType.rename renamed)) ∧
      ∀ id, e₁.cache.failures.get? id = none ∧ e₂.cache.failures.get? id = none := by
  have regular := Session.regular distinct
  have inside : ∀ request ∈ requests, ∀ root ∈ request.roots U,
      Reaches U (e.hooksOf U) requests root := fun _ listed _ rooted => reaches_root listed rooted
  have start := presents_start (U := U) (Reaches U (e.hooksOf U) requests) cache arena
  obtain ⟨order, adds⟩ | ⟨⟨error, failed⟩, -⟩ :=
    Session.presents regular free schematic inside run start
  swap
  · exact absurd failed (succeeded error)
  have complete := adds.completes regular
  obtain ⟨answers', e₂, run', -, -⟩ := Session.serves (Scope.closed_everything U) permuted
    (fun request _ => request.within_everything) e
  -- In the other order nothing can fail: all types were recognized, and all requests were answered.
  obtain ⟨order', adds'⟩ | ⟨-, ⟨type, reached, unrecognized⟩ | ⟨request, listed, unanswered⟩⟩ :=
    Session.presents regular free
      (fun request listed => schematic request (permutation.mem_iff.2 listed))
      (fun request listed => inside request (permutation.mem_iff.2 listed)) run' start
  rotate_left
  · obtain ⟨resolved, means⟩ := complete.means reached
    rw [unrecognized.meaning] at means
    cases means
  · exact absurd (unanswered order) (adds.answered request (permutation.mem_iff.2 listed))
  rw [← reaches_of_perm permutation] at adds' regular complete
  have complete' := adds'.completes regular
  refine ⟨fun request => request.answer U (e.hooksOf U) order, e₂,
    renumbering (complete.perm complete') complete.mirrors.nodup, adds.answers, ?_,
    complete.contains_renumber complete', fun _ _ => complete.objects complete' free,
    complete.entries complete' regular free,
    fun id => ⟨complete.mirrors.unmarked id, complete'.mirrors.unmarked id⟩⟩
  rw [run', adds'.answers]
  simp only [complete.answer complete' free]
  rfl

namespace Sample

/-- Requests that come to the author first, or, from the last to the first, to the book. -/
def shelfRequests : List (Request 3) :=
  [.arrayOf (.declared 1) [], .structOf (.pointer .box (.declared 0)) [], .argsOf (.declared 0),
   .resolveType (.list .vec (.declared 0))]

theorem shelved_of_reaches {hooks : TypeExpr 3 → Hooks} {type : TypeExpr 3}
    (reaches : Session.Reaches shelf hooks shelfRequests type) : type ∈ shelved := by
  obtain ⟨request, listed, root, rooted, reached⟩ := reaches
  have roots : ∀ request ∈ shelfRequests, ∀ root ∈ request.roots shelf, root ∈ shelved := by
    decide
  exact mem_shelved (roots request listed root rooted) reached

end Sample

/-- From the last request to the first, the book and its author change places. -/
theorem Sample.shelf_corresponds_in_reverse :
    ∃ (answer : Request 3 → Answer) (e₁ e₂ : Encoder 3) (renamed : ObjectId ≃ ObjectId),
      Session.run shelf shelfRequests (.new shelf .bareName) =
        some (shelfRequests.map fun request => .ok (answer request), e₁) ∧
      Session.run shelf shelfRequests.reverse (.new shelf .bareName) =
        some (shelfRequests.reverse.map fun request => .ok ((answer request).rename renamed), e₂) ∧
      (∀ id object, e₁.arena.get? id = some object → ∃ object',
        e₂.arena.get? (renamed id) = some object' ∧ (object.rename renamed).Alike object') ∧
      answer (.structOf (.pointer .box (.declared 0)) []) = .object ⟨2⟩ ∧ renamed ⟨2⟩ = ⟨1⟩ := by
  have provided : shelf.HooksNameNoHandle := by
    unfold Universe.HooksNameNoHandle
    decide
  have schematic : ∀ request ∈ shelfRequests,
      request.Schematic shelf ((Encoder.new shelf .bareName).hooksOf shelf) := by
    have free : ∀ index : Fin 3, shelf.isStruct (.declared index) →
        ((Encoder.new shelf .bareName).hooksOf shelf (.declared index)).typeProvider = none := by
      decide +kernel
    intro request listed
    simp only [shelfRequests, List.mem_cons, List.not_mem_nil, or_false] at listed
    rcases listed with rfl | rfl | rfl | rfl
    · exact ⟨rfl, free 1⟩
    · exact ⟨rfl, free 0⟩
    · trivial
    · trivial
  have forth : (Session.run shelf shelfRequests (.new shelf .bareName)).map
      (fun r => r.1[1]?) = some (some (.ok (.object ⟨2⟩))) := by
    decide +kernel
  have back : (Session.run shelf shelfRequests.reverse (.new shelf .bareName)).map
      (fun r => r.1[2]?) = some (some (.ok (.object ⟨1⟩))) := by
    decide +kernel
  have clean : (Session.run shelf shelfRequests (.new shelf .bareName)).map
      (fun r => r.1.all Except.isOk) = some true := by
    decide +kernel
  cases run : Session.run shelf shelfRequests (.new shelf .bareName) with
  | none =>
    rw [run] at forth
    cases forth
  | some r =>
    obtain ⟨answers, e₁⟩ := r
    rw [run, Option.map_some, Option.some.injEq] at forth clean
    have succeeded : ∀ error, .error error ∉ answers := fun error listed => by
      have ok := List.all_eq_true.1 clean _ listed
      cases ok
    obtain ⟨answer, e₂, renamed, rfl, run', -, objects, -⟩ :=
      Session.permuted_requests_correspond shelf .bareName (.new shelf .bareName) rfl rfl
        (handleFree_new provided _) shelfRequests.reverse_perm.symm schematic
        (fun a b reachesA reachesB => apart_shelved a (shelved_of_reaches reachesA) b
          (shelved_of_reaches reachesB)) run succeeded
    rw [run', Option.map_some, Option.some.injEq] at back
    have second : answer (.structOf (.pointer .box (.declared 0)) []) = .object ⟨2⟩ :=
      Except.ok.inj (Option.some.inj forth)
    have third : (answer (.structOf (.pointer .box (.declared 0)) [])).rename renamed =
        .object ⟨1⟩ := Except.ok.inj (Option.some.inj back)
    rw [second] at third
    exact ⟨answer, e₁, e₂, renamed, rfl, run', objects, second, Answer.object.inj third⟩

end RecordSchema
