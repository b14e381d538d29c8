import RecordSchema.Proofs.Course.Arguments
import RecordSchema.Proofs.ListMode
import RecordSchema.Proofs.Provenance

/-!
# Requests that hand out failed objects

An encoder looks for the mark of a failed object whenever it recalls a schema type from its cache,
and what it builds itself needs no check.  But nobody looks at the object that the type of a
provider may name.  So a request may succeed with a failed object once, while the type of the
provider is not cached yet; as soon as it is, the request fails (`Sample.failed_object_is_given`).
This is the only way: all other results are free of failed objects, on every encoder and whatever
the hooks provide (`Session.providers_hand_out_failed_objects`).
-/

namespace RecordSchema

variable {n : Nat}

open Encoder

section Results

variable {U : Universe n} {e e₁ e' : Encoder n} {type : TypeExpr n} {given resolved : SchemaType}

theorem Encoder.Given.akin (h : e.Given U type given) (akin : Akin U e e₁) :
    e₁.Given U type given :=
  h.anti (fun type miss => (akin.lookup type).trans miss) fun type => (akin.hooks type).symm

/-- Whatever is given is handed out, be it marked or not. -/
theorem Encoder.Given.course (h : e.Given U type given) :
    ∃ e', Course U (.resolve type) e (.ok given) e' := by
  induction h with
  | own plain miss hook => exact ⟨_, .resolved plain miss (.provided hook)⟩
  | pointee inner ih =>
    obtain ⟨e', course⟩ := ih
    exact ⟨e', .pointer course⟩
  | @item type item given listed miss free inner ih =>
    obtain ⟨e', course⟩ := ih
    obtain ⟨f, inner', -⟩ := course.akin (.met e (.resolving (U.path type)) type)
    have plain := isPointer_eq_false_of_item listed
    have built := Course.list free (scalar?_eq_none_of_item listed) listed inner'
    exact ⟨_, .resolved plain miss built⟩

/-- What was resolved is in the cache, and is recalled with the mark of the object that it names. -/
theorem Course.recalls (course : Course U (.resolve type) e (.ok resolved) e') :
    ∃ e₂, (resolveType U type).outcome e' = some (e'.cache.reply resolved, e₂) := by
  have hit := course.lookup_of_resolve
  rw [← TypeCache.lookup_withoutPointers] at hit
  obtain ⟨e₂, recalls, -⟩ := Course.of_hit type.isPointer_withoutPointers hit
  obtain ⟨result, e₃, run⟩ := resolveType_ends U type e'
  obtain ⟨rfl, rfl⟩ := recalls.of_withoutPointers.deterministic (course_resolve run)
  exact ⟨_, run⟩

/-- A list names no failed object, unless a provider gives its item. -/
theorem arrayOf_unmarked_or_given {options : List (SchemaOption n)} (live : e.MarksLive)
    (run : (arrayOf U type options).outcome e = some (.ok resolved, e')) :
    ∃ item, resolved = .list item ∧
      (e'.cache.failure? item = none ∨ e.Given U type item) := by
  obtain ⟨registry, registered, grown, -⟩ := Build.outcome_register U type e
  have known : (e.know registry).MarksLive := live
  by_cases direct : (e.know registry).cache.lookup U type = none ∧ U.isStruct type.withoutPointers
  · obtain ⟨miss, struct⟩ := direct
    have outcome := @Build.outcome_arrayOf_of_miss n U e _ type options registered miss
    obtain ⟨result, e₁, object⟩ :=
      structOfInfo_ends U type.withoutPointers options (e.know registry)
    unfold itemType at outcome
    rw [if_pos struct, Build.outcome_map, object, run] at outcome
    cases result with
    | error error => cases outcome
    | ok id =>
      cases outcome
      exact ⟨_, rfl, .inl ((course_object object).unmarked_of_object known)⟩
  · have other : (e.know registry).cache.lookup U type = none →
        U.isStruct type.withoutPointers = false := fun miss => by
      cases struct : U.isStruct type.withoutPointers with
      | false => rfl
      | true => exact absurd ⟨miss, struct⟩ direct
    obtain ⟨result, e₁, e₂, course, outcome, same⟩ := arrayOf_of_other registered other
    rw [run] at outcome
    cases result with
    | error error => cases outcome
    | ok item =>
      cases outcome
      rw [same.cache]
      refine ⟨item, rfl, (course.unmarked_or_given known).imp id fun given => ?_⟩
      exact given.of_withoutPointers.akin (Akin.know grown).symm

/-- Arguments name no failed objects, unless a provider gives the type of their field. -/
theorem Collects.unmarked_or_given {path : String} {fields : List (RecordField n)}
    {start arguments : ArgumentMap} (collects : Collects U path fields start e (.ok arguments) e')
    (live : e.MarksLive) :
    e'.cache.failures = e.cache.failures ∧ ∀ argument ∈ arguments.values,
      argument ∈ start.values ∨ e'.cache.failure? argument.type = none ∨
        ∃ field ∈ fields, ∃ text content given, field.content = .tagged text content ∧
          e.Given U content given ∧ argument.type = taggedType (.parse text) given := by
  generalize ok : (Except.ok arguments : Except EncodeError ArgumentMap) = result at collects
  induction collects with
  | done =>
    cases ok
    exact ⟨rfl, fun argument listed => .inl listed⟩
  | untagged untagged others ih =>
    obtain ⟨marks, each⟩ := ih live ok
    refine ⟨marks, fun argument listed => (each argument listed).imp_right (.imp_right ?_)⟩
    rintro ⟨other, inside, rest⟩
    exact ⟨other, List.mem_cons_of_mem _ inside, rest⟩
  | @tagged field text type rest start e resolved e₁ e₂ result e' content first same others ih =>
    have live₂ : e₂.MarksLive :=
      (first.marksLive live).congr (by rw [same.cache]) (by rw [same.arena])
    obtain ⟨marks, each⟩ := ih live₂ ok
    refine ⟨by rw [marks, same.cache, first.failures], fun argument listed => ?_⟩
    rcases each argument listed with old | unmarked | ⟨other, inside, text', content', given, h⟩
    · rcases OrderedMap.mem_values_insert old with rfl | old
      · refine .inr ((first.unmarked_or_given live).imp (fun unmarked => ?_) fun given => ?_)
        · rw [TypeCache.failure?_taggedType, TypeCache.failure?_congr marks, same.cache, unmarked]
        · exact ⟨field, List.mem_cons_self, text, type, resolved, content, given, rfl⟩
      · exact .inl old
    · exact .inr (.inl unmarked)
    · obtain ⟨tagged, gives, typed⟩ := h
      have before : e.Given U content' given := by
        refine gives.anti (fun type miss => ?_) fun type => ?_
        · rw [same.cache] at miss
          exact lookup_eq_none_of_keeps first.keeps miss
        · rw [hooksOf_of_registry U same.registry, first.hooksOf]
      exact .inr (.inr ⟨other, List.mem_cons_of_mem _ inside, text', content', given, tagged,
        before, typed⟩)
  | stopped => cases ok

end Results

/-- **Only providers hand out failed objects.**  On every encoder that a session reaches, whatever
its hooks provide, a request that succeeds results in schema types without failed objects, but for
those that a provider gives to a type of which nothing is cached: the type that is asked for, that
of a field if arguments are asked for, or the item of such a type.  What is given is handed out as
it is.  In any case a resolved type is recalled afterwards, so the same request fails the second
time if and only if it named a failed object. -/
theorem Session.providers_hand_out_failed_objects {U : Universe n} {policy : KeyPolicy}
    {requests : List (Request n)} {answers : List (Except EncodeError Answer)} {e : Encoder n}
    (reached : Session.run U requests (.new U policy) = some (answers, e)) (type : TypeExpr n) :
    (∀ resolved e', (resolveType U type).outcome e = some (.ok resolved, e') →
      (e'.cache.failure? resolved = none ∨ e.Given U type resolved) ∧
        ∃ e₂, (resolveType U type).outcome e' = some (e'.cache.reply resolved, e₂)) ∧
    (∀ given, e.Given U type given →
      ∃ e', (resolveType U type).outcome e = some (.ok given, e')) ∧
    (∀ options resolved e', (arrayOf U type options).outcome e = some (.ok resolved, e') →
      ∃ item, resolved = .list item ∧
        (e'.cache.failure? item = none ∨ e.Given U type item)) ∧
    ∀ arguments e', (argsOf U type).outcome e = some (.ok arguments, e') →
      ∃ fields, U.detail type.withoutPointers = .struct fields ∧
        ∀ argument ∈ arguments.values, e'.cache.failure? argument.type = none ∨
          ∃ field ∈ fields, ∃ text content given, field.content = .tagged text content ∧
            e.Given U content given ∧ argument.type = taggedType (.parse text) given := by
  have moves := Session.moves (Scope.closed_everything U)
    (fun request _ => request.within_everything) reached
  have live : e.MarksLive := (moves.lasts (resting_new U policy)).1.marked
  refine ⟨fun resolved e' run => ?_, fun given gives => ?_, fun options resolved e' run => ?_,
    fun arguments e' run => ?_⟩
  · have course := course_resolve run
    exact ⟨course.unmarked_or_given live, course.recalls⟩
  · obtain ⟨e₁, course⟩ := gives.course
    obtain ⟨result, e', run⟩ := resolveType_ends U type e
    obtain ⟨rfl, rfl⟩ := course.deterministic (course_resolve run)
    exact ⟨_, run⟩
  · exact arrayOf_unmarked_or_given live run
  · obtain ⟨fields, struct⟩ := struct_of_argsOf run
    obtain ⟨registry, grown, collects⟩ := collects_argsOf struct run
    have known : (e.know registry).MarksLive := live
    refine ⟨fields, struct, fun argument listed => ?_⟩
    rcases (collects.unmarked_or_given known).2 argument listed with none | unmarked | given
    · cases none
    · exact .inl unmarked
    · obtain ⟨field, inside, text, content, given, tagged, gives, typed⟩ := given
      exact .inr ⟨field, inside, text, content, given, tagged,
        gives.akin (Akin.know grown).symm, typed⟩

/-! ## A provider that names a failed object -/

namespace Sample

/-- A broken struct is asked for, and then its object is provided for the nodes. -/
def handOver : List (Request 4) :=
  [.structOf broken [], .registerHook node (.typeProvider (.object ⟨1⟩))]

/-- Why the broken struct cannot be built. -/
def noTable : EncodeError :=
  .typeNotRecognizedInStruct
    (.typeNotRecognized "std::collections::HashMap<alloc::string::String, bool>") "app::Broken"
    "table"

end Sample

/-- The list of nodes is given with the failed object in it, and is refused when it is asked for
again. -/
theorem Sample.given_list_is_refused_afterwards :
    ∃ answers e e₁ e₂, Session.run types handOver (.new types .qualified) = some (answers, e) ∧
      (resolveType types (.list .vec node)).outcome e = some (.ok (.list (.object ⟨1⟩)), e₁) ∧
      (resolveType types (.list .vec node)).outcome e₁ = some (.error noTable, e₂) := by
  obtain ⟨answers, e, reached, -⟩ := Session.lasts types handOver (resting_new types .qualified)
  have known : (Session.run types handOver (.new types .qualified)).map (fun r =>
      ((r.2.cache.lookup types node, (r.2.hooksOf types node).typeProvider),
        (r.2.cache.lookup types (.list .vec node),
          (r.2.hooksOf types (.list .vec node)).typeProvider),
        ((resolveType types (.list .vec node)).outcome r.2).map
          fun s => s.2.cache.reply (.list (.object ⟨1⟩)))) =
      some ((none, some (.object ⟨1⟩)), (none, none), some (.error noTable)) := by
    decide +kernel
  rw [reached, Option.map_some, Option.some.injEq] at known
  simp only [Prod.mk.injEq] at known
  obtain ⟨⟨missNode, gives⟩, ⟨missList, free⟩, recalls⟩ := known
  have given : e.Given types (.list .vec node) (.list (.object ⟨1⟩)) :=
    .item rfl missList free (.own rfl missNode gives)
  obtain ⟨again, hands, -⟩ := Session.providers_hand_out_failed_objects reached (.list .vec node)
  obtain ⟨e₁, run⟩ := hands _ given
  obtain ⟨-, e₂, run'⟩ := again _ _ run
  rw [run, Option.map_some, Option.some.injEq] at recalls
  rw [recalls] at run'
  exact ⟨answers, e, e₁, e₂, reached, run, run'⟩

/-- The nodes resolve to an object that is marked as failed, and fail to resolve when they are asked
for again. -/
theorem Sample.failed_object_is_given :
    (Session.run types (handOver ++ [.resolveType node, .resolveType node])
        (.new types .qualified)).map (fun r => (r.1, r.2.cache.failures.get? ⟨1⟩)) =
      some ([.error noTable, .ok (.attached true), .ok (.type (.object ⟨1⟩)), .error noTable],
        some noTable) := by
  decide +kernel

end RecordSchema
