import RecordSchema.Proofs.CachedFields
import RecordSchema.Proofs.Failure
import RecordSchema.Proofs.Obstacles

/-!
# Arguments agree with objects

The fields of a struct become an object, or the arguments of a field.  The object is in the cache
before its fields are walked over; the arguments are in no cache, so a struct that contains itself
gets its object while one of its own fields is resolved.  The types below a struct are therefore
visited in different orders.

Where types have different keys, this makes no difference.  Both can be had under the same
circumstances, since the same types stand in the way (`Encoder.Displays.arguments_ok_iff`), and
what is shown for a field is in both cases what is cached for its type
(`Session.arguments_agree_with_objects`).
-/

namespace RecordSchema

variable {n : Nat}

open Encoder Reference

/-! ## Encoders that a session passes through -/

section Sessions

variable {U : Universe n} {scope : Scope n} {e e' : Encoder n} {requests : List (Request n)}
  {answers : List (Except EncodeError Answer)} {request : Request n}
  {answer : Except EncodeError Answer} {position : Nat}

/-- A session passes through the encoder that a request is put to, and the one that it leaves. -/
theorem Session.passes (closed : scope.Closed U)
    (within : ∀ request ∈ requests, request.Within scope)
    (run : Session.run U requests e = some (answers, e'))
    (asked : requests[position]? = some request) (answered : answers[position]? = some answer) :
    ∃ e₁ e₂, (request.run U).outcome e₁ = some (answer, e₂) ∧
      Moves U scope e e₁ ∧ Moves U scope e₁ e₂ ∧ Moves U scope e₂ e' := by
  induction requests generalizing e answers position with
  | nil => cases asked
  | cons first rest ih =>
    simp only [Session.run, Option.bind_eq_bind, Option.bind_eq_some_iff] at run
    obtain ⟨⟨answer₁, e₁⟩, begins, ⟨answers₂, e₂⟩, goesOn, same⟩ := run
    cases same
    have later : ∀ request ∈ rest, request.Within scope := fun request listed =>
      within request (List.mem_cons_of_mem _ listed)
    have moves := (Request.serves closed (within first List.mem_cons_self)).moves begins
    cases position with
    | zero =>
      cases asked
      cases answered
      exact ⟨e, e₁, begins, .refl, moves, Session.moves closed later goesOn⟩
    | succ position =>
      obtain ⟨e₃, e₄, ran, before, during, after⟩ := ih later goesOn asked answered
      exact ⟨e₃, e₄, ran, moves.trans before, during, after⟩

end Sessions

/-! ## Requests for objects and for arguments -/

namespace Request

/-- The type whose arguments a request asks for. -/
def argumentsOf? : Request n → Option (TypeExpr n)
  | .argsOf type | .argsOfInfo type => some type
  | _ => none

variable {U : Universe n} {e e' : Encoder n} {request : Request n} {type : TypeExpr n}

theorem mem_types_of_objectOf? (asked : request.objectOf? = some type) : type ∈ request.types := by
  cases request with
  | structOf | structOfInfo | fieldOf =>
    cases asked
    exact List.mem_cons_self
  | argsOf | argsOfInfo | arrayOf | resolveType | registerHook | insertHook => cases asked

/-- A request that results in an object has asked for it, after registering the type or not. -/
theorem course_of_object {id : ObjectId} (asked : request.objectOf? = some type)
    (run : (request.run U).outcome e = some (.ok (.object id), e')) :
    ∃ registry options, Course U (.object type.withoutPointers options) (e.know registry)
      (.ok (.object id)) e' := by
  cases request with
  | structOf asked' options =>
    cases asked
    obtain ⟨registry, registered, -⟩ := Build.outcome_register U type e
    obtain ⟨_, ⟨⟩, built⟩ := Build.outcome_map_ok run
    rw [Encoder.structOf, Build.outcome_bind_ok registered] at built
    exact ⟨registry, options, course_object built⟩
  | structOfInfo asked' options =>
    cases asked
    obtain ⟨_, ⟨⟩, built⟩ := Build.outcome_map_ok run
    exact ⟨e.registry, options, course_object built⟩
  | fieldOf asked' options =>
    obtain ⟨_, ⟨⟩, -⟩ := Build.outcome_map_ok run
  | argsOf | argsOfInfo | arrayOf | resolveType | registerHook | insertHook => cases asked

/-- A request that results in arguments has collected them from the fields of its struct. -/
theorem collects_of_arguments {arguments : ArgumentMap} (asked : request.argumentsOf? = some type)
    (run : (request.run U).outcome e = some (.ok (.arguments arguments), e')) :
    ∃ fields registry, U.detail type.withoutPointers = .struct fields ∧
      Collects U (U.path type.withoutPointers) fields .empty (e.know registry) (.ok arguments)
        e' := by
  cases request with
  | argsOf asked' =>
    cases asked
    obtain ⟨_, ⟨⟩, collected⟩ := Build.outcome_map_ok run
    obtain ⟨fields, struct⟩ := struct_of_argsOf collected
    obtain ⟨registry, -, collects⟩ := collects_argsOf struct collected
    exact ⟨fields, registry, struct, collects⟩
  | argsOfInfo asked' =>
    cases asked
    obtain ⟨_, ⟨⟩, collected⟩ := Build.outcome_map_ok run
    obtain ⟨fields, struct⟩ := struct_of_argsOfInfo collected
    exact ⟨fields, e.registry, struct, collects_argsOfInfo struct collected⟩
  | structOf | structOfInfo | fieldOf | arrayOf | resolveType | registerHook | insertHook =>
    cases asked

end Request

/-! ## Both can be had, or neither -/

/-- The types of a closed scope that are no pointers form a region, if their keys are different. -/
theorem Scope.Closed.regular {U : Universe n} {scope : Scope n} {policy : KeyPolicy}
    (closed : scope.Closed U) (apart : scope.Apart U policy) (hooks : TypeExpr n → Hooks) :
    Regular U hooks policy fun type => scope.type type ∧ type.isPointer = false where
  plain _ inside := inside.2
  closed := by
    rintro a b ⟨inside, -⟩ leads
    cases leads with
    | field free struct listed tagged =>
      have part := closed.field _ _ _ _ _ struct listed tagged inside
      exact ⟨closed.withoutPointers part, TypeExpr.isPointer_withoutPointers _⟩
    | item free listed =>
      have part := closed.item _ _ listed inside
      exact ⟨closed.withoutPointers part, TypeExpr.isPointer_withoutPointers _⟩
  distinct _ _ insideA insideB := apart.eq_of_plain insideA.1 insideB.1 insideA.2 insideB.2

namespace Encoder.Displays

variable {U : Universe n} {policy : KeyPolicy} {scope : Scope n} {e e' : Encoder n}
  {type : TypeExpr n} {id : ObjectId} {fields : List (RecordField n)}

theorem under (displays : Displays U policy scope e) : Under U (e.hooksOf U) policy e where
  hooked _ := rfl
  uses := displays.coherent.policy
  trusts := ⟨displays.resting.marked, fun type given hook =>
    TypeCache.failure?_of_handles_nil (displays.free type given hook) e.cache⟩

/-- The arguments of an unknown struct can be had if and only if its object can. -/
theorem arguments_ok_iff (displays : Displays U policy scope e) (closed : scope.Closed U)
    (apart : scope.Apart U policy) (inside : scope.type type)
    (struct : U.isStruct type.withoutPointers)
    (free : (e.hooksOf U type.withoutPointers).typeProvider = none)
    (miss : e.cache.lookup U type = none) :
    (∃ arguments e', (argsOf U type).outcome e = some (.ok arguments, e')) ↔
      ∃ id e', (structOf U type []).outcome e = some (.ok id, e') := by
  obtain ⟨fields, detail⟩ := U.fields_of_isStruct struct
  have regular := closed.regular apart (e.hooksOf U)
  have own : scope.type type.withoutPointers ∧ type.withoutPointers.isPointer = false :=
    ⟨closed.withoutPointers inside, TypeExpr.isPointer_withoutPointers type⟩
  exact (argsOf_ok_iff regular detail free miss displays.under own).trans
    (structOf_ok_iff regular detail free miss displays.under own).symm

/-! ## Both show the same fields -/

/-- An object that was asked for is that of its struct, and usable. -/
theorem begun_of_course {start : Encoder n} {options : List (SchemaOption n)}
    (displays : Displays U policy scope e) (closed : scope.Closed U) (apart : scope.Apart U policy)
    (inside : scope.type type) (plain : type.isPointer = false) (live : start.MarksLive)
    (course : Course U (.object type options) start (.ok (.object id)) e) :
    e.struct? id = some type ∧ e.Usable id := by
  obtain ⟨struct, begun, insideStruct, plainStruct, same⟩ :=
    displays.attributed _ id course.lookup_of_object
  obtain rfl := (closed.regular apart (e.hooksOf U)).eq_of_key displays.coherent.policy
    ⟨insideStruct, plainStruct⟩ ⟨inside, plain⟩ same
  exact ⟨begun, displays.resting.toTidy.live_of_struct? begun, course.unmarked_of_object live⟩

/-- The object of a struct shows the fields of the struct. -/
theorem shows_of_usable (displays : Displays U policy scope e) (usable : e.Usable id)
    (begun : e.struct? id = some type) (detail : U.detail type = .struct fields) :
    ∃ object, e.arena.get? id = some object ∧
      Shows (e.cache.lookup U) Field.type fields object.fields := by
  obtain ⟨struct, fields', object, begun', detail', found, shows⟩ := displays.shown id usable
  rw [begun] at begun'
  cases begun'
  rw [detail] at detail'
  cases detail'
  exact ⟨object, found, shows⟩

end Encoder.Displays

/-- **Arguments agree with objects.**  The types that a session asks for have different keys, and no
provider names an object.  On every encoder that it reaches, the arguments of a struct that is
neither cached nor provided can be had if and only if its object can, cycles and earlier failures
included.  And whenever requests for the arguments and for the object of one struct have succeeded
in a session, in whatever order, the arguments have the names of the fields of the object, in the
same order, and under each name the same type. -/
theorem Session.arguments_agree_with_objects {U : Universe n} {policy : KeyPolicy} {scope : Scope n}
    (closed : scope.Closed U) (apart : scope.Apart U policy) (provided : U.HooksNameNoHandle)
    {requests : List (Request n)} (attached : ∀ request ∈ requests, request.HooksNameNoHandle)
    (within : ∀ request ∈ requests, request.Within scope)
    {answers : List (Except EncodeError Answer)} {e : Encoder n}
    (reached : Session.run U requests (.new U policy) = some (answers, e)) :
    (∀ type, scope.type type → U.isStruct type.withoutPointers →
      (e.hooksOf U type.withoutPointers).typeProvider = none → e.cache.lookup U type = none →
        ((∃ arguments e', (argsOf U type).outcome e = some (.ok arguments, e')) ↔
          ∃ id e', (structOf U type []).outcome e = some (.ok id, e'))) ∧
    ∀ (i j : Nat) (asking building : Request n) (type type' : TypeExpr n)
        (arguments : ArgumentMap) (id : ObjectId),
      requests[i]? = some asking → asking.argumentsOf? = some type →
      requests[j]? = some building → building.objectOf? = some type' →
      type.withoutPointers = type'.withoutPointers →
      answers[i]? = some (.ok (.arguments arguments)) → answers[j]? = some (.ok (.object id)) →
        ∃ object, e.arena.get? id = some object ∧ arguments.names = object.fields.names ∧
          ∀ name, (arguments.get? name).map Argument.type =
            (object.field? name).map Field.type := by
  -- Only hooks that name no handle are attached, so the scope may be confined to them.
  let quiet : Scope n := { scope with hook := (Scope.handleFree n).hook }
  have closed' : quiet.Closed U := ⟨closed.pointee, closed.item, closed.field⟩
  have within' : ∀ request ∈ requests, request.Within quiet := fun request listed =>
    ⟨(attached request listed).within.hook, (within request listed).types⟩
  have nameless : ∀ given, quiet.hook (.typeProvider given) → given.handles = [] :=
    fun given quiet => quiet given rfl
  have displaysAt : ∀ {e₁}, Moves U quiet (.new U policy) e₁ → Displays U policy quiet e₁ :=
    fun moves => moves.displays closed' apart nameless (displays_new provided apart)
  have displays := displaysAt (Session.moves closed' within' reached)
  refine ⟨fun type inside struct free miss =>
    displays.arguments_ok_iff closed' apart inside struct free miss, ?_⟩
  intro i j asking building type type' arguments id askedAt asks builtAt builds same argued found
  obtain ⟨a, a', collected, toAsked, asked, afterArguments⟩ :=
    Session.passes closed' within' reached askedAt argued
  obtain ⟨b, b', built, toObject, during, afterObject⟩ :=
    Session.passes closed' within' reached builtAt found
  obtain ⟨fields, registry, detail, collects⟩ := Request.collects_of_arguments asks collected
  obtain ⟨registry', options, course⟩ := Request.course_of_object builds built
  have live : (b.know registry').MarksLive := (displaysAt toObject).resting.marked
  have finished := displaysAt (toObject.trans during)
  have inside : scope.type type'.withoutPointers :=
    closed.withoutPointers ((within building (List.mem_of_getElem? builtAt)).types type'
      (Request.mem_types_of_objectOf? builds))
  obtain ⟨begun, usable⟩ := finished.begun_of_course closed' apart inside
    (TypeExpr.isPointer_withoutPointers type') live course
  -- What the object shows in the end, and what the arguments showed when they were collected, is
  -- what the last cache has for the types of the fields.
  have lasting := (afterObject.lasts finished.resting).2
  have lasting' := (afterArguments.lasts (displaysAt (toAsked.trans asked)).resting).2
  rw [same] at detail
  obtain ⟨object, stored, shows⟩ := displays.shows_of_usable (lasting.usable usable)
    (lasting.keeps.struct? begun) detail
  have shows' := (collects.shows .nil).mono fun _ _ hit => lasting'.keeps.lookup hit
  exact ⟨object, stored, shows'.agree shows⟩

/-! ## Arguments of nodes -/

namespace Sample

/-- A broken struct is asked for, then the arguments of nodes, and then their object. -/
def nodesTwice : List (Request 4) :=
  [.structOf broken [], .argsOf node, .structOf (.pointer .box node) []]

/-- The arguments of nodes, whose object is the third. -/
def nodeArguments : ArgumentMap where
  entries := [("id", { type := .nonNull (.scalar .int) }), ("parent", { type := .object ⟨3⟩ }),
    ("children", { type := .list (.object ⟨3⟩) })]
  index := ⟨[("id", 0), ("parent", 1), ("children", 2)]⟩

theorem within_scope_of_nodesTwice {request : Request 4} (listed : request ∈ nodesTwice) :
    request.HooksNameNoHandle ∧ request.Within scope := by
  simp only [nodesTwice, List.mem_cons, List.not_mem_nil, or_false] at listed
  rcases listed with rfl | rfl | rfl <;>
    exact ⟨by simp [Request.HooksNameNoHandle, Request.hook?], fun _ _ => trivial,
      by simp [Request.types, scope, asked]⟩

end Sample

/-- Nodes contain themselves.  After another build has failed their arguments can be had, and
therefore their object, which has the same fields. -/
theorem Sample.arguments_of_nodes_agree_with_object :
    (∃ answers e id e', Session.run types [.structOf broken []] (.new types .bareName) =
        some (answers, e) ∧ (structOf types node []).outcome e = some (.ok id, e')) ∧
    ∃ answers e object, Session.run types nodesTwice (.new types .bareName) = some (answers, e) ∧
      e.arena.get? ⟨3⟩ = some object ∧ object.fields.names = ["id", "parent", "children"] ∧
        (object.field? "children").map Field.type = some (.list (.object ⟨3⟩)) := by
  constructor
  · obtain ⟨answers, e, reached, -⟩ := Session.lasts types [.structOf broken []]
      (resting_new types .bareName)
    have known : (Session.run types [.structOf broken []] (.new types .bareName)).map (fun r =>
        ((r.2.hooksOf types node).typeProvider, r.2.cache.lookup types node,
          ((argsOf types node).outcome r.2).map fun s => s.1)) =
        some (none, none, some (.ok nodeArguments)) := by
      decide +kernel
    rw [reached, Option.map_some, Option.some.injEq] at known
    simp only [Prod.mk.injEq, Option.map_eq_some_iff] at known
    obtain ⟨free, miss, ⟨_, e'⟩, collected, rfl⟩ := known
    have listed : ∀ request ∈ [.structOf broken []], request ∈ nodesTwice := by
      simp [nodesTwice]
    have both := (Session.arguments_agree_with_objects closed_scope apart_scope
      hooksNameNoHandle_types
      (fun request mem => (within_scope_of_nodesTwice (listed request mem)).1)
      (fun request mem => (within_scope_of_nodesTwice (listed request mem)).2) reached).1
    obtain ⟨id, e'', built⟩ :=
      (both node (by simp [scope, asked]) rfl free miss).1 ⟨nodeArguments, e', collected⟩
    exact ⟨answers, e, id, e'', reached, built⟩
  · obtain ⟨answers, e, reached, -⟩ := Session.lasts types nodesTwice
      (resting_new types .bareName)
    have answered : (Session.run types nodesTwice (.new types .bareName)).map (fun r =>
        (r.1[1]?, r.1[2]?)) =
        some (some (.ok (.arguments nodeArguments)), some (.ok (.object ⟨3⟩))) := by
      decide +kernel
    rw [reached, Option.map_some, Option.some.injEq, Prod.mk.injEq] at answered
    obtain ⟨object, stored, names, types⟩ :=
      (Session.arguments_agree_with_objects closed_scope apart_scope hooksNameNoHandle_types
        (fun request listed => (within_scope_of_nodesTwice listed).1)
        (fun request listed => (within_scope_of_nodesTwice listed).2) reached).2
        1 2 _ _ node (.pointer .box node) nodeArguments ⟨3⟩ rfl rfl rfl rfl rfl
        answered.1 answered.2
    exact ⟨answers, e, object, reached, stored, names.symm, (types "children").symm⟩

end RecordSchema
