import RecordSchema.Proofs.Interruption
import RecordSchema.Proofs.Soundness
import RecordSchema.Proofs.Twins

/-!
# Failed builds are remembered

When an outermost object build fails, all objects that it inserted are marked with its error, and no
other object is.  From then on every request for a type that such an object is registered under
fails with this error and inserts nothing, whatever was asked in between.  Where the cache tells the
types apart, the same is true of lists of such a type.
-/

namespace RecordSchema

variable {n : Nat}

open Encoder

/-! ## Lost types -/

/-- An object is registered under the key of a type: the key is that of the object's struct, or what
is cached under the key names the object. -/
def Encoder.Filed (U : Universe n) (e : Encoder n) (type : TypeExpr n) (id : ObjectId) : Prop :=
  (∃ struct, e.struct? id = some struct ∧ e.cache.key U type = e.cache.key U struct) ∨
    ∃ found, e.cache.lookup U type = some found ∧ found.namedObject? = some id

/-- What is cached for a type names an object that is marked with an error. -/
def Encoder.Lost (U : Universe n) (e : Encoder n) (type : TypeExpr n) (error : EncodeError) :
    Prop :=
  ∃ found, e.cache.lookup U type = some found ∧ e.cache.failure? found = some error

section Lost

variable {U : Universe n} {e : Encoder n} {type : TypeExpr n} {error : EncodeError}

/-- A type is lost with any object that is registered under its key, since the twin of the object
has the same mark. -/
theorem Encoder.lost_of_filed (twinned : Twinned U e) {id : ObjectId} (filed : Filed U e type id)
    (mark : e.cache.failures.get? id = some error) : Lost U e type error := by
  rcases filed with ⟨struct, begun, same⟩ | ⟨found, hit, named⟩
  · obtain ⟨found, twin, hit, named, -, marks, -⟩ := twinned id struct begun
    refine ⟨found, (TypeCache.lookup_of_key same).trans hit, ?_⟩
    unfold TypeCache.failure?
    rw [named, Option.bind_some, marks, mark]
  · refine ⟨found, hit, ?_⟩
    unfold TypeCache.failure?
    rw [named, Option.bind_some, mark]

theorem Encoder.Lost.withoutPointers (lost : Lost U e type error) :
    Lost U e type.withoutPointers error := by
  obtain ⟨found, hit, failed⟩ := lost
  exact ⟨found, by rwa [TypeCache.lookup_withoutPointers], failed⟩

theorem resolveType_of_lost (lost : Lost U e type error) :
    (resolveType U type).outcome e = some (.error error, e) := by
  obtain ⟨found, hit, failed⟩ := lost.withoutPointers
  unfold resolveType
  rw [← Build.resolve_withoutPointers, Build.resolve_eq_recalled U _ type.isPointer_withoutPointers]
  exact Build.outcome_recalled_of_failed U hit failed _

theorem structOfInfo_of_lost (lost : Lost U e type error) (options : List (SchemaOption n)) :
    (structOfInfo U type options).outcome e = some (.error error, e) := by
  obtain ⟨found, hit, failed⟩ := lost.withoutPointers
  unfold structOfInfo Build.objectOf
  cases n with
  | zero =>
    unfold Build.objectAt
    rw [Universe.withoutPointers_info]
    exact Build.outcome_objectWith_of_failed U _ hit failed
  | succ depth =>
    unfold Build.objectAt
    rw [Universe.withoutPointers_info]
    exact Build.outcome_objectWith_of_failed U _ hit failed

/-- The type whose object a request asks for, or resolves. -/
def Request.asked? : Request n → Option (TypeExpr n)
  | .structOf type _ | .structOfInfo type _ | .arrayOf type _ | .fieldOf type _
  | .resolveType type => some type
  | .argsOf _ | .argsOfInfo _ | .registerHook _ _ | .insertHook _ _ => none

theorem structOf_of_lost (lost : Lost U e type error) (options : List (SchemaOption n)) :
    ∃ registry, (structOf U type options).outcome e = some (.error error, e.know registry) := by
  obtain ⟨registry, registered, -⟩ := Build.outcome_register U type e
  have still : Lost U (e.know registry) type error := lost
  refine ⟨registry, ?_⟩
  exact (Build.outcome_bind_ok registered _).trans (structOfInfo_of_lost still options)

/-- A request that asks for a lost type fails with the recorded error, and inserts no object. -/
theorem Request.run_of_lost {request : Request n} (asks : request.asked? = some type)
    (lost : Lost U e type error) :
    ∃ e', (request.run U).outcome e = some (.error error, e') ∧ e'.arena = e.arena := by
  cases request with
  | structOf asked options =>
    cases asks
    obtain ⟨registry, run⟩ := structOf_of_lost lost options
    exact ⟨e.know registry, Build.outcome_map_error run _, rfl⟩
  | structOfInfo asked options =>
    cases asks
    exact ⟨e, Build.outcome_map_error (structOfInfo_of_lost lost options) _, rfl⟩
  | arrayOf asked options =>
    cases asks
    obtain ⟨registry, registered, -⟩ := Build.outcome_register U type e
    obtain ⟨found, hit, failed⟩ := lost
    have run : (Encoder.arrayOf U type options).outcome e = some (.error error, e.know registry) :=
      Build.outcome_arrayOf_of_failed registered hit failed
    exact ⟨e.know registry, Build.outcome_map_error run _, rfl⟩
  | fieldOf asked options =>
    cases asks
    obtain ⟨registry, run⟩ := structOf_of_lost lost []
    have stops :
        (Encoder.fieldOf U type options).outcome e = some (.error error, e.know registry) :=
      Build.outcome_bind_error run _
    exact ⟨e.know registry, Build.outcome_map_error stops _, rfl⟩
  | resolveType asked =>
    cases asks
    exact ⟨e, Build.outcome_map_error (resolveType_of_lost lost) _, rfl⟩
  | argsOf | argsOfInfo | registerHook | insertHook => cases asks

end Lost

/-! ## Lists of lost types -/

/-- A type with pointers and lists around another one, of which the lists are free of something. -/
inductive Wraps (free : TypeExpr n → Prop) (inner : TypeExpr n) : TypeExpr n → Prop
  | self : Wraps free inner inner
  | pointer {shape pointee} (rest : Wraps free inner pointee) :
      Wraps free inner (.pointer shape pointee)
  | list {type item} (listed : type.item? = some item) (allowed : free type)
      (rest : Wraps free inner item) : Wraps free inner type

section Lists

variable {U : Universe n} {scope : Scope n} {e : Encoder n} {asked type : TypeExpr n}
  {error : EncodeError}

/-- Lists of a lost type fail like the type.  Those that are cached are cached with an item that
names the failed object. -/
theorem resolve_of_wraps (closed : scope.Closed U)
    (wraps : Wraps (fun list => (e.hooksOf U list).typeProvider = none) asked type)
    (inside : scope.type type) (listed : Listed U scope e) (lost : Lost U e asked error) :
    (∀ found, e.cache.lookup U type = some found → e.cache.failure? found = some error) ∧
      ∃ e', (resolveType U type).outcome e = some (.error error, e') ∧ e'.arena = e.arena := by
  generalize frees : (fun list => (e.hooksOf U list).typeProvider = none) = free at wraps
  induction wraps generalizing e with
  | self =>
    refine ⟨fun found hit => ?_, e, resolveType_of_lost lost, rfl⟩
    obtain ⟨found', hit', failed⟩ := lost
    rw [hit] at hit'
    cases hit'
    exact failed
  | @pointer shape pointee rest ih =>
    obtain ⟨entries, ends⟩ := ih (closed.pointee shape pointee inside) listed lost frees
    refine ⟨fun found hit => entries found ?_, ends⟩
    rw [← TypeCache.lookup_withoutPointers] at hit ⊢
    exact hit
  | @list list item hasItem allowed rest ih =>
    subst frees
    have insideItem := closed.item list item hasItem inside
    have entries : ∀ found, e.cache.lookup U list = some found →
        e.cache.failure? found = some error := fun found hit => by
      obtain ⟨inner, rfl, known⟩ := listed list item found inside hasItem allowed hit
      exact (ih insideItem listed lost rfl).1 inner known
    refine ⟨entries, ?_⟩
    cases hit : e.cache.lookup U list with
    | some found => exact ⟨e, resolveType_of_lost ⟨found, hit, entries found hit⟩, rfl⟩
    | none =>
      have met := listed.met (U.path list) list
      have same : (fun other => (((e.note (.resolving (U.path list))).meet U list).hooksOf U
          other).typeProvider = none) = fun other => (e.hooksOf U other).typeProvider = none := by
        funext other
        have grown : ((e.note (.resolving (U.path list))).meet U list).registry =
            e.registry.getOrRegister U list := rfl
        rw [hooksOf_of_met U grown]
      obtain ⟨-, e', run, arena⟩ := ih insideItem met lost same
      refine ⟨e', ?_, arena⟩
      have plain := isPointer_eq_false_of_item hasItem
      unfold resolveType at run ⊢
      rw [Build.resolve_eq_recalled U _ plain, Build.outcome_recalled_of_miss U hit, buildType_eq,
        Build.outcome_buildBy, allowed, scalar?_eq_none_of_item hasItem]
      simp only [hasItem]
      rw [Build.outcome_map, run]
      rfl

end Lists

/-! ## The end of a failed build -/

section Failed

variable {U : Universe n} {type : TypeExpr n} {options : List (SchemaOption n)}
  {start stop : Encoder n} {error : EncodeError}

/-- A failed outermost build leaves nothing in progress and marks the objects that it inserted. -/
theorem marks_of_failed (resting : Resting start)
    (failed : (structOfInfo U type options).outcome start = some (.error error, stop)) :
    stop.building = [] ∧ (∀ id, New start stop id → stop.cache.failures.get? id = some error) ∧
      ∀ id, ¬ New start stop id →
        stop.cache.failures.get? id = start.cache.failures.get? id := by
  have books := (course_object failed).accounts resting.toTidy trivial
  obtain ⟨idle, marks⟩ := books.outside resting.idle
  exact ⟨idle, marks, books.old⟩

end Failed

/-- **A failed object build is remembered exactly.**  In every encoder that a session reached, a
request that comes to an outermost object build which fails has failed with its error.  The build
has marked the objects that it inserted, and no others, and nothing is in progress.  After every
later session, requests for a type that one of the objects is registered under fail with the same
error and insert nothing, and so does resolving lists of such a type that have no provider, if all
types that were asked for have keys of their own. -/
theorem Session.failed_builds_are_remembered (U : Universe n) (policy : KeyPolicy)
    (before : List (Request n)) (request : Request n) (type : TypeExpr n)
    (options : List (SchemaOption n)) {answers : List (Except EncodeError Answer)}
    {e start stop : Encoder n} {error : EncodeError}
    (reached : Session.run U before (.new U policy) = some (answers, e))
    (comes : request.ComesTo U e type options start)
    (failed : (structOfInfo U type options).outcome start = some (.error error, stop)) :
    (request.run U).outcome e = some (.error error, stop) ∧
    start.building = [] ∧ stop.building = [] ∧
    (∀ id, New start stop id → stop.cache.failures.get? id = some error) ∧
    (∀ id, ¬ New start stop id →
      stop.cache.failures.get? id = start.cache.failures.get? id) ∧
    ∀ later : List (Request n), ∃ answers' e', Session.run U later stop = some (answers', e') ∧
      ∀ id asked, New start stop id → e'.Filed U asked id →
        (∀ again : Request n, again.asked? = some asked →
          ∃ e₁, (again.run U).outcome e' = some (.error error, e₁) ∧ e₁.arena = e'.arena) ∧
        ∀ scope : Scope n, scope.Closed U → scope.Apart U policy →
          (∀ other ∈ before ++ request :: later, other.Within scope) →
            ∀ nested, scope.type nested →
              Wraps (fun list => (e'.hooksOf U list).typeProvider = none) asked nested →
                ∃ e₁, (resolveType U nested).outcome e' = some (.error error, e₁) ∧
                  e₁.arena = e'.arena := by
  have whole := Scope.closed_everything U
  have first := resting_new U policy
  have unplaced : MarksPlaced (Encoder.new U policy) := fun id error mark => (nomatch mark)
  have toHere : Moves U (.everything n) (.new U policy) e := Session.moves whole
    (fun request _ => request.within_everything) reached
  obtain ⟨stops, fromHere⟩ := Request.interrupted failed (toHere.placed unplaced) comes
  have toStart : Moves U (.everything n) (.new U policy) start := toHere.trans fromHere
  have resting := (toStart.lasts first).1
  obtain ⟨idle, marks, old⟩ := marks_of_failed resting failed
  refine ⟨stops, resting.idle, idle, marks, old, fun later => ?_⟩
  have restingStop := (Request.lasts (toHere.lasts first).1 stops).1
  obtain ⟨answers', e', after, -, lasting⟩ := Session.lasts U later restingStop
  refine ⟨answers', e', after, fun id asked new filed => ?_⟩
  have session := Session.run_append reached (Session.run_cons stops after)
  have twinned : Twinned U e' := by
    have moves : Moves U (.everything n) (.new U policy) e' := Session.moves whole
      (fun request _ => request.within_everything) session
    exact moves.twinned first (twinned_new U policy)
  have lost : Lost U e' asked error := by
    refine lost_of_filed twinned filed ?_
    rw [lasting.marks id new.live, marks id new]
  refine ⟨fun again asks => Request.run_of_lost asks lost, ?_⟩
  intro scope closed apart within nested inside wraps
  have listed : Listed U scope e' := by
    have moves := Session.moves closed within session
    exact moves.listed closed apart first rfl (listed_new U scope policy)
  exact (resolve_of_wraps closed wraps inside listed lost).2

/-! ## Parts that keep failing -/

namespace Sample

/-- Lists of boxed parts. -/
def boxes : TypeExpr 4 := .list .vec (.pointer .box part)

/-- The types that nodes and lists of lists of parts lead to. -/
def asked : List (TypeExpr 4) :=
  [.primitive .u32, .primitive .string, .primitive .bool, node, .pointer .box node,
   .pointer .option (.pointer .box node), .list .vec node, broken, .pointer .box broken,
   .map .hash (.primitive .string) (.primitive .bool), part, .pointer .box part, .list .vec part,
   boxes, .list .vec boxes]

def scope : Scope 4 where
  hook _ := True
  type type := type ∈ asked

theorem closed_scope : scope.Closed types := by
  refine Scope.closed_of_dependencies ?_
  have closed : ∀ type ∈ asked, ∀ next ∈ types.dependencies type, next ∈ asked := by decide
  exact closed

theorem apart_scope : scope.Apart types .bareName := by
  have apart : ∀ a ∈ asked, ∀ b ∈ asked,
      KeyPolicy.text .bareName types a.withoutPointers =
        KeyPolicy.text .bareName types b.withoutPointers →
          a.withoutPointers = b.withoutPointers := by
    decide +kernel
  exact fun a b insideA insideB => apart a insideA b insideB

end Sample

/-- A list of parts is asked for, of which the second object cannot be built.  A provider that the
parts get afterwards does not help. -/
theorem Sample.parts_keep_failing :
    ∃ answers e start stop error,
      Session.run types [.structOf node []] (.new types .bareName) = some (answers, e) ∧
      (Request.arrayOf part []).ComesTo types e part [] start ∧
      (structOfInfo types part []).outcome start = some (.error error, stop) ∧
      New start stop ⟨2⟩ ∧ stop.cache.failures.get? ⟨2⟩ = some error ∧
      New start stop ⟨3⟩ ∧ stop.cache.failures.get? ⟨3⟩ = some error ∧
      ∃ answers' e',
        Session.run types [.registerHook part (.typeProvider (.scalar .id))] stop =
          some (answers', e') ∧
        (∃ e₁, ((Request.structOf (.pointer .box part) [.description "A part."]).run
          types).outcome e' = some (.error error, e₁) ∧ e₁.arena = e'.arena) ∧
        ∃ e₁, (resolveType types (.list .vec boxes)).outcome e' = some (.error error, e₁) ∧
          e₁.arena = e'.arena := by
  obtain ⟨answers, e, reached, -⟩ := Session.lasts types [.structOf node []]
    (resting_new types .bareName)
  obtain ⟨registry, registered, -⟩ := Build.outcome_register types part e
  obtain ⟨result, stop, built⟩ := structOfInfo_ends types part [] (e.know registry)
  have sizes : ((Session.run types [.structOf node []] (.new types .bareName)).bind fun r =>
      ((Build.register types part).outcome r.2).bind fun s =>
        ((structOfInfo types part []).outcome s.2).map fun t =>
          (t.1.isOk, s.2.arena.size, t.2.arena.size)) = some (false, 1, 3) := by
    decide +kernel
  have cut : ((Session.run types [.structOf node []] (.new types .bareName)).bind fun r =>
      ((Build.register types part).outcome r.2).map fun s =>
        (((Request.arrayOf part []).runBy types
          (Build.cutAt types part [] s.2)).outcome r.2).isNone) = some true := by
    decide +kernel
  have listed : ((Session.run types [.structOf node [], .arrayOf part [],
      .registerHook part (.typeProvider (.scalar .id))] (.new types .bareName)).map fun r =>
        (r.2.struct? ⟨2⟩, (r.2.hooksOf types boxes).typeProvider,
          (r.2.hooksOf types (.list .vec boxes)).typeProvider)) =
      some (some part, none, none) := by
    decide +kernel
  rw [reached, Option.bind_some, registered, Option.bind_some, built, Option.map_some,
    Option.some.injEq] at sizes
  rw [reached, Option.bind_some, registered, Option.map_some, Option.some.injEq] at cut
  cases result with
  | ok id => cases sizes
  | error error =>
    have comes : (Request.arrayOf part []).ComesTo types e part []
        (e.know registry) := Option.isNone_iff_eq_none.1 cut
    obtain ⟨stops, -, -, marks, -, lasting⟩ := Session.failed_builds_are_remembered types .bareName
      [.structOf node []] (.arrayOf part []) part [] reached comes built
    obtain ⟨answers', e', after, fails⟩ :=
      lasting [.registerHook part (.typeProvider (.scalar .id))]
    simp only [Prod.mk.injEq] at sizes
    obtain ⟨-, old, all⟩ := sizes
    have new₂ : New (e.know registry) stop ⟨2⟩ := by
      unfold New
      rw [old, all]
      decide
    have new₃ : New (e.know registry) stop ⟨3⟩ := by
      unfold New
      rw [old, all]
      decide
    have session := Session.run_append reached (Session.run_cons stops after)
    rw [List.singleton_append] at session
    rw [session] at listed
    simp only [Option.map_some, Option.some.injEq, Prod.mk.injEq] at listed
    obtain ⟨begun, free, free'⟩ := listed
    have filed : e'.Filed types (.pointer .box part) ⟨2⟩ :=
      .inl ⟨part, begun, rfl⟩
    obtain ⟨again, nested⟩ := fails ⟨2⟩ _ new₂ filed
    refine ⟨answers, e, e.know registry, stop, error, reached, comes, built, new₂, marks _ new₂,
      new₃, marks _ new₃, answers', e', after, again _ rfl, ?_⟩
    refine nested scope closed_scope apart_scope ?_ (.list .vec boxes) ?_ ?_
    · intro other asks
      simp only [List.mem_append, List.mem_cons, List.not_mem_nil, or_false] at asks
      rcases asks with rfl | rfl | rfl <;>
        exact ⟨fun _ _ => trivial, by simp [Request.types, scope, asked]⟩
    · simp [scope, asked]
    · exact .list rfl free' (.list rfl free .self)

end RecordSchema
