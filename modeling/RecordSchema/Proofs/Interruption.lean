import RecordSchema.Proofs.Moves

/-!
# Requests end where an object build fails

Which object builds an answer comes to is not visible in its outcome.  To speak of them, requests
are answered here by any builder of objects (`Request.runBy`), of which the encoder's own is one.  A
builder that has no outcome for a single build then tells whether the answer comes to this build: if
it does, the answer has no outcome either (`Request.ComesTo`).

If that build fails, nothing else happens: the request has failed with the error of the build, and
the encoder is the one that the build left (`Request.interrupted`).  The error comes through
unchanged because errors of object builds carry their struct and field already
(`EncodeError.Placed`).
-/

namespace RecordSchema

variable {n : Nat}

open Encoder

/-! ## Requests to any builder of objects -/

section Builder

variable (U : Universe n) (object : TypeExpr n → List (SchemaOption n) → Build n ObjectId)

def structOfBy (type : TypeExpr n) (options : List (SchemaOption n)) : Build n ObjectId := do
  Build.register U type
  object type options

def resolveTypeBy (type : TypeExpr n) : Build n SchemaType :=
  Build.resolve U (fun type => object type []) type

def argsOfInfoBy (type : TypeExpr n) : Build n ArgumentMap :=
  Build.argumentsWith U (resolveTypeBy U object) ((U.info type).withoutPointers U)

def argsOfBy (type : TypeExpr n) : Build n ArgumentMap := do
  Build.register U type
  argsOfInfoBy U object type

def itemTypeBy (type : TypeExpr n) (options : List (SchemaOption n)) : Build n SchemaType :=
  if U.isStruct type then SchemaType.object <$> object type options
  else Build.buildType U (fun type => object type []) type

def arrayOfBy (type : TypeExpr n) (options : List (SchemaOption n)) : Build n SchemaType := do
  Build.register U type
  let item := type.withoutPointers
  match ← Build.cached U item with
  | some found =>
    Build.note (.itemCacheHit (U.path item))
    return .list found
  | none =>
    let resolved ← itemTypeBy U object item options
    Build.remember U item resolved
    return .list resolved

def applyToFieldBy (option : SchemaOption n) (field : Field) : Build n Field :=
  match option with
  | .arguments source => do
    let arguments ← argsOfInfoBy U object source
    return { field with arguments }
  | other => applyToField U other field

def fieldOfBy (type : TypeExpr n) (options : List (SchemaOption n)) : Build n Field := do
  let id ← structOfBy U object type []
  let target ← Encoder.object id
  options.foldlM (fun field option => applyToFieldBy U object option field)
    { name := target.name, type := .object id }

/-- Answer a request with a builder of objects. -/
def Request.runBy : Request n → Build n Answer
  | .structOf type options => Answer.object <$> structOfBy U object type options
  | .structOfInfo type options => Answer.object <$> object type options
  | .argsOf type => Answer.arguments <$> argsOfBy U object type
  | .argsOfInfo type => Answer.arguments <$> argsOfInfoBy U object type
  | .arrayOf type options => Answer.type <$> arrayOfBy U object type options
  | .fieldOf type options => Answer.field <$> fieldOfBy U object type options
  | .resolveType type => Answer.type <$> resolveTypeBy U object type
  | .registerHook type hook => Request.run U (.registerHook type hook)
  | .insertHook type hook => Request.run U (.insertHook type hook)

end Builder

theorem applyToFieldBy_structOfInfo (U : Universe n) (option : SchemaOption n) (field : Field) :
    applyToFieldBy U (structOfInfo U) option field = applyToField U option field := by
  cases option <;> rfl

/-- The encoder answers requests with its own builder of objects. -/
theorem Request.runBy_structOfInfo (U : Universe n) (request : Request n) :
    request.runBy U (Encoder.structOfInfo U) = request.run U := by
  cases request with
  | fieldOf type options =>
    simp only [runBy, run, fieldOfBy, Encoder.fieldOf, applyToFieldBy_structOfInfo]
    rfl
  | structOf | structOfInfo | argsOf | argsOfInfo | arrayOf | resolveType | registerHook
  | insertHook => rfl

/-- The encoder's builder of objects, except that it has no outcome for one build. -/
def Build.cutAt (U : Universe n) (type : TypeExpr n) (options : List (SchemaOption n))
    (start : Encoder n) (type' : TypeExpr n) (options' : List (SchemaOption n)) :
    Build n ObjectId :=
  ExceptT.mk fun e =>
    if type' = type ∧ options' = options ∧ e = start then none
    else (structOfInfo U type' options').outcome e

/-- The answer to a request on `e` comes to build the object of a type on `start`: it needs the
outcome of this build. -/
def Request.ComesTo (U : Universe n) (request : Request n) (e : Encoder n) (type : TypeExpr n)
    (options : List (SchemaOption n)) (start : Encoder n) : Prop :=
  (request.runBy U (Build.cutAt U type options start)).outcome e = none

/-! ## Errors that carry their place -/

/-- An error to which no struct and field are added. -/
def EncodeError.Placed (error : EncodeError) : Prop :=
  ∀ structPath field, error.inStruct structPath field = error

/-- All recorded errors carry their place. -/
def Encoder.MarksPlaced (e : Encoder n) : Prop :=
  ∀ id error, e.cache.failures.get? id = some error → error.Placed

theorem SchemaOption.placed_of_applyAllToObject {options : List (SchemaOption n)}
    {object : ObjectType} {error : EncodeError}
    (refusal : applyAllToObject options object = .error error) : error.Placed := by
  induction options generalizing object with
  | nil => cases refusal
  | cons option rest ih =>
    change (option.applyToObject object).bind (applyAllToObject rest) = _ at refusal
    cases option with
    | description text => exact @ih { object with description := some text } refusal
    | defaultValue | deprecationReason | resolver | type | arguments =>
      cases refusal
      exact fun _ _ => rfl

theorem Encoder.MarksPlaced.close {α : Type} {e : Encoder n} (placed : MarksPlaced e)
    (outermost : Bool) (path : String) {result : Except EncodeError α}
    (error : ∀ error, result = .error error → error.Placed) :
    MarksPlaced (e.close outermost path result) := by
  cases outermost with
  | false => exact placed
  | true =>
    cases result with
    | ok _ => exact placed
    | error reason =>
      intro id other mark
      change (marked e.cache e.building reason).failures.get? id = some other at mark
      rw [failures_marked] at mark
      split at mark
      · cases old : e.cache.failures.get? id with
        | none =>
          rw [old] at mark
          cases mark
          exact error reason rfl
        | some before =>
          rw [old] at mark
          cases mark
          exact placed id before old
      · exact placed id other mark

theorem Encoder.MarksPlaced.of_hit {e : Encoder n} (placed : MarksPlaced e) {found : SchemaType}
    {error : EncodeError} (failed : e.cache.failure? found = some error) : error.Placed := by
  unfold TypeCache.failure? at failed
  obtain ⟨id, -, mark⟩ := Option.bind_eq_some_iff.1 failed
  exact placed id error mark

/-- A call that may end with an error without a place: one that is not yet inside a struct. -/
def Call.Bare : Call n → Prop
  | .resolve _ | .build _ => True
  | .object _ _ | .walk _ _ _ => False

/-- The errors of object builds carry their place, and so do the marks. -/
theorem Course.placed {U : Universe n} {call : Call n} {e e' : Encoder n}
    {result : Except EncodeError SchemaType} (course : Course U call e result e')
    (placed : MarksPlaced e) :
    MarksPlaced e' ∧ (¬ call.Bare → ∀ error, result = .error error → error.Placed) := by
  induction course with
  | pointer inner ih => exact ⟨(ih placed).1, fun inside => absurd trivial inside⟩
  | recorded => exact ⟨placed, fun inside => absurd trivial inside⟩
  | recalled | provided | scalar | unrecognized =>
    exact ⟨placed, fun inside => absurd trivial inside⟩
  | resolved plain miss inner ih => exact ⟨(ih placed).1, fun inside => absurd trivial inside⟩
  | refused plain miss inner ih => exact ⟨(ih placed).1, fun inside => absurd trivial inside⟩
  | list free other listed inner ih => exact ⟨(ih placed).1, fun inside => absurd trivial inside⟩
  | struct free other struct inner ih => exact ⟨(ih placed).1, fun inside => absurd trivial inside⟩
  | objectRecorded hit failed =>
    refine ⟨placed, ?_⟩
    rintro _ _ ⟨⟩
    exact placed.of_hit failed
  | objectRecalled => exact ⟨placed, fun _ _ ok => (nomatch ok)⟩
  | notAnObject | notStruct =>
    refine ⟨placed, ?_⟩
    rintro _ _ ⟨⟩
    exact fun _ _ => rfl
  | notSupported miss struct refusal =>
    refine ⟨placed, ?_⟩
    rintro _ _ ⟨⟩
    exact SchemaOption.placed_of_applyAllToObject refusal
  | begun miss struct made inner ih =>
    obtain ⟨marks, errors⟩ := ih placed
    have inside := errors (fun bare => bare)
    exact ⟨marks.close _ _ inside, fun _ => inside⟩
  | done => exact ⟨placed, fun _ _ ok => (nomatch ok)⟩
  | untagged untagged inner ih => exact ⟨(ih placed).1, fun _ => (ih placed).2 fun bare => bare⟩
  | @tagged id path field text type rest e resolved e₁ result e' content first live inner ih₁ ih₂ =>
    have exposed : MarksPlaced (e₁.expose U id path field.name (.parse text) type resolved) := by
      unfold MarksPlaced
      rw [expose_cache]
      exact (ih₁ placed).1
    exact ⟨(ih₂ exposed).1, fun _ => (ih₂ exposed).2 fun bare => bare⟩
  | stopped content first ih =>
    refine ⟨(ih placed).1, ?_⟩
    rintro _ _ ⟨⟩ path field
    exact EncodeError.inStruct_inStruct _ _ _ _ _
  | @dangling id path field text type rest e resolved e₁ content first dead ih =>
    constructor
    · unfold MarksPlaced
      rw [meet_cache, warn_cache]
      exact (ih placed).1
    · rintro _ _ ⟨⟩
      exact fun _ _ => rfl

theorem Moves.placed {U : Universe n} {scope : Scope n} {e e' : Encoder n}
    (moves : Moves U scope e e') (placed : MarksPlaced e) : MarksPlaced e' := by
  induction moves with
  | refl => exact placed
  | tail first last ih =>
    cases last with
    | note | register | attach => exact ih
    | call asked inside course => exact (course.placed ih).1
    | enter asked plain inside miss course => exact (course.placed ih).1

/-! ## A failed build ends the request -/

section Stops

variable {U : Universe n} {scope : Scope n} {start stop : Encoder n} {error : EncodeError}
  {α β : Type} {e : Encoder n}

/-- A step and the same step with one build cut out: they agree on an encoder, or the step stops
with that build, to which it comes after moves only. -/
def StopsAt (U : Universe n) (scope : Scope n) (start stop : Encoder n) (error : EncodeError)
    (step cut : Build n α) (e : Encoder n) : Prop :=
  MarksPlaced e → cut.outcome e = step.outcome e ∨
    (cut.outcome e = none ∧ step.outcome e = some (.error error, stop) ∧ Moves U scope e start)

namespace StopsAt

variable {step cut : Build n α}

theorem refl (step : Build n α) (e : Encoder n) : StopsAt U scope start stop error step step e :=
  fun _ => .inl rfl

theorem map (h : StopsAt U scope start stop error step cut e) (f : α → β) :
    StopsAt U scope start stop error (f <$> step) (f <$> cut) e := by
  intro marks
  rw [Build.outcome_map, Build.outcome_map]
  rcases h marks with same | ⟨none, failed, moves⟩
  · exact .inl (by rw [same])
  · exact .inr ⟨by rw [none]; rfl, by rw [failed]; rfl, moves⟩

theorem adapt (h : StopsAt U scope start stop error step cut e) {f : EncodeError → EncodeError}
    (kept : MarksPlaced start → f error = error) :
    StopsAt U scope start stop error (ExceptT.adapt f step : Build n α) (ExceptT.adapt f cut)
      e := by
  intro marks
  rw [Build.outcome_adapt, Build.outcome_adapt]
  rcases h marks with same | ⟨none, failed, moves⟩
  · exact .inl (by rw [same])
  · refine .inr ⟨by rw [none]; rfl, ?_, moves⟩
    have same : (Except.error error : Except EncodeError α).mapError f = .error error :=
      congrArg Except.error (kept (moves.placed marks))
    rw [failed, Option.map_some, same]

theorem bind {next next' : α → Build n β} (h : StopsAt U scope start stop error step cut e)
    (second : ∀ a e₁, step.outcome e = some (.ok a, e₁) →
      StopsAt U scope start stop error (next a) (next' a) e₁)
    (moves : ∀ a e₁, step.outcome e = some (.ok a, e₁) → Moves U scope e e₁) :
    StopsAt U scope start stop error (step >>= next) (cut >>= next') e := by
  intro marks
  rcases h marks with same | ⟨none, failed, toStart⟩
  · rw [Build.outcome_bind, Build.outcome_bind, same]
    cases run : step.outcome e with
    | none => exact .inl rfl
    | some r =>
      obtain ⟨reason | a, e₁⟩ := r
      · exact .inl rfl
      · have before := moves a e₁ run
        rcases second a e₁ run (before.placed marks) with same' | ⟨none', failed', toStart⟩
        · exact .inl same'
        · exact .inr ⟨none', failed', before.trans toStart⟩
  · refine .inr ⟨?_, Build.outcome_bind_error failed _, toStart⟩
    rw [Build.outcome_bind, none]
    rfl

/-- What follows a step is not cut. -/
theorem bind_left {next : α → Build n β} (h : StopsAt U scope start stop error step cut e) :
    StopsAt U scope start stop error (step >>= next) (cut >>= next) e := by
  intro marks
  rw [Build.outcome_bind, Build.outcome_bind]
  rcases h marks with same | ⟨none, failed, moves⟩
  · exact .inl (by rw [same])
  · exact .inr ⟨by rw [none]; rfl, by rw [failed]; rfl, moves⟩

/-- What comes before a step is not cut, and is a few moves. -/
theorem bind_right {first : Build n β} {next next' : β → Build n α} {given : List ObjectId}
    {handles : β → List ObjectId} (serves : Build.Serves U scope given handles first)
    (second : ∀ b e₁, StopsAt U scope start stop error (next b) (next' b) e₁) :
    StopsAt U scope start stop error (first >>= next) (first >>= next') e := by
  exact bind (refl first e) (fun b e₁ _ => second b e₁) fun b e₁ run => serves.moves run

theorem foldlM {γ : Type} {step cut : β → γ → Build n β} (items : List γ)
    (each : ∀ b c, c ∈ items → ∀ e, StopsAt U scope start stop error (step b c) (cut b c) e)
    (moves : ∀ b c, c ∈ items → ∀ e b' e₁, (step b c).outcome e = some (.ok b', e₁) →
      Moves U scope e e₁) (b : β) (e : Encoder n) :
    StopsAt U scope start stop error (items.foldlM step b) (items.foldlM cut b) e := by
  induction items generalizing b e with
  | nil => exact refl _ e
  | cons c rest ih =>
    rw [List.foldlM_cons, List.foldlM_cons]
    refine bind (each b c List.mem_cons_self e) (fun b' e₁ _ => ?_) (moves b c List.mem_cons_self e)
    exact ih (fun b c listed => each b c (List.mem_cons_of_mem _ listed))
      (fun b c listed => moves b c (List.mem_cons_of_mem _ listed)) b' e₁

end StopsAt

/-! ### Resolving -/

variable {object object' : TypeExpr n → Build n ObjectId}
  (builds : ∀ type e, StopsAt U scope start stop error (object type) (object' type) e)

theorem StopsAt.recalled {type : TypeExpr n} {build build' : Build n SchemaType}
    (h : StopsAt U scope start stop error build build' e) :
    StopsAt U scope start stop error (Build.recalled U type build) (Build.recalled U type build')
      e := by
  intro marks
  cases hit : e.cache.lookup U type with
  | some found =>
    cases failed : e.cache.failure? found with
    | some reason =>
      rw [Build.outcome_recalled_of_failed U hit failed,
        Build.outcome_recalled_of_failed U hit failed]
      exact .inl rfl
    | none =>
      rw [Build.outcome_recalled_of_hit U hit failed, Build.outcome_recalled_of_hit U hit failed]
      exact .inl rfl
  | none =>
    rw [Build.outcome_recalled_of_miss U hit, Build.outcome_recalled_of_miss U hit]
    rcases h marks with same | ⟨none, failed, moves⟩
    · exact .inl (by rw [same])
    · exact .inr ⟨by rw [none]; rfl, by rw [failed]; rfl, moves⟩

theorem StopsAt.buildBy {type : TypeExpr n} {structural structural' : Build n SchemaType}
    (h : ∀ e, StopsAt U scope start stop error structural structural' e) :
    StopsAt U scope start stop error (Build.buildBy U type structural)
      (Build.buildBy U type structural') e := by
  intro marks
  rw [Build.outcome_buildBy, Build.outcome_buildBy]
  cases (e.hooksOf U type).typeProvider with
  | some given => exact .inl rfl
  | none =>
    cases (U.info type).scalar? with
    | some leaf => exact .inl rfl
    | none =>
      rcases h ((e.note (.resolving (U.path type))).meet U type) marks with
        same | ⟨none, failed, moves⟩
      · exact .inl same
      · have noted : Move U scope e (e.note (.resolving (U.path type))) := .note rfl
        have met : Move U scope (e.note (.resolving (U.path type)))
            ((e.note (.resolving (U.path type))).meet U type) :=
          .register (Registry.extends_getOrRegister U e.registry type)
        exact .inr ⟨none, failed, .head noted (.head met moves)⟩

include builds

theorem StopsAt.buildType_of (type : TypeExpr n)
    (items : ∀ item, type.item? = some item → ∀ e,
      StopsAt U scope start stop error (Build.resolve U object item) (Build.resolve U object' item)
        e)
    (e : Encoder n) :
    StopsAt U scope start stop error (Build.buildType U object type)
      (Build.buildType U object' type) e := by
  rw [buildType_eq, buildType_eq]
  refine StopsAt.buildBy fun e => ?_
  cases listed : type.item? with
  | some item => exact (items item listed e).map _
  | none =>
    simp only
    split
    · exact (builds type e).map _
    · exact .refl _ e

theorem StopsAt.resolve (type : TypeExpr n) (e : Encoder n) :
    StopsAt U scope start stop error (Build.resolve U object type) (Build.resolve U object' type)
      e := by
  induction type generalizing e with
  | pointer shape pointee ih => exact ih e
  | list shape item ih =>
    refine StopsAt.recalled (StopsAt.buildType_of builds (.list shape item) ?_ e)
    rintro _ ⟨⟩
    exact ih
  | array item length ih =>
    refine StopsAt.recalled (StopsAt.buildType_of builds (.array item length) ?_ e)
    rintro _ ⟨⟩
    exact ih
  | native type =>
    exact StopsAt.recalled
      (StopsAt.buildType_of builds (.native type) (fun _ none => nomatch none) e)
  | declared index =>
    exact StopsAt.recalled
      (StopsAt.buildType_of builds (.declared index) (fun _ none => nomatch none) e)
  | map shape key value =>
    exact StopsAt.recalled
      (StopsAt.buildType_of builds (.map shape key value) (fun _ none => nomatch none) e)

end Stops

/-! ### Requests -/

section Requests

variable {U : Universe n} {type : TypeExpr n} {options : List (SchemaOption n)}
  {start stop : Encoder n} {error : EncodeError} {e : Encoder n}
  (failed : (Encoder.structOfInfo U type options).outcome start = some (.error error, stop))

/-- The encoder's builder stops at the failed build, and nowhere else. -/
abbrev Stops (U : Universe n) (start stop : Encoder n) (error : EncodeError) {α : Type}
    (step cut : Build n α) : Prop :=
  ∀ e, StopsAt U (.everything n) start stop error step cut e

include failed in
theorem stops_structOfInfo (other : TypeExpr n) (options' : List (SchemaOption n)) :
    Stops U start stop error (structOfInfo U other options')
      (Build.cutAt U type options start other options') := by
  intro e _
  by_cases here : other = type ∧ options' = options ∧ e = start
  · obtain ⟨rfl, rfl, rfl⟩ := here
    refine .inr ⟨?_, failed, .refl⟩
    exact if_pos ⟨rfl, rfl, rfl⟩
  · exact .inl (if_neg here)

theorem stops_after_register {α : Type} {step cut : Build n α} (other : TypeExpr n)
    (h : Stops U start stop error step cut) :
    Stops U start stop error (do Build.register U other; step)
      (do Build.register U other; cut) := by
  intro e
  have registers : Build.Serves U (.everything n) [] noHandles (Build.register U other) :=
    Build.serves_register other
  exact StopsAt.bind_right registers fun _ e₁ => h e₁

include failed

theorem stops_resolveType (other : TypeExpr n) :
    Stops U start stop error (resolveType U other)
      (resolveTypeBy U (Build.cutAt U type options start) other) :=
  StopsAt.resolve (fun other e => stops_structOfInfo failed other [] e) other

theorem stops_addArgument (placed : MarksPlaced start → error.Placed) (path : String)
    (arguments : ArgumentMap) (field : RecordField n) :
    Stops U start stop error (Build.addArgument U (resolveType U) path arguments field)
      (Build.addArgument U (resolveTypeBy U (Build.cutAt U type options start)) path arguments
        field) := by
  intro e
  unfold Build.addArgument
  cases field.content with
  | hidden | untagged => exact .refl _ e
  | tagged text other =>
    refine StopsAt.bind_left (StopsAt.adapt ?_ fun marks => placed marks path field.name)
    exact StopsAt.bind_left (stops_resolveType failed other e)

theorem stops_argsOfInfo (placed : MarksPlaced start → error.Placed) (other : TypeExpr n) :
    Stops U start stop error (argsOfInfo U other)
      (argsOfInfoBy U (Build.cutAt U type options start) other) := by
  intro e
  unfold argsOfInfoBy
  rw [Build.argsOfInfo_eq, Universe.withoutPointers_info]
  rcases Universe.struct_or_not U other.withoutPointers with ⟨fields, struct⟩ | noStruct
  · rw [Build.argumentsWith_of_struct _ struct, Build.argumentsWith_of_struct _ struct]
    refine StopsAt.foldlM fields ?_ ?_ _ e
    · exact fun arguments field _ e => stops_addArgument failed placed _ arguments field e
    · intro arguments field listed e arguments' e₁ run
      exact (Build.serves_addArgument (Scope.closed_everything U) trivial struct _ listed
        fun id named => named).moves run
  · rw [Build.argumentsWith_of_other _ noStruct, Build.argumentsWith_of_other _ noStruct]
    exact .refl _ e

theorem stops_itemType (other : TypeExpr n) (options' : List (SchemaOption n)) :
    Stops U start stop error (itemType U other options')
      (itemTypeBy U (Build.cutAt U type options start) other options') := by
  intro e
  unfold itemType itemTypeBy
  split
  · exact (stops_structOfInfo failed other options' e).map _
  · refine StopsAt.buildType_of (fun other e => stops_structOfInfo failed other [] e) other ?_ e
    exact fun item _ e => stops_resolveType failed item e

theorem stops_arrayOf (other : TypeExpr n) (options' : List (SchemaOption n)) :
    Stops U start stop error (arrayOf U other options')
      (arrayOfBy U (Build.cutAt U type options start) other options') := by
  refine stops_after_register other fun e => ?_
  refine StopsAt.bind (.refl _ e) (fun found e₁ _ => ?_) fun found e₁ run => ?_
  · cases found with
    | some found => exact .refl _ e₁
    | none => exact StopsAt.bind_left (stops_itemType failed other.withoutPointers options' e₁)
  · rw [Build.outcome_cached, Option.some.injEq, Prod.mk.injEq] at run
    rw [run.2]

theorem stops_applyToField (placed : MarksPlaced start → error.Placed)
    (option : SchemaOption n) (field : Field) :
    Stops U start stop error (applyToField U option field)
      (applyToFieldBy U (Build.cutAt U type options start) option field) := by
  intro e
  cases option with
  | arguments source => exact StopsAt.bind_left (stops_argsOfInfo failed placed source e)
  | description | defaultValue | deprecationReason | resolver | type => exact .refl _ e

theorem stops_fieldOf (placed : MarksPlaced start → error.Placed) (other : TypeExpr n)
    (options' : List (SchemaOption n)) :
    Stops U start stop error (fieldOf U other options')
      (fieldOfBy U (Build.cutAt U type options start) other options') := by
  intro e
  have whole := Scope.closed_everything U
  refine StopsAt.bind ?_ (fun id e₁ _ => ?_) fun id e₁ run => ?_
  · exact stops_after_register other (stops_structOfInfo failed other []) e
  · have reads : Build.Serves U (.everything n) [] noHandles (Encoder.object id) :=
      Build.serves_object id
    refine StopsAt.bind_right reads fun target e₂ => ?_
    refine StopsAt.foldlM options' ?_ ?_ _ e₂
    · exact fun field option _ e => stops_applyToField failed placed option field e
    · intro field option _ e field' e₃ run
      have serves : Build.Serves U (.everything n)
          (field.handles ++ Build.optionHandles option) Field.handles
          (applyToField U option field) := by
        refine Build.serves_applyToField whole (fun id named => List.mem_append_left _ named) ?_ ?_
        · rintro replacement rfl id named
          exact List.mem_append_right _ named
        · exact fun _ _ => trivial
      exact serves.moves run
  · have serves : Build.Serves U (.everything n) [] (fun id => [id]) (structOf U other []) :=
      Build.serves_structOf whole trivial []
    exact serves.moves run

theorem stops_request (placed : MarksPlaced start → error.Placed) (request : Request n) :
    Stops U start stop error (request.run U)
      (request.runBy U (Build.cutAt U type options start)) := by
  intro e
  cases request with
  | structOf other options' =>
    exact (stops_after_register other (stops_structOfInfo failed other options') e).map _
  | structOfInfo other options' => exact (stops_structOfInfo failed other options' e).map _
  | argsOf other =>
    exact (stops_after_register other (stops_argsOfInfo failed placed other) e).map _
  | argsOfInfo other => exact (stops_argsOfInfo failed placed other e).map _
  | arrayOf other options' => exact (stops_arrayOf failed other options' e).map _
  | fieldOf other options' => exact (stops_fieldOf failed placed other options' e).map _
  | resolveType other => exact (stops_resolveType failed other e).map _
  | registerHook | insertHook => exact .refl _ e

/-- A request that comes to a build which fails has failed with its error, and ends where it ended.
The build was reached by moves, so it was an outermost one. -/
theorem Request.interrupted (marks : MarksPlaced e) {request : Request n}
    (comes : request.ComesTo U e type options start) :
    (request.run U).outcome e = some (.error error, stop) ∧ Moves U (.everything n) e start := by
  have placed : MarksPlaced start → error.Placed := fun marks =>
    ((course_object failed).placed marks).2 (fun bare => bare) error rfl
  rcases stops_request failed placed request e marks with same | ⟨_, run, moves⟩
  · have whole := Scope.closed_everything U
    obtain ⟨result, e', ends, -⟩ := Request.serves whole request.within_everything e
    unfold Request.ComesTo at comes
    rw [comes, ends] at same
    cases same
  · exact ⟨run, moves⟩

end Requests

end RecordSchema
