import RecordSchema.Proofs.OpenPaths
import RecordSchema.Proofs.Providers

/-!
# Registration never loses or resets a hook

Types enter a registry from several places: by direct registration with all that they depend on, one
by one when a build meets them, and when a hook is attached.  Each time a type brings hooks along,
and these must not take the place of the hooks of a type that is there already.

So the hooks of a type have a short history.  `Action.inserted?` says which hook an action inserts
for a type and a kind, if any, and `Action.lastInserted?` which one was inserted last in a sequence
of actions.  Nothing else counts (`Action.runAll_inserts`): each action inserts its hook or leaves
the one that was there, and the hooks that a type brings along are the first.
-/

namespace RecordSchema

variable {n : Nat}

open Encoder

/-! ## Changes of a registry -/

namespace Registry

variable {U : Universe n} {r r' : Registry n}

/-- The hooks of a type, or those that it will bring along. -/
def hooksOf (U : Universe n) (r : Registry n) (type : TypeExpr n) : Hooks :=
  (r.hooks? type).getD (U.hooks type)

theorem hook?_of_contains (U : Universe n) {type : TypeExpr n} (known : r.contains type)
    (kind : HookKind) :
    r.hook? type kind = (r.hooksOf U type).get? kind := by
  rw [contains_eq_isSome, Option.isSome_iff_exists] at known
  obtain ⟨hooks, found⟩ := known
  rw [hook?, hooksOf, found]
  rfl

/-- What is found under a kind is of this kind. -/
theorem kind_of_hook? {type : TypeExpr n} {kind : HookKind} {hook : Hook}
    (found : r.hook? type kind = some hook) : hook.kind = kind := by
  obtain ⟨hooks, -, held⟩ := Option.bind_eq_some_iff.1 found
  exact hooks.placed kind hook held

/-- An attached hook is found with its type and kind, if the type is registered. -/
theorem get?_hooksOf_attach (U : Universe n) (r : Registry n) (type other : TypeExpr n)
    (hook : Hook) (kind : HookKind) :
    ((r.attach other hook).hooksOf U type).get? kind =
      if other = type ∧ hook.kind = kind ∧ r.contains type then some hook
      else (r.hooksOf U type).get? kind := by
  rw [hooksOf, hooksOf, hooks?_attach, contains_eq_isSome]
  by_cases same : other = type
  · subst same
    cases r.hooks? other with
    | none => simp
    | some hooks => simp [Hooks.get?_attach]
  · simp [same]

/-- Nothing is attached to a type that is not registered. -/
theorem attach_of_unregistered {type : TypeExpr n} (unknown : r.contains type = false)
    (hook : Hook) : r.attach type hook = r := by
  have absent : r.table.get? type = none := by
    simpa [contains, Dictionary.contains] using unknown
  rw [attach, Dictionary.modify, absent]

namespace Change

/-- The hook that a change inserts for a type and a kind: one of this kind that it attaches to just
this type, if the type is registered by then. -/
def inserted? (r : Registry n) (type : TypeExpr n) (kind : HookKind) : Change n → Option Hook
  | .register _ | .getOrRegister _ => none
  | .registerHook other hook => if other = type ∧ hook.kind = kind then some hook else none
  | .insertHook other hook =>
    if other = type ∧ hook.kind = kind ∧ r.contains type then some hook else none

/-- A change can be made, and then each type has the hook that is inserted for it, or else the one
that it had. -/
theorem apply_hooks (U : Universe n) (change : Change n) (r : Registry n) :
    ∃ r', change.apply U r = some r' ∧ (∀ type, r.contains type → r'.contains type) ∧
      ∀ type kind, (r'.hooksOf U type).get? kind =
        (change.inserted? r type kind).or ((r.hooksOf U type).get? kind) := by
  cases change with
  | register type =>
    obtain ⟨r', registered, grown, -⟩ := register_extends U r type
    exact ⟨r', registered, fun _ => grown.contains, fun other kind =>
      congrArg (Hooks.get? · kind) (grown.brought other)⟩
  | getOrRegister type =>
    have grown := extends_getOrRegister U r type
    exact ⟨_, rfl, fun _ => grown.contains, fun other kind =>
      congrArg (Hooks.get? · kind) (grown.brought other)⟩
  | registerHook type hook =>
    obtain ⟨r', registered, grown, known⟩ := register_extends U r type
    refine ⟨r'.attach type hook, by simp [apply, Registry.registerHook, registered], ?_, ?_⟩
    · intro other old
      rw [contains_attach]
      exact grown.contains old
    · intro other kind
      have before : r'.hooksOf U other = r.hooksOf U other := grown.brought other
      rw [get?_hooksOf_attach, before, inserted?]
      by_cases same : type = other ∧ hook.kind = kind
      · rw [if_pos same, if_pos ⟨same.1, same.2, same.1 ▸ known⟩]
        rfl
      · rw [if_neg same, if_neg fun h => same ⟨h.1, h.2.1⟩]
        rfl
  | insertHook type hook =>
    refine ⟨_, rfl, fun other old => (contains_attach r type other hook).trans old, ?_⟩
    intro other kind
    change ((r.attach type hook).hooksOf U other).get? kind = _
    rw [get?_hooksOf_attach, inserted?]
    split <;> rfl

end Change

end Registry

/-! ## Actions -/

/-- What can be done to an encoder: its registry is changed directly, or a request is made. -/
inductive Action (n : Nat) where
  | change (change : Registry.Change n)
  | request (request : Request n)
  deriving DecidableEq, Repr

/-- The change that a request is, if it attaches a hook. -/
def Request.change? : Request n → Option (Registry.Change n)
  | .registerHook type hook => some (.registerHook type hook)
  | .insertHook type hook => some (.insertHook type hook)
  | _ => none

namespace Action

/-- The encoder after an action, however a request is answered. -/
def run (U : Universe n) (e : Encoder n) : Action n → Option (Encoder n)
  | .change made => (made.apply U e.registry).map e.know
  | .request asked => ((asked.run U).outcome e).map Prod.snd

/-- The encoder after actions, one after the other. -/
def runAll (U : Universe n) (actions : List (Action n)) (e : Encoder n) : Option (Encoder n) :=
  actions.foldlM (run U) e

/-- The hook that an action inserts for a type and a kind.  No other request than those that attach
a hook inserts any. -/
def inserted? (e : Encoder n) (type : TypeExpr n) (kind : HookKind) : Action n → Option Hook
  | .change made => made.inserted? e.registry type kind
  | .request asked => asked.change?.bind fun made => made.inserted? e.registry type kind

/-- The hook that actions inserted last for a type and a kind. -/
def lastInserted? (U : Universe n) (type : TypeExpr n) (kind : HookKind) :
    List (Action n) → Encoder n → Option Hook
  | [], _ => none
  | action :: rest, e =>
    ((action.run U e).bind (lastInserted? U type kind rest)).or (action.inserted? e type kind)

end Action

/-! ## Requests that attach nothing -/

/-- Requests that may ask for any type and attach no hook. -/
def Scope.hookless (n : Nat) : Scope n := ⟨fun _ => False, fun _ => True⟩

/-- No type gets other hooks, and none is forgotten. -/
structure Encoder.KeepsHooks (U : Universe n) (e e' : Encoder n) : Prop where
  hooks : ∀ type, e'.hooksOf U type = e.hooksOf U type
  registered : ∀ type, e.registry.contains type → e'.registry.contains type

section Hookless

variable {U : Universe n} {e e₁ e' : Encoder n}

theorem Encoder.KeepsHooks.trans (first : KeepsHooks U e e₁) (second : KeepsHooks U e₁ e') :
    KeepsHooks U e e' where
  hooks type := (second.hooks type).trans (first.hooks type)
  registered type known := second.registered type (first.registered type known)

theorem Course.keepsHooks {call : Call n} {result : Except EncodeError SchemaType}
    (course : Course U call e result e') : KeepsHooks U e e' :=
  ⟨course.hooksOf, course.keeps.registered⟩

theorem Move.keepsHooks (move : Move U (.hookless n) e e') : KeepsHooks U e e' := by
  cases move with
  | note other => exact ⟨fun _ => rfl, fun _ known => known⟩
  | register grown => exact ⟨hooksOf_know grown, fun _ => grown.contains⟩
  | attach allowed => exact allowed.elim
  | call asked inside course => exact course.keepsHooks
  | enter asked plain inside miss course =>
    exact course.keepsHooks.trans ⟨fun _ => rfl, fun _ known => known⟩

theorem Moves.keepsHooks (moves : Moves U (.hookless n) e e') : KeepsHooks U e e' := by
  induction moves with
  | refl => exact ⟨fun _ => rfl, fun _ known => known⟩
  | tail first last ih => exact ih.trans last.keepsHooks

end Hookless

/-! ## What actions do to hooks -/

/-- Each type has the hook that was inserted for it, or else the one that it had, and no type is
forgotten. -/
structure Encoder.Inserts (U : Universe n) (e e' : Encoder n)
    (inserted? : TypeExpr n → HookKind → Option Hook) : Prop where
  hooks : ∀ type kind, (e'.hooksOf U type).get? kind =
    (inserted? type kind).or ((e.hooksOf U type).get? kind)
  registered : ∀ type, e.registry.contains type → e'.registry.contains type

section Actions

variable {U : Universe n} {e e₁ e' : Encoder n}

theorem Encoder.KeepsHooks.inserts (keeps : KeepsHooks U e e') :
    Inserts U e e' fun _ _ => none :=
  ⟨fun type _ => by rw [keeps.hooks type]; rfl, keeps.registered⟩

theorem Encoder.inserts_know (U : Universe n) (change : Registry.Change n) (e : Encoder n) :
    ∃ r, change.apply U e.registry = some r ∧
      Inserts U e (e.know r) (change.inserted? e.registry) := by
  obtain ⟨r, applied, registered, hooks⟩ := change.apply_hooks U e.registry
  refine ⟨r, applied, fun type kind => ?_, registered⟩
  rw [hooksOf_eq, hooksOf_eq]
  exact hooks type kind

/-- A request to attach a hook is the change of the registry, and nothing else. -/
theorem Request.run_of_change (U : Universe n) {request : Request n} {change : Registry.Change n}
    (attaches : request.change? = some change) {r : Registry n}
    (applied : change.apply U e.registry = some r) :
    ∃ registered, (request.run U).outcome e = some (.ok (.attached registered), e.know r) := by
  cases request with
  | registerHook type hook =>
    cases attaches
    obtain ⟨between, registered, rfl⟩ := Option.map_eq_some_iff.1 applied
    have first : (Build.register U type).outcome e = some (.ok (), e.know between) := by
      change (e.registry.register U type).map _ = _
      rw [registered]
      rfl
    exact ⟨between.contains type, Build.outcome_bind_ok first _⟩
  | insertHook type hook =>
    cases attaches
    cases applied
    exact ⟨e.registry.contains type, rfl⟩
  | structOf | structOfInfo | argsOf | argsOfInfo | arrayOf | fieldOf | resolveType =>
    cases attaches

/-- A request that attaches no hook keeps all hooks. -/
theorem Request.keepsHooks (U : Universe n) {request : Request n} (plain : request.change? = none)
    (e : Encoder n) :
    ∃ result e', (request.run U).outcome e = some (result, e') ∧ KeepsHooks U e e' := by
  have closed : (Scope.hookless n).Closed U :=
    ⟨fun _ _ _ => trivial, fun _ _ _ _ => trivial, fun _ _ _ _ _ _ _ _ _ => trivial⟩
  have within : request.Within (.hookless n) := by
    refine ⟨fun hook attaches => ?_, fun _ _ => trivial⟩
    cases request <;> cases attaches <;> cases plain
  obtain ⟨result, e', run, moves, -⟩ := request.serves closed within e
  exact ⟨result, e', run, moves.keepsHooks⟩

namespace Action

/-- Every action can be done, and gives each type the hook that it inserts for it. -/
theorem run_inserts (U : Universe n) (action : Action n) (e : Encoder n) :
    ∃ e', action.run U e = some e' ∧
      Inserts U e e' fun type kind => action.inserted? e type kind := by
  cases action with
  | change made =>
    obtain ⟨r, applied, inserts⟩ := inserts_know U made e
    exact ⟨e.know r, by rw [run, applied]; rfl, inserts⟩
  | request asked =>
    cases attaches : asked.change? with
    | some made =>
      obtain ⟨r, applied, inserts⟩ := inserts_know U made e
      obtain ⟨registered, answered⟩ := asked.run_of_change U attaches applied
      refine ⟨e.know r, by rw [run, answered]; rfl, ?_⟩
      simpa only [inserted?, attaches, Option.bind_some] using inserts
    | none =>
      obtain ⟨result, e', answered, keeps⟩ := asked.keepsHooks U attaches e
      refine ⟨e', by rw [run, answered]; rfl, ?_⟩
      simpa only [inserted?, attaches, Option.bind_none] using keeps.inserts

/-- So can all actions, and each type has the hook that was inserted last, or else the one that it
had. -/
theorem runAll_inserts (U : Universe n) (actions : List (Action n)) (e : Encoder n) :
    ∃ e', runAll U actions e = some e' ∧
      Inserts U e e' fun type kind => lastInserted? U type kind actions e := by
  induction actions generalizing e with
  | nil => exact ⟨e, rfl, fun _ _ => rfl, fun _ known => known⟩
  | cons action rest ih =>
    obtain ⟨e₁, first, inserts⟩ := action.run_inserts U e
    obtain ⟨e', later, inserts'⟩ := ih e₁
    refine ⟨e', by simpa [runAll, first] using later, fun type kind => ?_, fun type known =>
      inserts'.registered type (inserts.registered type known)⟩
    rw [inserts'.hooks, inserts.hooks, lastInserted?, first, Option.bind_some, Option.or_assoc]

end Action

end Actions

/-! ## What is built with the hooks -/

section Moments

variable {U : Universe n} {e e' moment : Encoder n}

/-- A moment that comes after `e` while no hook is attached: after some requests, and inside of what
they build. -/
def Encoder.Later (U : Universe n) (e moment : Encoder n) : Prop :=
  ∃ (between : Encoder n) (call inner : Call n),
    Moves U (.hookless n) e between ∧ call.Makes U between inner moment

/-- The hooks are the same at every moment of a build. -/
theorem Call.Makes.hooksOf {call inner : Call n} (makes : call.Makes U e inner moment)
    (type : TypeExpr n) : moment.hooksOf U type = e.hooksOf U type := by
  induction makes with
  | self => rfl
  | pointee makes ih | build plain miss makes ih | skip untagged makes ih
  | field content makes ih => exact ih
  | item free listed makes ih | object free struct makes ih =>
    exact ih.trans (hooksOf_of_met U rfl type)
  | walk miss struct made makes ih => exact ih.trans (hooksOf_of_registry U rfl type)
  | next content first live makes ih =>
    exact (ih.trans (hooksOf_of_met U (expose_registry U _ _ _ _ _ _ _) type)).trans
      (first.hooksOf type)

theorem Encoder.Later.hooksOf (later : Later U e moment) (type : TypeExpr n) :
    moment.hooksOf U type = e.hooksOf U type := by
  obtain ⟨between, call, inner, moves, makes⟩ := later
  exact (makes.hooksOf type).trans (moves.keepsHooks.hooks type)

/-- A registry without types, or with the standard primitives only, has the hooks that the types
bring along. -/
theorem Encoder.hooksOf_of_fresh (fresh : e.registry = .empty ∨ e.registry = .standard U)
    (type : TypeExpr n) : e.hooksOf U type = U.hooks type := by
  have brought : (Registry.empty : Registry n).hooksOf U type = U.hooks type := rfl
  rw [hooksOf_eq]
  rcases fresh with fresh | fresh
  · rw [fresh]
    rfl
  · rw [fresh]
    exact (Registry.extends_standard U).brought type

/-- **Registration never loses or resets a hook.**  Whatever is done to a fresh registry and to the
encoder around it, can be done, and then a registered type has the hook of each kind that was
inserted last for just this type and kind while the type was registered, or else the one that it
brings along; what it has under a kind is of this kind.  To register a type again, by whatever way,
changes nothing; an action changes no hook but the one that it inserts; and nothing happens when a
hook is inserted for a type that is not registered.  So the provider that was attached last, or else
brought along, decides whenever the type is next resolved, or a tagged field of it, and nothing is
cached for it. -/
theorem Encoder.hooks_are_never_lost (U : Universe n) {e : Encoder n}
    (fresh : e.registry = .empty ∨ e.registry = .standard U) (actions : List (Action n)) :
    ∃ e', Action.runAll U actions e = some e' ∧
      (∀ type kind, e'.registry.contains type → e'.registry.hook? type kind =
        (Action.lastInserted? U type kind actions e).or ((U.hooks type).get? kind)) ∧
      (∀ type kind hook, e'.registry.hook? type kind = some hook → hook.kind = kind) ∧
      (∀ type, e'.registry.contains type →
        e'.registry.register U type = some e'.registry ∧
        e'.registry.getOrRegister U type = e'.registry ∧
        ∀ hook, e'.registry.registerHook U type hook = some (e'.registry.attach type hook)) ∧
      (∀ action : Action n, ∃ e'', action.run U e' = some e'' ∧
        ∀ type kind, e'.registry.contains type → action.inserted? e' type kind = none →
          e''.registry.contains type ∧
            e''.registry.hook? type kind = e'.registry.hook? type kind) ∧
      (∀ type hook, e'.registry.contains type = false →
        e'.registry.insertHook type hook = (false, e'.registry) ∧
        (Request.run U (.insertHook type hook)).outcome e' = some (.ok (.attached false), e')) ∧
      ∀ type given, (Action.lastInserted? U type .typeProvider actions e).or
          ((U.hooks type).get? .typeProvider) = some (.typeProvider given) →
        ∀ moment, Later U e' moment → moment.cache.lookup U type = none →
          ∀ (object : TypeExpr n → Build n ObjectId) (pointed : TypeExpr n),
            pointed.withoutPointers = type →
            (∃ e'', (Build.resolve U object pointed).outcome moment = some (.ok given, e'') ∧
              e''.cache.lookup U type = some given) ∧
            ∀ path name tag, ∃ e'',
              (Build.fieldType U (Build.resolve U object) path name tag pointed).outcome moment =
                some (.ok (taggedType tag given), e'') := by
  obtain ⟨e', done, inserts⟩ := Action.runAll_inserts U actions e
  have hooks : ∀ type kind, (e'.hooksOf U type).get? kind =
      (Action.lastInserted? U type kind actions e).or ((U.hooks type).get? kind) := by
    intro type kind
    rw [inserts.hooks, hooksOf_of_fresh fresh]
  refine ⟨e', done, ?_, fun _ _ _ => Registry.kind_of_hook?, ?_, ?_, ?_, ?_⟩
  · intro type kind known
    rw [Registry.hook?_of_contains U known, ← hooks, hooksOf_eq]
    rfl
  · intro type known
    have again := Registry.register_of_contains U known
    refine ⟨again, if_pos known, fun hook => ?_⟩
    rw [Registry.registerHook, again]
    rfl
  · intro action
    obtain ⟨e'', run, inserts'⟩ := action.run_inserts U e'
    refine ⟨e'', run, fun type kind known other => ?_⟩
    have still := inserts'.registered type known
    have same := inserts'.hooks type kind
    rw [other, Option.none_or, hooksOf_eq, hooksOf_eq] at same
    rw [Registry.hook?_of_contains U known, Registry.hook?_of_contains U still]
    exact ⟨still, same⟩
  · intro type hook unknown
    have same : e'.registry.insertHook type hook = (false, e'.registry) := by
      rw [Registry.insertHook, Registry.attach_of_unregistered unknown, unknown]
    refine ⟨same, ?_⟩
    change some (Except.ok (Answer.attached (e'.registry.insertHook type hook).1),
      e'.know (e'.registry.insertHook type hook).2) = _
    rw [same]
    rfl
  · intro type given decides moment later miss object pointed below
    have provider : (moment.hooksOf U type).typeProvider = some given := by
      have kept := hooks type .typeProvider
      rw [decides, ← later.hooksOf] at kept
      rw [Hooks.typeProvider, kept]
      rfl
    have resolves := Build.outcome_resolve_of_provider object below provider miss
    refine ⟨⟨_, resolves, ?_⟩, fun path name tag => ⟨_, Build.outcome_fieldType_ok U resolves⟩⟩
    exact TypeCache.lookup_register_self U _ type given

end Moments

/-! ## A type with a history -/

namespace Sample

/-- Amounts bring a provider along and get two others, beside two labels and a weight.  They are
registered again in between, and a label comes too early for orders. -/
def history : List (Action 2) :=
  [.change (.registerHook money (.typeProvider (.scalar .id))), .change (.getOrRegister money),
   .request (.insertHook money (.custom "Label" (.text "price"))),
   .change (.insertHook money (.custom "Weight" (.number 3))),
   .request (.insertHook money (.custom "Label" (.text "amount"))),
   .request (.insertHook order (.custom "Label" (.text "order"))),
   .request (.structOf (.primitive .string) []),
   .request (.insertHook money (.typeProvider (.scalar .dateTime))), .change (.register order)]

end Sample

theorem Sample.hooks_of_amounts_are_not_lost :
    ∃ e' e'', Action.runAll ledger history (.new ledger .qualified) = some e' ∧
      e'.registry.hook? money .typeProvider = some (.typeProvider (.scalar .dateTime)) ∧
      e'.registry.hook? money (.custom "Label") = some (.custom "Label" (.text "amount")) ∧
      e'.registry.hook? money (.custom "Weight") = some (.custom "Weight" (.number 3)) ∧
      e'.registry.hook? order (.custom "Label") = none ∧
      (resolveType ledger (.pointer .box money)).outcome e' =
        some (.ok (.scalar .dateTime), e'') := by
  have fresh : (Encoder.new ledger .qualified).registry = .standard ledger := by
    simp only [Encoder.new]
  obtain ⟨e', done, hooks, -, -, -, -, decides⟩ :=
    Encoder.hooks_are_never_lost ledger (.inr fresh) history
  have last : Action.lastInserted? ledger money .typeProvider history (.new ledger .qualified) =
        some (.typeProvider (.scalar .dateTime)) ∧
      Action.lastInserted? ledger money (.custom "Label") history (.new ledger .qualified) =
        some (.custom "Label" (.text "amount")) ∧
      Action.lastInserted? ledger money (.custom "Weight") history (.new ledger .qualified) =
        some (.custom "Weight" (.number 3)) ∧
      Action.lastInserted? ledger order (.custom "Label") history (.new ledger .qualified) =
        none := by
    decide +kernel
  obtain ⟨provider, label, weight, unlabelled⟩ := last
  have after : (Action.runAll ledger history (.new ledger .qualified)).map (fun e =>
      (e.registry.contains money, e.registry.contains order, e.cache.lookup ledger money)) =
        some (true, true, none) := by
    decide +kernel
  rw [done, Option.map_some, Option.some.injEq, Prod.mk.injEq, Prod.mk.injEq] at after
  obtain ⟨registered, registered', miss⟩ := after
  obtain ⟨⟨e'', resolves, -⟩, -⟩ := decides money (.scalar .dateTime) (by rw [provider]; rfl) e'
    ⟨e', .resolve money, _, .refl, .self⟩ miss (fun type => structOfInfo ledger type [])
    (.pointer .box money) rfl
  refine ⟨e', e'', done, ?_, ?_, ?_, ?_, resolves⟩
  · rw [hooks money .typeProvider registered, provider]
    rfl
  · rw [hooks money (.custom "Label") registered, label]
    rfl
  · rw [hooks money (.custom "Weight") registered, weight]
    rfl
  · rw [hooks order (.custom "Label") registered', unlabelled]
    rfl

end RecordSchema
