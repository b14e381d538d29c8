import RecordSchema.Proofs.Registration

/-!
# Registration follows the open paths

`Registry.register` registers a type and exactly those types that an open path joins to it, in every
registry that registrations of both kinds and attached hooks can lead to.  Such a registry need not
be closed under dependencies: `Registry.getOrRegister` plants a type without them, and the walk
stops there.  Without planted types it is closed (`Closed`), and then an open path ends only where
the dependencies do.
-/

namespace RecordSchema

namespace Registry

variable {n : Nat} {U : Universe n} {r r' : Registry n}

/-- A change of a registry. -/
inductive Change (n : Nat) where
  /-- Register a type with its dependencies. -/
  | register (type : TypeExpr n)
  /-- Register a type alone. -/
  | getOrRegister (type : TypeExpr n)
  /-- Register a type with its dependencies and attach a hook to it. -/
  | registerHook (type : TypeExpr n) (hook : Hook)
  /-- Attach a hook to a type if it is registered. -/
  | insertHook (type : TypeExpr n) (hook : Hook)
  deriving DecidableEq, Repr

namespace Change

/-- The registry that a change makes of another. -/
def apply (U : Universe n) (r : Registry n) : Change n → Option (Registry n)
  | .register type => r.register U type
  | .getOrRegister type => some (r.getOrRegister U type)
  | .registerHook type hook => r.registerHook U type hook
  | .insertHook type hook => some (r.insertHook type hook).2

/-- The registry that changes make, one after the other. -/
def applyAll (U : Universe n) (changes : List (Change n)) (r : Registry n) :
    Option (Registry n) :=
  changes.foldlM (fun r change => change.apply U r) r

/-- Whether a change may leave out the dependencies of a type that it registers. -/
def plants : Change n → Bool
  | .getOrRegister _ => true
  | _ => false

end Change

/-! ## Closed registries -/

/-- Whatever a registered type depends on is registered. -/
def Closed (U : Universe n) (r : Registry n) : Prop :=
  ∀ type, r.contains type → ∀ other ∈ U.dependencies type, r.contains other

theorem closed_empty (U : Universe n) : Closed U empty := fun _ known => by cases known

theorem contains_attach (r : Registry n) (type other : TypeExpr n) (hook : Hook) :
    (r.attach type hook).contains other = r.contains other := by
  rw [contains_eq_isSome, contains_eq_isSome, hooks?_attach]
  split <;> simp

theorem Closed.attach (closed : Closed U r) (type : TypeExpr n) (hook : Hook) :
    Closed U (r.attach type hook) := by
  intro holder known other depends
  rw [contains_attach] at known ⊢
  exact closed holder known other depends

/-- A walk through a closed registry leaves a closed one. -/
theorem Walked.closed_of_closed {starts : List (TypeExpr n)} (walked : Walked U starts r r')
    (closed : Closed U r) : Closed U r' := by
  intro type known other depends
  cases h : r.contains type with
  | true => exact walked.grown.contains (closed type h other depends)
  | false => exact walked.closed type known h other depends

/-- The primitives depend on nothing, so they may be registered alone. -/
theorem closed_standard (U : Universe n) : Closed U (standard U) := by
  have grown : ∀ (kinds : List Primitive) (r : Registry n), Closed U r →
      Closed U (kinds.foldl (fun r kind => r.getOrRegister U (.primitive kind)) r) := by
    intro kinds
    induction kinds with
    | nil => exact fun _ closed => closed
    | cons kind rest ih =>
      intro r closed
      refine ih (r.getOrRegister U (.primitive kind)) ?_
      unfold getOrRegister
      split
      · exact closed
      · next new =>
        have walked : Walked U [.primitive kind] r (r.add U (.primitive kind)) :=
          .enter (by simpa using new) (.nil U _)
        exact walked.closed_of_closed closed
  exact grown standardPrimitives empty (closed_empty U)

/-! ## Changes -/

/-- Every change can be made, and closed registries stay closed if it plants nothing. -/
theorem Change.apply_closed (U : Universe n) (change : Change n) (r : Registry n) :
    ∃ r', change.apply U r = some r' ∧ (change.plants = false → Closed U r → Closed U r') := by
  cases change with
  | register type =>
    obtain ⟨r', registered, walked⟩ := register_walks U r type
    exact ⟨r', registered, fun _ => walked.closed_of_closed⟩
  | getOrRegister type => exact ⟨r.getOrRegister U type, rfl, by simp [plants]⟩
  | registerHook type hook =>
    obtain ⟨r', registered, walked⟩ := register_walks U r type
    refine ⟨r'.attach type hook, by simp [apply, Registry.registerHook, registered], ?_⟩
    exact fun _ closed => (walked.closed_of_closed closed).attach type hook
  | insertHook type hook => exact ⟨r.attach type hook, rfl, fun _ closed => closed.attach type hook⟩

theorem Change.applyAll_closed (U : Universe n) (changes : List (Change n)) (r : Registry n) :
    ∃ r', applyAll U changes r = some r' ∧
      ((∀ change ∈ changes, change.plants = false) → Closed U r → Closed U r') := by
  induction changes generalizing r with
  | nil => exact ⟨r, rfl, fun _ closed => closed⟩
  | cons change rest ih =>
    obtain ⟨r₁, applied, first⟩ := change.apply_closed U r
    obtain ⟨r', done, second⟩ := ih r₁
    refine ⟨r', by simpa [applyAll, applied] using done, fun unplanted closed => ?_⟩
    rw [List.forall_mem_cons] at unplanted
    exact second unplanted.2 (first unplanted.1 closed)

/-- **Registration visits exactly the unregistered part of the dependency graph.**  Whatever changes
have been made before, the registration of a type ends, and the types that it adds are those that
are joined to it by dependencies through types none of which was registered.  The hooks of the
others stay, and the new types have those they bring along.  If no change has planted a type, then
the registry is closed before and after. -/
theorem register_adds_open_paths (U : Universe n) {start : Registry n}
    (fresh : start = .empty ∨ start = .standard U) (changes : List (Change n))
    (type : TypeExpr n) :
    ∃ r r', Change.applyAll U changes start = some r ∧ r.register U type = some r' ∧
      (∀ other, r'.contains other ↔ r.contains other ∨ OpenPath U r type other) ∧
      (∀ other, r.contains other → r'.hooks? other = r.hooks? other) ∧
      (∀ other, OpenPath U r type other → r'.hooks? other = some (U.hooks other)) ∧
      ((∀ change ∈ changes, change.plants = false) → Closed U r ∧ Closed U r') := by
  obtain ⟨r, applied, keeps⟩ := Change.applyAll_closed U changes start
  obtain ⟨r', registered, walked⟩ := register_walks U r type
  have adds : ∀ other, r'.contains other ↔ r.contains other ∨ OpenPath U r type other := by
    intro other
    refine walked.contains_iff.trans ?_
    simp
  refine ⟨r, r', applied, registered, adds, ?_, ?_, ?_⟩
  · intro other known
    rw [contains_eq_isSome, Option.isSome_iff_exists] at known
    obtain ⟨hooks, found⟩ := known
    rw [found, walked.grown.kept other hooks found]
  · intro other path
    have known := (adds other).2 (.inr path)
    have absent : r.hooks? other = none := by
      simpa [contains_eq_isSome] using path.unregistered
    rw [contains_eq_isSome] at known
    have brought := walked.grown.brought other
    cases found : r'.hooks? other with
    | none => simp [found] at known
    | some hooks => simpa [found, absent] using brought
  · intro unplanted
    have closed : Closed U start := by
      rcases fresh with fresh | fresh
      · exact fresh ▸ closed_empty U
      · exact fresh ▸ closed_standard U
    exact ⟨keeps unplanted closed, walked.closed_of_closed (keeps unplanted closed)⟩

end Registry

/-! ## A ring with a planted type -/

open Registry

namespace Sample

/-- Three structs, each with a list of the next. -/
def ring : Universe 3 where
  declaration index :=
    { path := "app::Ring", name := "Ring"
      body := .struct [⟨"next", .tagged "next" (.list .vec (.declared (index + 1)))⟩] }

end Sample

/-- The walk from the first struct stops at the second, which is there without its list, and does
not come to the third. -/
theorem Sample.ring_is_cut :
    ∃ r r', Change.applyAll ring [.getOrRegister (.declared 1)] .empty = some r ∧
      r.register ring (.declared 0) = some r' ∧
      OpenPath ring r (.declared 0) (.list .vec (.declared 1)) ∧
      ¬ OpenPath ring r (.declared 0) (.declared 2) := by
  obtain ⟨r, r', planted, registered, reached, -⟩ := register_adds_open_paths ring (.inl rfl)
    [.getOrRegister (.declared 1)] (.declared 0)
  have run : (((Change.applyAll ring [.getOrRegister (.declared 1)] .empty).bind fun r =>
      (r.register ring (.declared 0)).map fun r' =>
        [r.contains (.list .vec (.declared 1)), r'.contains (.list .vec (.declared 1)),
          r'.contains (.declared 2)])) = some [false, true, false] := by
    decide +kernel
  simp only [planted, registered, Option.bind_some, Option.map_some, Option.some.injEq,
    List.cons.injEq] at run
  obtain ⟨absent, listed, far, -⟩ := run
  refine ⟨r, r', planted, registered, ?_, fun path => ?_⟩
  · exact ((reached _).1 listed).resolve_left (by simp [absent])
  · rw [(reached _).2 (.inr path)] at far
    cases far

end RecordSchema
