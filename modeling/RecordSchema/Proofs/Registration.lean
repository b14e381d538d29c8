import Mathlib.Data.Fintype.Card
import RecordSchema.Registry.Basic

/-!
# Registration adds types and always ends

Whatever registers a type leaves the hooks of registered types alone, and gives a new type the hooks
that it brings along; `Registry.Extends` says both.  The depth-first walk of `Registry.register`
enters a declared type only while it registers it, so the number of declared types that are not
registered bounds the depth of the walk, and the bound in its definition is never exceeded
(`register_extends`).
-/

namespace RecordSchema

variable {n : Nat}

/-! ## Hooks after a registration -/

namespace Registry

section Add

variable (U : Universe n) (r : Registry n) (type other : TypeExpr n)

theorem hooks?_add :
    (r.add U type).hooks? other = if type = other then some (U.hooks type) else r.hooks? other := by
  simp [add, hooks?, Dictionary.get?_insert]

theorem hooks?_getOrRegister :
    (r.getOrRegister U type).hooks? other =
      if type = other then some ((r.hooks? type).getD (U.hooks type)) else r.hooks? other := by
  unfold getOrRegister contains Dictionary.contains
  cases h : r.table.get? type with
  | none =>
    have h' : r.hooks? type = none := h
    simp [hooks?_add, h']
  | some hooks =>
    have h' : r.hooks? type = some hooks := h
    by_cases same : type = other
    · subst same
      simp [h']
    · simp [same]

theorem contains_eq_isSome : r.contains type = (r.hooks? type).isSome := rfl

theorem contains_getOrRegister (h : r.contains other) :
    (r.getOrRegister U type).contains other := by
  rw [contains_eq_isSome] at h ⊢
  rw [hooks?_getOrRegister]
  split <;> simp_all

end Add

theorem hooks?_attach (r : Registry n) (type other : TypeExpr n) (hook : Hook) :
    (r.attach type hook).hooks? other =
      if type = other then (r.hooks? other).map fun hooks => hooks.attach hook
      else r.hooks? other := by
  unfold hooks? attach
  exact Dictionary.get?_modify _ _ _ _

/-- `r'` has the types of `r` with their hooks, and other types with the hooks they bring along. -/
structure Extends (U : Universe n) (r r' : Registry n) : Prop where
  kept : ∀ type hooks, r.hooks? type = some hooks → r'.hooks? type = some hooks
  brought : ∀ type, (r'.hooks? type).getD (U.hooks type) = (r.hooks? type).getD (U.hooks type)

namespace Extends

variable {U : Universe n} {r r₁ r' : Registry n}

theorem refl (U : Universe n) (r : Registry n) : Extends U r r := ⟨fun _ _ h => h, fun _ => rfl⟩

theorem trans (first : Extends U r r₁) (second : Extends U r₁ r') : Extends U r r' where
  kept type hooks h := second.kept type hooks (first.kept type hooks h)
  brought type := (second.brought type).trans (first.brought type)

theorem contains (h : Extends U r r') {type : TypeExpr n} (known : r.contains type) :
    r'.contains type := by
  rw [contains_eq_isSome, Option.isSome_iff_exists] at known
  obtain ⟨hooks, found⟩ := known
  rw [contains_eq_isSome, h.kept type hooks found]
  rfl

end Extends

theorem extends_add (U : Universe n) {r : Registry n} {type : TypeExpr n}
    (new : r.contains type = false) : Extends U r (r.add U type) := by
  have absent : r.hooks? type = none := by
    rw [contains_eq_isSome] at new
    simpa using new
  constructor
  · intro other hooks found
    have different : type ≠ other := by
      rintro rfl
      rw [absent] at found
      cases found
    rw [hooks?_add, if_neg different, found]
  · intro other
    rw [hooks?_add]
    split
    · next same => subst same; simp [absent]
    · rfl

theorem extends_getOrRegister (U : Universe n) (r : Registry n) (type : TypeExpr n) :
    Extends U r (r.getOrRegister U type) := by
  unfold getOrRegister
  split
  · exact Extends.refl U r
  · next new => exact extends_add U (by simpa using new)

/-- The standard registry has no hooks but those that its types bring along. -/
theorem extends_standard (U : Universe n) : Extends U empty (standard U) := by
  have grown : ∀ (kinds : List Primitive) (r : Registry n),
      Extends U r (kinds.foldl (fun r kind => r.getOrRegister U (.primitive kind)) r) := by
    intro kinds
    induction kinds with
    | nil => exact fun r => Extends.refl U r
    | cons kind rest ih => exact fun r => (extends_getOrRegister U r _).trans (ih _)
  exact grown standardPrimitives empty

theorem contains_add_iff (U : Universe n) (r : Registry n) {type other : TypeExpr n} :
    (r.add U type).contains other ↔ type = other ∨ r.contains other := by
  rw [contains_eq_isSome, contains_eq_isSome, hooks?_add]
  split <;> simp_all

theorem contains_add (U : Universe n) (r : Registry n) (type : TypeExpr n) :
    (r.add U type).contains type :=
  (contains_add_iff U r).2 (.inl rfl)

/-! ## Types to register -/

/-- How many declared types are not registered. -/
def unregistered (r : Registry n) : Nat :=
  (Finset.univ.filter fun index : Fin n => r.contains (.declared index) = false).card

theorem unregistered_le (r : Registry n) : r.unregistered ≤ n := by
  unfold unregistered
  exact (Finset.card_le_univ _).trans_eq (Fintype.card_fin n)

theorem Extends.unregistered_le {U : Universe n} {r r' : Registry n} (h : Extends U r r') :
    r'.unregistered ≤ r.unregistered := by
  apply Finset.card_le_card
  intro index absent
  simp only [Finset.mem_filter, Finset.mem_univ, true_and] at absent ⊢
  by_contra known
  rw [h.contains (by simpa using known)] at absent
  cases absent

/-- Registering a declared type leaves fewer of them. -/
theorem unregistered_add_lt (U : Universe n) {r : Registry n} {index : Fin n}
    (new : r.contains (.declared index) = false) :
    (r.add U (.declared index)).unregistered < r.unregistered := by
  apply Finset.card_lt_card
  rw [Finset.ssubset_iff_of_subset]
  · refine ⟨index, by simpa using new, ?_⟩
    simp [contains_add]
  · intro other absent
    simp only [Finset.mem_filter, Finset.mem_univ, true_and] at absent ⊢
    by_contra known
    rw [(extends_add U new).contains (by simpa using known)] at absent
    cases absent

/-! ## What a walk adds -/

/-- A chain of dependencies from `type` through types that are not registered, both ends
included. -/
inductive OpenPath (U : Universe n) (r : Registry n) (type : TypeExpr n) : TypeExpr n → Prop where
  | here : r.contains type = false → OpenPath U r type type
  | step {middle other : TypeExpr n} : OpenPath U r type middle → other ∈ U.dependencies middle →
      r.contains other = false → OpenPath U r type other

namespace OpenPath

variable {U : Universe n} {r r' : Registry n} {type other : TypeExpr n}

theorem unregistered (path : OpenPath U r type other) : r.contains other = false := by
  cases path with
  | here new => exact new
  | step _ _ new => exact new

/-- A path that is open after more types have been registered was open before. -/
theorem anti (grown : Extends U r r') (path : OpenPath U r' type other) :
    OpenPath U r type other := by
  have earlier : ∀ {type : TypeExpr n}, r'.contains type = false → r.contains type = false := by
    intro type new
    by_contra known
    rw [grown.contains (by simpa using known)] at new
    cases new
  induction path with
  | here new => exact .here (earlier new)
  | step _ depends new ih => exact .step ih depends (earlier new)

/-- A path from a dependency is a path from the type that has it. -/
theorem cons {first : TypeExpr n} (new : r.contains first = false)
    (depends : type ∈ U.dependencies first) (path : OpenPath U r type other) :
    OpenPath U r first other := by
  induction path with
  | here free => exact .step (.here new) depends free
  | step _ depends free ih => exact .step ih depends free

end OpenPath

/-- `r'` is what a walk from some types makes of `r`. -/
structure Walked (U : Universe n) (starts : List (TypeExpr n)) (r r' : Registry n) : Prop where
  grown : Extends U r r'
  started : ∀ type ∈ starts, r'.contains type
  reached : ∀ other, r'.contains other → r.contains other ∨ ∃ type ∈ starts, OpenPath U r type other
  closed : ∀ type, r'.contains type → r.contains type = false →
    ∀ other ∈ U.dependencies type, r'.contains other

namespace Walked

variable {U : Universe n} {starts rest : List (TypeExpr n)} {r r₁ r' : Registry n}
  {type other : TypeExpr n}

theorem nil (U : Universe n) (r : Registry n) : Walked U [] r r where
  grown := Extends.refl U r
  started := by simp
  reached _ known := .inl known
  closed _ known new := by simp [known] at new

/-- Nothing happens at a registered type. -/
theorem stay (known : r.contains type) : Walked U [type] r r :=
  { nil U r with
    started := by simpa using known
    reached := fun _ known => .inl known }

theorem append (first : Walked U starts r r₁) (second : Walked U rest r₁ r') :
    Walked U (starts ++ rest) r r' where
  grown := first.grown.trans second.grown
  started type mem := by
    rcases List.mem_append.1 mem with mem | mem
    · exact second.grown.contains (first.started type mem)
    · exact second.started type mem
  reached other known := by
    rcases second.reached other known with known | ⟨type, mem, path⟩
    · rcases first.reached other known with known | ⟨type, mem, path⟩
      · exact .inl known
      · exact .inr ⟨type, by simp [mem], path⟩
    · exact .inr ⟨type, by simp [mem], path.anti first.grown⟩
  closed type known new other depends := by
    cases h : r₁.contains type with
    | true => exact second.grown.contains (first.closed type h new other depends)
    | false => exact second.closed type known h other depends

/-- The walk of a new type adds the type and walks its dependencies. -/
theorem enter (new : r.contains type = false)
    (inside : Walked U (U.dependencies type) (r.add U type) r') : Walked U [type] r r' where
  grown := (extends_add U new).trans inside.grown
  started := by simpa using inside.grown.contains (contains_add U r type)
  reached other known := by
    rcases inside.reached other known with known | ⟨part, depends, path⟩
    · rcases (contains_add_iff U r).1 known with rfl | known
      · exact .inr ⟨type, by simp, .here new⟩
      · exact .inl known
    · exact .inr ⟨type, by simp, .cons new depends (path.anti (extends_add U new))⟩
  closed other known absent := by
    by_cases same : type = other
    · subst same
      exact inside.started
    · refine inside.closed other known ?_
      rw [← Bool.not_eq_true, contains_add_iff]
      simp [same, absent]

/-- A walk adds exactly the types on the open paths from where it starts. -/
theorem contains_iff (h : Walked U starts r r') :
    r'.contains other ↔ r.contains other ∨ ∃ type ∈ starts, OpenPath U r type other := by
  refine ⟨h.reached other, ?_⟩
  rintro (known | ⟨type, mem, path⟩)
  · exact h.grown.contains known
  · induction path with
    | here => exact h.started type mem
    | step before depends _ ih => exact h.closed _ ih before.unregistered _ depends

end Walked

/-! ## Every walk ends -/

section Visit

variable {U : Universe n} {depth : Nat} {fields : Fin n → Registry n → Option (Registry n)}

theorem visit_walks
    (enters : ∀ index r, r.unregistered < depth →
      ∃ r', fields index r = some r' ∧ Walked U (U.taggedTypes index) r r')
    (type : TypeExpr n) (r : Registry n) (bound : r.unregistered ≤ depth) :
    ∃ r', visit U fields type r = some r' ∧ Walked U [type] r r' := by
  have smaller : ∀ {type : TypeExpr n} {r : Registry n}, r.contains type = false →
      r.unregistered ≤ depth → (r.add U type).unregistered ≤ depth := fun new le =>
    (extends_add U new).unregistered_le.trans le
  induction type generalizing r with
  | native type =>
    unfold visit
    cases h : r.contains (.native type) with
    | true => exact ⟨r, rfl, .stay h⟩
    | false => exact ⟨_, rfl, .enter h (.nil U _)⟩
  | declared index =>
    unfold visit
    cases h : r.contains (.declared index) with
    | true => exact ⟨r, rfl, .stay h⟩
    | false =>
      obtain ⟨r', entered, inside⟩ := enters index (r.add U (.declared index))
        (lt_of_lt_of_le (unregistered_add_lt U h) bound)
      exact ⟨r', entered, .enter h inside⟩
  | list shape item ih =>
    unfold visit
    cases h : r.contains (.list shape item) with
    | true => exact ⟨r, rfl, .stay h⟩
    | false =>
      obtain ⟨r', visited, inside⟩ := ih _ (smaller h bound)
      exact ⟨r', visited, .enter h inside⟩
  | array item length ih =>
    unfold visit
    cases h : r.contains (.array item length) with
    | true => exact ⟨r, rfl, .stay h⟩
    | false =>
      obtain ⟨r', visited, inside⟩ := ih _ (smaller h bound)
      exact ⟨r', visited, .enter h inside⟩
  | pointer shape pointee ih =>
    unfold visit
    cases h : r.contains (.pointer shape pointee) with
    | true => exact ⟨r, rfl, .stay h⟩
    | false =>
      obtain ⟨r', visited, inside⟩ := ih _ (smaller h bound)
      exact ⟨r', visited, .enter h inside⟩
  | map shape key value ihKey ihValue =>
    unfold visit
    cases h : r.contains (.map shape key value) with
    | true => exact ⟨r, rfl, .stay h⟩
    | false =>
      obtain ⟨r₁, keyed, inside⟩ := ihKey _ (smaller h bound)
      have bound₁ := inside.grown.unregistered_le.trans (smaller h bound)
      obtain ⟨r', valued, inside'⟩ := ihValue r₁ bound₁
      exact ⟨r', by simp [keyed, valued], .enter h (inside.append inside')⟩

end Visit

/-- The tagged fields of a declaration are registered within the bound. -/
theorem registerFields_walks (U : Universe n) (depth : Nat) (index : Fin n) (r : Registry n)
    (bound : r.unregistered < depth) :
    ∃ r', registerFields U depth index r = some r' ∧ Walked U (U.taggedTypes index) r r' := by
  induction depth generalizing index r with
  | zero => omega
  | succ depth ih =>
    unfold registerFields
    have walk : ∀ (types : List (TypeExpr n)) (r : Registry n), r.unregistered ≤ depth →
        ∃ r', types.foldlM (fun r type => visit U (registerFields U depth) type r) r = some r' ∧
          Walked U types r r' := by
      intro types
      induction types with
      | nil => exact fun r _ => ⟨r, rfl, .nil U r⟩
      | cons type rest ihRest =>
        intro r bound
        obtain ⟨r₁, visited, first⟩ := visit_walks ih type r bound
        obtain ⟨r', done, second⟩ := ihRest r₁ (first.grown.unregistered_le.trans bound)
        exact ⟨r', by simp [visited, done], first.append second⟩
    exact walk (U.taggedTypes index) r (Nat.lt_succ_iff.1 bound)

/-- Registration is a walk from one type, and always ends. -/
theorem register_walks (U : Universe n) (r : Registry n) (type : TypeExpr n) :
    ∃ r', r.register U type = some r' ∧ Walked U [type] r r' :=
  visit_walks (registerFields_walks U n) type r r.unregistered_le

/-- Registration adds the type and takes nothing away. -/
theorem register_extends (U : Universe n) (r : Registry n) (type : TypeExpr n) :
    ∃ r', r.register U type = some r' ∧ Extends U r r' ∧ r'.contains type := by
  obtain ⟨r', registered, walked⟩ := register_walks U r type
  exact ⟨r', registered, walked.grown, walked.started type (by simp)⟩

/-- A registered type is not registered again. -/
theorem register_of_contains (U : Universe n) {r : Registry n} {type : TypeExpr n}
    (known : r.contains type) : r.register U type = some r := by
  unfold register
  cases type <;> simp [visit, known]

end Registry

end RecordSchema
