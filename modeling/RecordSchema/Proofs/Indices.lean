import Mathlib.Logic.Relation
import RecordSchema.Proofs.OpenPaths

/-!
# The indices of a registry agree with its table

Beside the table of types a registry keeps three indices: the type of every path, the type of every
name that is borne once, and the names that are borne more often.  They are written one type at a
time and never computed again.  `Registry.Indexed` says what they have to say of the table: which
types it holds, in which order they came, and which of them bear a name or lie under a path.

Whatever happens to a registry is a run of two kinds of steps (`Registry.Step`): a type that it does
not hold is added, or a hook is attached to a type, be it through `registerHook`, `insertHook` or
the metadata of a registered type itself.  The invariant holds of the empty registry and each step
keeps it; so a name that has become ambiguous stays so, however often the name comes again.
-/

namespace RecordSchema

namespace Registry

variable {n : Nat} {U : Universe n} {r r' : Registry n} {type other : TypeExpr n}

/-! ## Steps -/

/-- The smallest changes of a registry. -/
inductive Step (U : Universe n) : Registry n → Registry n → Prop where
  | add {r : Registry n} {type : TypeExpr n} : r.contains type = false → Step U r (r.add U type)
  | attach (r : Registry n) (type : TypeExpr n) (hook : Hook) : Step U r (r.attach type hook)

/-- Any number of steps. -/
abbrev Steps (U : Universe n) : Registry n → Registry n → Prop := Relation.ReflTransGen (Step U)

theorem getOrRegister_steps (U : Universe n) (r : Registry n) (type : TypeExpr n) :
    Steps U r (r.getOrRegister U type) := by
  unfold getOrRegister
  split
  · exact .refl
  · next new => exact .single (.add (by simpa using new))

theorem standard_steps (U : Universe n) : Steps U empty (standard U) := by
  have grown : ∀ (kinds : List Primitive) (r : Registry n),
      Steps U r (kinds.foldl (fun r kind => r.getOrRegister U (.primitive kind)) r) := by
    intro kinds
    induction kinds with
    | nil => exact fun r => .refl
    | cons kind rest ih => exact fun r => (getOrRegister_steps U r _).trans (ih _)
  exact grown standardPrimitives empty

/-- A walk that enters declared types by steps is made of steps. -/
theorem visit_steps {fields : Fin n → Registry n → Option (Registry n)}
    (enters : ∀ index r r', fields index r = some r' → Steps U r r')
    (visited : visit U fields type r = some r') : Steps U r r' := by
  -- A registered type is passed by; a new one is added before the walk goes on below it.
  have entering : ∀ {type : TypeExpr n} {r r' : Registry n} {inner : Option (Registry n)},
      (inner = some r' → Steps U (r.add U type) r') →
      (if r.contains type then some r else inner) = some r' → Steps U r r' := by
    intro type r r' inner below done
    split at done
    · cases done
      exact .refl
    · next new => exact .head (.add (by simpa using new)) (below done)
  induction type generalizing r r' with
  | native type => exact entering (fun done => by cases done; exact .refl) visited
  | declared index => exact entering (enters index _ _) visited
  | list shape item ih => exact entering ih visited
  | array item length ih => exact entering ih visited
  | pointer shape pointee ih => exact entering ih visited
  | map shape key value ihKey ihValue =>
    refine entering (fun done => ?_) visited
    obtain ⟨r₁, keyed, valued⟩ := Option.bind_eq_some_iff.1 done
    exact (ihKey keyed).trans (ihValue valued)

theorem registerFields_steps (U : Universe n) (depth : Nat) (index : Fin n) (r r' : Registry n)
    (done : registerFields U depth index r = some r') : Steps U r r' := by
  induction depth generalizing index r r' with
  | zero => cases done
  | succ depth ih =>
    have walk : ∀ (types : List (TypeExpr n)) (r : Registry n),
        types.foldlM (fun r type => visit U (registerFields U depth) type r) r = some r' →
          Steps U r r' := by
      intro types
      induction types with
      | nil =>
        intro r done
        cases done
        exact .refl
      | cons type rest ihRest =>
        intro r done
        rw [List.foldlM_cons] at done
        obtain ⟨r₁, visited, done⟩ := Option.bind_eq_some_iff.1 done
        exact (visit_steps ih visited).trans (ihRest r₁ done)
    exact walk (U.taggedTypes index) r done

theorem register_steps (registered : r.register U type = some r') : Steps U r r' :=
  visit_steps (registerFields_steps U n) registered

/-- Every change is made of steps. -/
theorem Change.apply_steps {change : Change n} (applied : change.apply U r = some r') :
    Steps U r r' := by
  cases change with
  | register type => exact register_steps applied
  | getOrRegister type =>
    cases applied
    exact getOrRegister_steps U r type
  | registerHook type hook =>
    obtain ⟨r₁, registered, rfl⟩ := Option.map_eq_some_iff.1 applied
    exact (register_steps registered).tail (.attach r₁ type hook)
  | insertHook type hook =>
    cases applied
    exact .single (.attach r type hook)

theorem Change.applyAll_steps {changes : List (Change n)}
    (applied : applyAll U changes r = some r') : Steps U r r' := by
  induction changes generalizing r with
  | nil =>
    cases applied
    exact .refl
  | cons change rest ih =>
    rw [applyAll, List.foldlM_cons] at applied
    obtain ⟨r₁, first, applied⟩ := Option.bind_eq_some_iff.1 applied
    exact (apply_steps first).trans (ih applied)

/-! ## The table after a step -/

theorem mem_types_iff (r : Registry n) (type : TypeExpr n) : type ∈ r.types ↔ r.contains type :=
  Dictionary.mem_keys_iff r.table type

/-- A new type comes last. -/
theorem types_add (new : r.contains type = false) : (r.add U type).types = r.types ++ [type] := by
  have absent : r.table.contains type = false := new
  simp [types, add, Dictionary.keys_insert, absent]

@[simp] theorem types_attach (r : Registry n) (type : TypeExpr n) (hook : Hook) :
    (r.attach type hook).types = r.types :=
  Dictionary.keys_modify _ _ _

/-- The types keep their places; those that are added come after them. -/
theorem Steps.types_grow (steps : Steps U r r') : r.types <+: r'.types := by
  induction steps with
  | refl => exact List.prefix_rfl
  | tail _ step ih =>
    cases step with
    | add new =>
      rw [types_add new]
      exact ih.trans (List.prefix_append _ _)
    | attach =>
      rw [types_attach]
      exact ih

/-! ## What a name and a path stand for -/

/-- The registered types that bear a name, in the order of registration. -/
def typesNamed (U : Universe n) (r : Registry n) (name : String) : List (TypeExpr n) :=
  r.types.filter fun type => U.name type = name

/-- The registered types of a path, in the order of registration. -/
def typesAt (U : Universe n) (r : Registry n) (path : String) : List (TypeExpr n) :=
  r.types.filter fun type => U.path type = path

theorem typesNamed_add (new : r.contains type = false) (name : String) :
    (r.add U type).typesNamed U name =
      if U.name type = name then r.typesNamed U name ++ [type] else r.typesNamed U name := by
  simp only [typesNamed, types_add new, List.filter_append]
  split <;> simp [*]

theorem typesAt_add (new : r.contains type = false) (path : String) :
    (r.add U type).typesAt U path =
      if U.path type = path then r.typesAt U path ++ [type] else r.typesAt U path := by
  simp only [typesAt, types_add new, List.filter_append]
  split <;> simp [*]

/-! ## The indices after a step -/

theorem ofName?_add (U : Universe n) (r : Registry n) (type : TypeExpr n) (name : String) :
    (r.add U type).ofName? name =
      if U.name type = name ∧ r.isAmbiguous name = false then
        if (r.ofName? name).isSome then none else some type
      else r.ofName? name := by
  by_cases own : U.name type = name
  · subst own
    simp only [ofName?, add, addPath, addName, Dictionary.contains]
    cases r.isAmbiguous (U.name type) with
    | true => simp
    | false =>
      by_cases found : (r.names.get? (U.name type)).isSome = true <;>
        simp [found, Dictionary.get?_erase]
  · simp only [ofName?, add, addPath, addName, own, false_and, if_false]
    split
    · rfl
    · split <;> simp [own, Dictionary.get?_erase, Dictionary.get?_insert]

theorem isAmbiguous_add (U : Universe n) (r : Registry n) (type : TypeExpr n) (name : String) :
    (r.add U type).isAmbiguous name ↔
      r.isAmbiguous name ∨ U.name type = name ∧ (r.ofName? name).isSome := by
  have unfolded : (r.add U type).isAmbiguous name =
      (r.addName (U.name type) type).isAmbiguous name :=
    rfl
  rw [unfolded, addName, Dictionary.contains]
  split
  · next shared =>
    refine ⟨.inl, ?_⟩
    rintro (shared | ⟨rfl, -⟩) <;> assumption
  · split
    · next found =>
      simp only [isAmbiguous, List.contains_cons, Bool.or_eq_true, beq_iff_eq]
      constructor
      · rintro (rfl | shared)
        · exact .inr ⟨rfl, found⟩
        · exact .inl shared
      · rintro (shared | ⟨rfl, -⟩)
        · exact .inr shared
        · exact .inl rfl
    · next absent =>
      refine ⟨.inl, ?_⟩
      rintro (shared | ⟨rfl, found⟩)
      · exact shared
      · exact absurd found absent

theorem ofPath?_add (U : Universe n) (r : Registry n) (type : TypeExpr n) (path : String) :
    (r.add U type).ofPath? path = if U.path type = path then some type else r.ofPath? path := by
  have same : ∀ name, (r.addName name type).paths = r.paths := by
    intro name
    unfold addName
    repeat' split
    all_goals rfl
  simp only [ofPath?, add, addPath, same]
  exact Dictionary.get?_insert _ _ _ _

/-! ## The invariant -/

/-- What the indices say of the table. -/
structure Indexed (U : Universe n) (r : Registry n) : Prop where
  /-- Every registered type has one place. -/
  distinct : r.types.Nodup
  /-- A name finds the only type that bears it. -/
  named : ∀ name type, r.ofName? name = some type ↔ r.typesNamed U name = [type]
  /-- A name is ambiguous if several types bear it. -/
  shared : ∀ name, r.isAmbiguous name ↔ 2 ≤ (r.typesNamed U name).length
  /-- A path finds the type that came last. -/
  located : ∀ path, r.ofPath? path = (r.typesAt U path).getLast?

theorem indexed_empty (U : Universe n) : Indexed U empty where
  distinct := List.nodup_nil
  named name type := by
    constructor
    · intro found
      cases found
    · intro only
      cases only
  shared name := by
    constructor
    · intro shared
      cases shared
    · intro many
      cases many
  located path := rfl

namespace Indexed

/-- What a name finds, by the number of the types that bear it. -/
theorem isSome_ofName? (indexed : Indexed U r) (name : String) :
    (r.ofName? name).isSome ↔ (r.typesNamed U name).length = 1 := by
  rw [List.length_eq_one_iff, Option.isSome_iff_exists]
  exact exists_congr fun type => indexed.named name type

/-- The new type comes last in the table and under its path.  Its name finds it if it is the first
one to bear it, and finds nothing from the second on. -/
theorem add (indexed : Indexed U r) (new : r.contains type = false) :
    Indexed U (r.add U type) where
  distinct := by
    have absent : type ∉ r.types := by simp [mem_types_iff, new]
    rw [types_add new, ← List.concat_eq_append]
    exact indexed.distinct.concat absent
  named name other := by
    rw [typesNamed_add new, ofName?_add]
    by_cases own : U.name type = name
    · have shared := indexed.shared name
      have borne := indexed.isSome_ofName? name
      have named := indexed.named name other
      generalize r.typesNamed U name = types at shared borne named ⊢
      rcases types with _ | ⟨first, _ | ⟨second, rest⟩⟩
      · simp_all
      · simp_all
      · simp_all
    · simp [own, indexed.named name other]
  shared name := by
    rw [typesNamed_add new, isAmbiguous_add, indexed.shared name, indexed.isSome_ofName? name]
    split
    · next own => simp [own]; omega
    · next other => simp [other]
  located path := by
    rw [typesAt_add new, ofPath?_add, indexed.located path]
    split <;> simp

/-- A hook changes none of the indices. -/
theorem attach (indexed : Indexed U r) (type : TypeExpr n) (hook : Hook) :
    Indexed U (r.attach type hook) where
  distinct := by
    rw [types_attach]
    exact indexed.distinct
  named name other := by
    rw [typesNamed, types_attach]
    exact indexed.named name other
  shared name := by
    rw [typesNamed, types_attach]
    exact indexed.shared name
  located path := by
    rw [typesAt, types_attach]
    exact indexed.located path

end Indexed

theorem Steps.indexed (steps : Steps U r r') (indexed : Indexed U r) : Indexed U r' := by
  induction steps with
  | refl => exact indexed
  | tail _ step ih =>
    cases step with
    | add new => exact ih.add new
    | attach => exact ih.attach _ _

/-- The indices agree with the table after all changes of an empty or a standard registry. -/
theorem Change.applyAll_indexed {start : Registry n} {changes : List (Change n)}
    (fresh : start = .empty ∨ start = .standard U) (applied : applyAll U changes start = some r) :
    Indexed U r := by
  have initial : Indexed U start := by
    rcases fresh with fresh | fresh
    · exact fresh ▸ indexed_empty U
    · exact fresh ▸ (standard_steps U).indexed (indexed_empty U)
  exact (applyAll_steps applied).indexed initial

/-! ## Metadata by type, name and path -/

/-- What a registry holds of a type: the type and its hooks. -/
def withHooks? (r : Registry n) (type : TypeExpr n) : Option (TypeExpr n × Hooks) :=
  (r.hooks? type).map fun hooks => (type, hooks)

/-- What a registry holds of the type that a name finds. -/
def entryOfName? (r : Registry n) (name : String) : Option (TypeExpr n × Hooks) :=
  (r.ofName? name).bind r.withHooks?

/-- What a registry holds of the type that a path finds. -/
def entryOfPath? (r : Registry n) (path : String) : Option (TypeExpr n × Hooks) :=
  (r.ofPath? path).bind r.withHooks?

theorem withHooks?_eq_some_iff {hooks : Hooks} {found : TypeExpr n} :
    r.withHooks? type = some (found, hooks) ↔ found = type ∧ r.hooks? type = some hooks := by
  unfold withHooks?
  cases r.hooks? type <;> simp [eq_comm]

theorem bind_withHooks?_eq_some_iff {hooks : Hooks} {found? : Option (TypeExpr n)} :
    found?.bind r.withHooks? = some (type, hooks) ↔
      found? = some type ∧ r.hooks? type = some hooks := by
  cases found? with
  | none => simp
  | some found =>
    simp only [Option.bind_some, withHooks?_eq_some_iff, Option.some.injEq]
    constructor
    · rintro ⟨rfl, has⟩
      exact ⟨rfl, has⟩
    · rintro ⟨rfl, has⟩
      exact ⟨rfl, has⟩

theorem mem_typesNamed {name : String} :
    type ∈ r.typesNamed U name ↔ r.contains type ∧ U.name type = name := by
  simp [typesNamed, mem_types_iff]

theorem mem_typesAt {path : String} :
    type ∈ r.typesAt U path ↔ r.contains type ∧ U.path type = path := by
  simp [typesAt, mem_types_iff]

/-- A path finds an entry wherever it finds a type. -/
theorem map_fst_entryOfPath? (indexed : Indexed U r) (path : String) :
    (r.entryOfPath? path).map Prod.fst = (r.typesAt U path).getLast? := by
  rw [entryOfPath?, indexed.located]
  cases last : (r.typesAt U path).getLast? with
  | none => rfl
  | some type =>
    have known := (mem_typesAt.1 (List.mem_of_getLast? last)).1
    obtain ⟨hooks, has⟩ := Option.isSome_iff_exists.1 known
    have has : r.hooks? type = some hooks := has
    simp [withHooks?, has]

/-- Two registries of the same types have the same types of every name, up to the order. -/
theorem typesNamed_perm (indexed : Indexed U r) (indexed' : Indexed U r')
    (same : ∀ type, r.contains type = r'.contains type) (name : String) :
    (r.typesNamed U name).Perm (r'.typesNamed U name) := by
  refine (List.perm_ext_iff_of_nodup ?_ ?_).2 fun type => ?_
  · exact indexed.distinct.filter _
  · exact indexed'.distinct.filter _
  · rw [mem_typesNamed, mem_typesNamed, same type]

/-- **The indices of a registry agree with its table.**  Whatever changes are made of an empty or a
standard registry: all of them can be made; the table lists every registered type once, and those
registered by the first changes before the others; a name finds a type and its hooks if and only if
it is the only registered type of the name, and is ambiguous if and only if there are several; a
path finds, with its hooks, the type that came last among those of the path, and nothing if there is
none.  So two registries that hold the same types find the same types by name, whatever the order in
which these came. -/
theorem indices_agree_with_table (U : Universe n) {start : Registry n}
    (fresh : start = .empty ∨ start = .standard U) (changes : List (Change n)) :
    ∃ r, Change.applyAll U changes start = some r ∧
      (r.types.Nodup ∧ (∀ type, type ∈ r.types ↔ r.contains type) ∧
        ∀ before later, changes = before ++ later →
          ∃ earlier, Change.applyAll U before start = some earlier ∧ earlier.types <+: r.types) ∧
      (∀ name type hooks, r.entryOfName? name = some (type, hooks) ↔
        r.typesNamed U name = [type] ∧ r.hooks? type = some hooks) ∧
      (∀ name, r.isAmbiguous name ↔ 2 ≤ (r.typesNamed U name).length) ∧
      (∀ path type hooks, r.entryOfPath? path = some (type, hooks) ↔
        (r.typesAt U path).getLast? = some type ∧ r.hooks? type = some hooks) ∧
      (∀ path, r.entryOfPath? path = none ↔ r.typesAt U path = []) ∧
      ∀ start' changes' r', (start' = .empty ∨ start' = .standard U) →
        Change.applyAll U changes' start' = some r' →
        (∀ type, r.contains type = r'.contains type) →
        ∀ name, r.ofName? name = r'.ofName? name ∧ r.isAmbiguous name = r'.isAmbiguous name := by
  obtain ⟨r, applied, -⟩ := Change.applyAll_closed U changes start
  have indexed := Change.applyAll_indexed fresh applied
  refine ⟨r, applied, ⟨indexed.distinct, mem_types_iff r, ?_⟩, ?_, indexed.shared, ?_, ?_, ?_⟩
  · rintro before later rfl
    obtain ⟨earlier, first, -⟩ := Change.applyAll_closed U before start
    rw [Change.applyAll, List.foldlM_append] at applied
    obtain ⟨middle, first', rest⟩ := Option.bind_eq_some_iff.1 applied
    cases first.symm.trans first'
    have goesOn : Change.applyAll U later earlier = some r := rest
    exact ⟨earlier, first, (Change.applyAll_steps goesOn).types_grow⟩
  · intro name type hooks
    rw [entryOfName?, bind_withHooks?_eq_some_iff, indexed.named]
  · intro path type hooks
    rw [entryOfPath?, bind_withHooks?_eq_some_iff, indexed.located]
  · intro path
    rw [← List.getLast?_eq_none_iff, ← map_fst_entryOfPath? indexed, Option.map_eq_none_iff]
  · intro start' changes' r' fresh' applied' same name
    have indexed' := Change.applyAll_indexed fresh' applied'
    have perm := typesNamed_perm indexed indexed' same name
    constructor
    · ext type
      rw [indexed.named, indexed'.named]
      exact ⟨fun only => (only ▸ perm).symm.eq_singleton, fun only => (only ▸ perm).eq_singleton⟩
    · rw [Bool.eq_iff_iff, indexed.shared, indexed'.shared, perm.length_eq]

end Registry

/-! ## Three types of one name -/

open Registry

namespace Sample

/-- Three structs named `Item`, the last two with one path as well. -/
def items : Universe 3 where
  declaration index :=
    { path := if index = 0 then "a::Item" else "b::Item", name := "Item", body := .struct [] }

end Sample

/-- The third type of a name does not make it find anything again; the path finds the last type. -/
theorem Sample.third_item_keeps_name_ambiguous :
    ∃ r, Change.applyAll items [.register (.declared 0), .getOrRegister (.declared 1),
        .registerHook (.declared 2) (.custom "Label" (.text "last"))] .empty = some r ∧
      r.types = [.declared 0, .declared 1, .declared 2] ∧ r.isAmbiguous "Item" ∧
      (∀ type hooks, r.entryOfName? "Item" ≠ some (type, hooks)) ∧
      ∃ hooks, r.entryOfPath? "b::Item" = some (.declared 2, hooks) := by
  obtain ⟨r, applied, -, named, shared, located, -⟩ := indices_agree_with_table items (.inl rfl)
    [.register (.declared 0), .getOrRegister (.declared 1),
      .registerHook (.declared 2) (.custom "Label" (.text "last"))]
  have run : (Change.applyAll items [.register (.declared 0), .getOrRegister (.declared 1),
      .registerHook (.declared 2) (.custom "Label" (.text "last"))] .empty).map
        (fun r => (r.types, (r.hooks? (.declared 2)).isSome)) =
      some ([.declared 0, .declared 1, .declared 2], true) := by
    decide +kernel
  rw [applied, Option.map_some, Option.some.injEq, Prod.mk.injEq] at run
  obtain ⟨types, known⟩ := run
  have borne : r.typesNamed items "Item" = [.declared 0, .declared 1, .declared 2] := by
    rw [typesNamed, types]
    decide
  have last : (r.typesAt items "b::Item").getLast? = some (.declared 2) := by
    rw [typesAt, types]
    decide
  refine ⟨r, applied, types, ?_, ?_, ?_⟩
  · rw [shared, borne]
    decide
  · intro type hooks found
    rw [named, borne] at found
    cases found.1
  · obtain ⟨hooks, has⟩ := Option.isSome_iff_exists.1 known
    exact ⟨hooks, (located _ _ _).2 ⟨last, has⟩⟩

end RecordSchema
