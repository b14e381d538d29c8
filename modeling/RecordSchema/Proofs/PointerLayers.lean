import RecordSchema.Proofs.Twins

/-!
# Universes that differ in pointer layers

Two universes may declare the same types except for pointers around the types of fields, and around
the items of lists and arrays at any depth inside them (`Universe.SameUpToPointers`).  What a map
holds is the same in both.  `TypeExpr.core` strips all those layers, so two types differ in them
only if they have one core.

A list of boxed items and a list of items have different keys, so the caches of encoders over the
two universes have different shapes.  `Encoder.Parallel` is the relation that builds keep: the
entries of all types but lists are the same, and on each side an entry for a list holds what is
cached for its item.  Objects and marks are equal.
-/

namespace RecordSchema

variable {n : Nat}

open Encoder

/-! ## Types without pointer layers -/

namespace TypeExpr

/-- The type without the pointers around it and around the items of lists and arrays in it. -/
def core : TypeExpr n → TypeExpr n
  | .pointer _ pointee => pointee.core
  | .list shape item => .list shape item.core
  | .array item length => .array item.core length
  | type => type

/-- A type that is neither a pointer nor a list nor an array. -/
def isNamed : TypeExpr n → Bool
  | .native _ | .declared _ | .map _ _ _ => true
  | _ => false

@[simp] theorem core_withoutPointers (type : TypeExpr n) :
    type.withoutPointers.core = type.core := by
  induction type with
  | pointer shape pointee ih => exact ih
  | native | declared | list | array | map => rfl

theorem isPointer_eq_false_of_named {type : TypeExpr n} (named : type.isNamed) :
    type.isPointer = false := by
  cases type with
  | list | array | pointer => cases named
  | native | declared | map => rfl

theorem item?_eq_none_of_named {type : TypeExpr n} (named : type.isNamed) : type.item? = none := by
  cases type with
  | list | array | pointer => cases named
  | native | declared | map => rfl

theorem named_or_listed {type : TypeExpr n} (plain : type.isPointer = false) :
    type.isNamed ∨ ∃ item, type.item? = some item := by
  cases type with
  | pointer => cases plain
  | native | declared | map => exact .inl rfl
  | list | array => exact .inr ⟨_, rfl⟩

/-- Induction over the layers around a named type: pointers, and lists or arrays. -/
@[elab_as_elim]
theorem layer_induction {motive : TypeExpr n → Prop} (type : TypeExpr n)
    (pointer : ∀ shape pointee, motive pointee → motive (.pointer shape pointee))
    (named : ∀ type, type.isNamed → motive type)
    (listed : ∀ type item, type.item? = some item → motive item → motive type) : motive type := by
  induction type with
  | pointer shape pointee ih => exact pointer shape pointee ih
  | native | declared | map => exact named _ rfl
  | list _ item ih | array item _ ih => exact listed _ item rfl ih

/-- Below pointers a named type is the only type of its core. -/
theorem withoutPointers_eq_of_named {a b : TypeExpr n} (named : a.isNamed)
    (core : b.core = a.core) : b.withoutPointers = a := by
  induction b with
  | pointer shape pointee ih => exact ih core
  | native | declared | map =>
    cases a with
    | list | array | pointer => cases named
    | native | declared | map => exact core
  | list | array =>
    cases a with
    | list | array | pointer => cases named
    | native | declared | map => cases core

theorem eq_of_named {a b : TypeExpr n} (named : a.isNamed) (plain' : b.isPointer = false)
    (core : b.core = a.core) : b = a :=
  (withoutPointers_eq_self plain').symm.trans (withoutPointers_eq_of_named named core)

/-- Below pointers all types of the core of a list are lists, of items of one core. -/
theorem item?_of_core {a b item : TypeExpr n} (listed : a.item? = some item)
    (core : b.core = a.core) :
    ∃ item', b.withoutPointers.item? = some item' ∧ item'.core = item.core := by
  induction b with
  | pointer shape pointee ih => exact ih core
  | native | declared | map =>
    cases a with
    | list | array => cases core
    | native | declared | map | pointer => cases listed
  | list shape item' =>
    cases a with
    | list => cases listed; exact ⟨item', rfl, (TypeExpr.list.inj core).2⟩
    | array => cases core
    | native | declared | map | pointer => cases listed
  | array item' length =>
    cases a with
    | list => cases core
    | array => cases listed; exact ⟨item', rfl, (TypeExpr.array.inj core).1⟩
    | native | declared | map | pointer => cases listed

end TypeExpr

/-! ## Universes up to pointer layers -/

/-- Two contents that say the same about types of one core. -/
inductive FieldContent.SameUpToPointers : FieldContent n → FieldContent n → Prop
  | hidden : SameUpToPointers .hidden .hidden
  | untagged (type) : SameUpToPointers (.untagged type) (.untagged type)
  | tagged {tag type type'} (core : type'.core = type.core) :
      SameUpToPointers (.tagged tag type) (.tagged tag type')

structure RecordField.SameUpToPointers (field field' : RecordField n) : Prop where
  name : field'.name = field.name
  content : field.content.SameUpToPointers field'.content

inductive Body.SameUpToPointers : Body n → Body n → Prop
  | struct {fields fields'} (same : List.Forall₂ RecordField.SameUpToPointers fields fields') :
      SameUpToPointers (.struct fields) (.struct fields')
  | closed : SameUpToPointers .closed .closed
  | dynamic : SameUpToPointers .dynamic .dynamic
  | primitive (kind) : SameUpToPointers (.primitive kind) (.primitive kind)

structure Declaration.SameUpToPointers (declaration declaration' : Declaration n) : Prop where
  path : declaration'.path = declaration.path
  name : declaration'.name = declaration.name
  hooks : declaration'.hooks = declaration.hooks
  body : declaration.body.SameUpToPointers declaration'.body

/-- Two universes with the same declarations, up to pointer layers in the types of tagged fields. -/
def Universe.SameUpToPointers (U V : Universe n) : Prop :=
  ∀ index, (U.declaration index).SameUpToPointers (V.declaration index)

section Fields

variable {field field' : RecordField n}

theorem FieldContent.SameUpToPointers.symm {content content' : FieldContent n}
    (same : content.SameUpToPointers content') : content'.SameUpToPointers content := by
  cases same with
  | hidden => exact .hidden
  | untagged type => exact .untagged type
  | tagged core => exact .tagged core.symm

theorem RecordField.SameUpToPointers.symm (same : field.SameUpToPointers field') :
    field'.SameUpToPointers field := ⟨same.name.symm, same.content.symm⟩

theorem RecordField.SameUpToPointers.untagged (same : field.SameUpToPointers field')
    (untagged : field.tag? = none) : field'.tag? = none := by
  unfold tag? at untagged ⊢
  have content := same.content
  generalize field.content = own, field'.content = other at content untagged
  cases content with
  | hidden | untagged => rfl
  | tagged => cases untagged

theorem RecordField.SameUpToPointers.tagged (same : field.SameUpToPointers field') {text : String}
    {type : TypeExpr n} (tagged : field.content = .tagged text type) :
    ∃ type', field'.content = .tagged text type' ∧ type'.core = type.core := by
  have content := same.content
  rw [tagged] at content
  generalize field'.content = other at content
  cases content with
  | tagged core => exact ⟨_, rfl, core⟩

theorem Body.SameUpToPointers.symm {body body' : Body n} (same : body.SameUpToPointers body') :
    body'.SameUpToPointers body := by
  cases same with
  | struct same => exact .struct (same.flip.imp fun _ _ same => same.symm)
  | closed => exact .closed
  | dynamic => exact .dynamic
  | primitive kind => exact .primitive kind

end Fields

namespace Universe.SameUpToPointers

variable {U V : Universe n}

theorem symm (same : U.SameUpToPointers V) : V.SameUpToPointers U := fun index =>
  ⟨(same index).path.symm, (same index).name.symm, (same index).hooks.symm, (same index).body.symm⟩

theorem path (same : U.SameUpToPointers V) (type : TypeExpr n) : V.path type = U.path type := by
  induction type with
  | declared index => exact (same index).path
  | native | list | array | pointer | map => simp_all [Universe.path]

theorem name (same : U.SameUpToPointers V) (type : TypeExpr n) : V.name type = U.name type := by
  induction type with
  | declared index => exact (same index).name
  | native | list | array | pointer | map => simp_all [Universe.name]

theorem hooks (same : U.SameUpToPointers V) (type : TypeExpr n) : V.hooks type = U.hooks type := by
  cases type with
  | declared index => exact (same index).hooks
  | native | list | array | pointer | map => rfl

theorem text (same : U.SameUpToPointers V) (policy : KeyPolicy) (type : TypeExpr n) :
    policy.text V type = policy.text U type := by
  cases policy with
  | qualified => exact same.path type
  | bareName => exact same.name type

theorem isStruct (same : U.SameUpToPointers V) (type : TypeExpr n) :
    V.isStruct type = U.isStruct type := by
  cases type with
  | declared index =>
    have body := (same index).body
    change ((V.declaration index).body.detail.kind == .struct) =
      ((U.declaration index).body.detail.kind == .struct)
    generalize (U.declaration index).body = own, (V.declaration index).body = other at body ⊢
    cases body <;> rfl
  | native | list | array | pointer | map => rfl

theorem scalar? (same : U.SameUpToPointers V) (type : TypeExpr n) :
    (V.info type).scalar? = (U.info type).scalar? := by
  cases type with
  | declared index =>
    have body := (same index).body
    change TypeInfo.scalar? ⟨.declared index, (V.declaration index).body.detail⟩ =
      TypeInfo.scalar? ⟨.declared index, (U.declaration index).body.detail⟩
    generalize (U.declaration index).body = own, (V.declaration index).body = other at body ⊢
    cases body <;> rfl
  | native | list | array | pointer | map => rfl

/-- A struct is a struct in both, of fields that are the same up to pointer layers. -/
theorem struct (same : U.SameUpToPointers V) {type : TypeExpr n} {fields : List (RecordField n)}
    (struct : U.detail type = .struct fields) :
    ∃ fields', V.detail type = .struct fields' ∧
      List.Forall₂ RecordField.SameUpToPointers fields fields' := by
  obtain ⟨index, rfl⟩ := eq_declared_of_struct struct
  have body := (same index).body
  change (U.declaration index).body.detail = _ at struct
  change ∃ fields', (V.declaration index).body.detail = _ ∧ _
  generalize (U.declaration index).body = own, (V.declaration index).body = other at body struct ⊢
  cases body with
  | struct same =>
    cases struct
    exact ⟨_, rfl, same⟩
  | closed | dynamic | primitive => cases struct

end Universe.SameUpToPointers

/-- Two universes up to pointer layers, each with a scope that is closed in it and whose types have
different keys. -/
structure PointerVariants (U V : Universe n) (policy : KeyPolicy) (scope scope' : Scope n) :
    Prop where
  same : U.SameUpToPointers V
  closed : scope.Closed U
  closed' : scope'.Closed V
  apart : scope.Apart U policy
  apart' : scope'.Apart V policy

/-! ## Encoders side by side -/

/-- Two encoders with the same objects and marks, and with the same entries and hooks for types that
are neither pointers nor lists.  No list has hooks. -/
structure Encoder.InStep (U V : Universe n) (policy : KeyPolicy) (scope scope' : Scope n)
    (e f : Encoder n) : Prop where
  uses : e.cache.policy = policy
  uses' : f.cache.policy = policy
  failures : f.cache.failures = e.cache.failures
  arena : f.arena = e.arena
  building : f.building = e.building
  entries : ∀ type, type.isNamed → scope.type type → scope'.type type →
    f.cache.lookup V type = e.cache.lookup U type
  hooks : ∀ type, type.isNamed → f.hooksOf V type = e.hooksOf U type
  bare : ∀ type item, type.item? = some item → e.hooksOf U type = .empty
  bare' : ∀ type item, type.item? = some item → f.hooksOf V type = .empty

/-- Encoders in step whose entries for lists hold what is cached for the items. -/
structure Encoder.Parallel (U V : Universe n) (policy : KeyPolicy) (scope scope' : Scope n)
    (e f : Encoder n) : Prop extends InStep U V policy scope scope' e f where
  listed : Listed U scope e
  listed' : Listed V scope' f

/-- The marks of a cache depend on its earlier marks only. -/
theorem Encoder.failures_marked_of_failures {cache cache' : TypeCache} (started : List ObjectId)
    (error : EncodeError) (same : cache'.failures = cache.failures) :
    (marked cache' started error).failures = (marked cache started error).failures := by
  induction started generalizing cache cache' with
  | nil => exact same
  | cons id rest ih =>
    refine ih ?_
    change cache'.failures.insertNew id error = cache.failures.insertNew id error
    rw [same]

section Parallel

variable {U V : Universe n} {policy : KeyPolicy} {scope scope' : Scope n} {e f e' f' : Encoder n}

theorem PointerVariants.symm (variants : PointerVariants U V policy scope scope') :
    PointerVariants V U policy scope' scope where
  same := variants.same.symm
  closed := variants.closed'
  closed' := variants.closed
  apart := variants.apart'
  apart' := variants.apart

namespace Encoder.InStep

theorem symm (inStep : InStep U V policy scope scope' e f) :
    InStep V U policy scope' scope f e where
  uses := inStep.uses'
  uses' := inStep.uses
  failures := inStep.failures.symm
  arena := inStep.arena.symm
  building := inStep.building.symm
  entries type named inside' inside := (inStep.entries type named inside inside').symm
  hooks type named := (inStep.hooks type named).symm
  bare := inStep.bare'
  bare' := inStep.bare

theorem failure? (inStep : InStep U V policy scope scope' e f) (found : SchemaType) :
    f.cache.failure? found = e.cache.failure? found := by
  unfold TypeCache.failure?
  rw [inStep.failures]

/-- Types of one core have the same hooks below their pointers. -/
theorem hooksOf_core (inStep : InStep U V policy scope scope' e f) {a b : TypeExpr n}
    (core : b.core = a.core) :
    f.hooksOf V b.withoutPointers = e.hooksOf U a.withoutPointers := by
  have below : b.core = a.withoutPointers.core := by rw [core, TypeExpr.core_withoutPointers]
  rcases TypeExpr.named_or_listed a.isPointer_withoutPointers with named | ⟨item, listed⟩
  · rw [TypeExpr.withoutPointers_eq_of_named named below, inStep.hooks _ named]
  · obtain ⟨item', listed', -⟩ := TypeExpr.item?_of_core listed below
    rw [inStep.bare _ item listed, inStep.bare' _ item' listed']

/-- The left encoder may change its registry and its journal, if no type gets other hooks. -/
theorem congr (inStep : InStep U V policy scope scope' e f) (cache : e'.cache = e.cache)
    (arena : e'.arena = e.arena) (building : e'.building = e.building)
    (hooks : ∀ type, e'.hooksOf U type = e.hooksOf U type) :
    InStep U V policy scope scope' e' f where
  uses := cache ▸ inStep.uses
  uses' := inStep.uses'
  failures := cache ▸ inStep.failures
  arena := arena ▸ inStep.arena
  building := building ▸ inStep.building
  entries := cache ▸ inStep.entries
  hooks type named := (inStep.hooks type named).trans (hooks type).symm
  bare type item listed := (hooks type).trans (inStep.bare type item listed)
  bare' := inStep.bare'

theorem warnedLeft (inStep : InStep U V policy scope scope' e f) (type : TypeExpr n)
    (tag : FieldTag) (resolved : SchemaType) :
    InStep U V policy scope scope' ((e.warn U type tag resolved).meet U type.withoutPointers)
      f := by
  have grown : ((e.warn U type tag resolved).meet U type.withoutPointers).registry =
      e.registry.getOrRegister U type.withoutPointers := by rw [meet_registry, warn_registry]
  exact inStep.congr (by simp) (by simp) (by simp) (hooksOf_of_met U grown)

/-- Both encoders may store the same for a type that both have. -/
theorem storeNamed (variants : PointerVariants U V policy scope scope')
    (inStep : InStep U V policy scope scope' e f) {type : TypeExpr n} (built : SchemaType) :
    InStep U V policy scope scope' (e.store U type built) (f.store V type built) where
  uses := inStep.uses
  uses' := inStep.uses'
  failures := inStep.failures
  arena := inStep.arena
  building := inStep.building
  entries other named inside inside' := by
    have keys : ∀ type, f.cache.key V type = e.cache.key U type := fun type => by
      rw [TypeCache.key_eq, TypeCache.key_eq, inStep.uses, inStep.uses', variants.same.text]
    rw [store_cache, store_cache, TypeCache.lookup_register, TypeCache.lookup_register, keys, keys,
      inStep.entries other named inside inside']
  hooks := inStep.hooks
  bare := inStep.bare
  bare' := inStep.bare'

/-- One encoder may store something for a list. -/
theorem storeListed (variants : PointerVariants U V policy scope scope')
    (inStep : InStep U V policy scope scope' e f) {type item : TypeExpr n}
    (inside : scope.type type) (listed : type.item? = some item) (built : SchemaType) :
    InStep U V policy scope scope' (e.store U type built) f where
  uses := inStep.uses
  uses' := inStep.uses'
  failures := inStep.failures
  arena := inStep.arena
  building := inStep.building
  entries other named insideOther inside' := by
    have differ : e.cache.key U type ≠ e.cache.key U other := fun same => by
      rw [TypeCache.key_eq, TypeCache.key_eq, inStep.uses] at same
      have equal := variants.apart type other inside insideOther same
      rw [TypeExpr.withoutPointers_eq_self (isPointer_eq_false_of_item listed),
        TypeExpr.withoutPointers_eq_self (TypeExpr.isPointer_eq_false_of_named named)] at equal
      rw [equal, TypeExpr.item?_eq_none_of_named named] at listed
      cases listed
    rw [store_cache, TypeCache.lookup_register, if_neg differ]
    exact inStep.entries other named insideOther inside'
  hooks := inStep.hooks
  bare := inStep.bare
  bare' := inStep.bare'

/-- Both encoders may store the same for types of one core. -/
theorem store (variants : PointerVariants U V policy scope scope')
    (inStep : InStep U V policy scope scope' e f) {a b : TypeExpr n}
    (plain : a.isPointer = false) (plain' : b.isPointer = false) (core : b.core = a.core)
    (inside : scope.type a) (inside' : scope'.type b) (built : SchemaType) :
    InStep U V policy scope scope' (e.store U a built) (f.store V b built) := by
  rcases TypeExpr.named_or_listed plain with named | ⟨item, listed⟩
  · rw [TypeExpr.eq_of_named named plain' core]
    exact inStep.storeNamed variants built
  · obtain ⟨item', listed', -⟩ := TypeExpr.item?_of_core listed core
    rw [TypeExpr.withoutPointers_eq_self plain'] at listed'
    have left := inStep.storeListed variants inside listed built
    exact (left.symm.storeListed variants.symm inside' listed' built).symm

/-- Both encoders begin an object for a struct. -/
theorem begin (variants : PointerVariants U V policy scope scope')
    (inStep : InStep U V policy scope scope' e f) (struct : TypeExpr n) (object : ObjectType) :
    InStep U V policy scope scope' (e.begin U struct object) (f.begin V struct object) := by
  have stored : InStep U V policy scope scope' (e.store U struct (.object e.arena.nextId))
      (f.store V struct (.object e.arena.nextId)) := inStep.storeNamed variants _
  exact
    { uses := inStep.uses
      uses' := inStep.uses'
      failures := inStep.failures
      arena := by rw [begin_arena, begin_arena, inStep.arena]
      building := by rw [begin_building, begin_building, inStep.building, inStep.arena]
      entries := by
        rw [begin_cache, begin_cache, inStep.arena]
        exact stored.entries
      hooks := inStep.hooks
      bare := inStep.bare
      bare' := inStep.bare' }

/-- Both encoders close the same list of begun objects. -/
theorem close {α : Type} (inStep : InStep U V policy scope scope' e f) (outermost : Bool)
    (path : String) (result : Except EncodeError α) :
    InStep U V policy scope scope' (e.close outermost path result)
      (f.close outermost path result) where
  uses := by rw [close_policy, inStep.uses]
  uses' := by rw [close_policy, inStep.uses']
  failures := by
    cases outermost with
    | false => exact inStep.failures
    | true =>
      cases result with
      | ok _ => exact inStep.failures
      | error error =>
        change (marked f.cache f.building error).failures =
          (marked e.cache e.building error).failures
        rw [inStep.building]
        exact failures_marked_of_failures _ error inStep.failures
  arena := by rw [close_arena, close_arena, inStep.arena]
  building := by
    cases outermost with
    | false => exact inStep.building
    | true => cases result <;> rfl
  entries type named inside inside' := by
    rw [TypeCache.lookup_congr (close_types f _ _ _) (close_policy f _ _ _),
      TypeCache.lookup_congr (close_types e _ _ _) (close_policy e _ _ _)]
    exact inStep.entries type named inside inside'
  hooks type named := by
    rw [hooksOf_of_registry V (close_registry f _ _ _),
      hooksOf_of_registry U (close_registry e _ _ _), inStep.hooks type named]
  bare type item listed := by
    rw [hooksOf_of_registry U (close_registry e _ _ _), inStep.bare type item listed]
  bare' type item listed := by
    rw [hooksOf_of_registry V (close_registry f _ _ _), inStep.bare' type item listed]

/-- Both encoders add the same field to an object. -/
theorem expose (inStep : InStep U V policy scope scope' e f) (id : ObjectId) (path name : String)
    (tag : FieldTag) {a b : TypeExpr n} (core : b.core = a.core) (resolved : SchemaType) :
    InStep U V policy scope scope' (e.expose U id path name tag a resolved)
      (f.expose V id path name tag b resolved) := by
  have sameField : f.fieldFor V tag b resolved = e.fieldFor U tag a resolved := by
    unfold fieldFor
    rw [inStep.hooksOf_core core]
  have met := hooksOf_of_met U (e.expose_registry U id path name tag a resolved)
  have met' := hooksOf_of_met V (f.expose_registry V id path name tag b resolved)
  exact
    { uses := by rw [expose_cache, inStep.uses]
      uses' := by rw [expose_cache, inStep.uses']
      failures := by rw [expose_cache, expose_cache, inStep.failures]
      arena := by rw [expose_arena, expose_arena, inStep.arena, sameField]
      building := by rw [expose_building, expose_building, inStep.building]
      entries := by
        rw [expose_cache, expose_cache]
        exact inStep.entries
      hooks := fun type named => by rw [met', met, inStep.hooks type named]
      bare := fun type item listed => by rw [met, inStep.bare type item listed]
      bare' := fun type item listed => by rw [met', inStep.bare' type item listed] }

end Encoder.InStep

namespace Encoder.Parallel

theorem symm (parallel : Parallel U V policy scope scope' e f) :
    Parallel V U policy scope' scope f e where
  toInStep := parallel.toInStep.symm
  listed := parallel.listed'
  listed' := parallel.listed

/-- The left encoder may change its registry and its journal, if no type gets other hooks. -/
theorem congr (parallel : Parallel U V policy scope scope' e f) (cache : e'.cache = e.cache)
    (arena : e'.arena = e.arena) (building : e'.building = e.building)
    (hooks : ∀ type, e'.hooksOf U type = e.hooksOf U type) :
    Parallel U V policy scope scope' e' f where
  toInStep := parallel.toInStep.congr cache arena building hooks
  listed := parallel.listed.congr (by rw [cache]) (by rw [cache]) fun type free => by
    rwa [hooks] at free
  listed' := parallel.listed'

theorem noteLeft (parallel : Parallel U V policy scope scope' e f) (event : Event n) :
    Parallel U V policy scope scope' (e.note event) f :=
  parallel.congr rfl rfl rfl fun _ => rfl

theorem metLeft (parallel : Parallel U V policy scope scope' e f) (type : TypeExpr n) :
    Parallel U V policy scope scope' ((e.note (.resolving (U.path type))).meet U type) f :=
  parallel.congr rfl rfl rfl fun other => hooksOf_of_met U rfl other

theorem noteRight (parallel : Parallel U V policy scope scope' e f) (event : Event n) :
    Parallel U V policy scope scope' e (f.note event) := (parallel.symm.noteLeft event).symm

theorem metRight (parallel : Parallel U V policy scope scope' e f) (type : TypeExpr n) :
    Parallel U V policy scope scope' e ((f.note (.resolving (V.path type))).meet V type) :=
  (parallel.symm.metLeft type).symm

/-- Both encoders begin an object for a struct that neither of them knows. -/
theorem begin (variants : PointerVariants U V policy scope scope')
    (parallel : Parallel U V policy scope scope' e f) {struct : TypeExpr n}
    (inside : scope.type struct) (inside' : scope'.type struct)
    {fields fields' : List (RecordField n)} (detail : U.detail struct = .struct fields)
    (detail' : V.detail struct = .struct fields') (miss : e.cache.lookup U struct = none)
    (miss' : f.cache.lookup V struct = none) (object : ObjectType) :
    Parallel U V policy scope scope' (e.begin U struct object) (f.begin V struct object) where
  toInStep := parallel.toInStep.begin variants struct object
  listed := parallel.listed.begin (variants.apart.listsAlike e) parallel.uses inside detail miss
    object
  listed' := parallel.listed'.begin (variants.apart'.listsAlike f) parallel.uses' inside' detail'
    miss' object

theorem expose (parallel : Parallel U V policy scope scope' e f) (id : ObjectId)
    (path name : String) (tag : FieldTag) {a b : TypeExpr n} (core : b.core = a.core)
    (resolved : SchemaType) :
    Parallel U V policy scope scope' (e.expose U id path name tag a resolved)
      (f.expose V id path name tag b resolved) where
  toInStep := parallel.toInStep.expose id path name tag core resolved
  listed := parallel.listed.expose id path name tag a resolved
  listed' := parallel.listed'.expose id path name tag b resolved

/-- Encoders in step stay parallel over two courses. -/
theorem of_courses (variants : PointerVariants U V policy scope scope')
    (parallel : Parallel U V policy scope scope' e f) {call call' : Call n}
    {result result' : Except EncodeError SchemaType} (course : Course U call e result e')
    (course' : Course V call' f result' f') (within : call.Within scope)
    (within' : call'.Within scope') (inStep : InStep U V policy scope scope' e' f') :
    Parallel U V policy scope scope' e' f' where
  toInStep := inStep
  listed := course.listed variants.closed (variants.apart.listsAlike e) parallel.uses within
    parallel.listed
  listed' := course'.listed variants.closed' (variants.apart'.listsAlike f) parallel.uses' within'
    parallel.listed'

end Encoder.Parallel

end Parallel

end RecordSchema
