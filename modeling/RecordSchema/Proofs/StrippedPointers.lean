import Mathlib.Computability.StateTransition
import RecordSchema.Proofs.Growth

/-!
# Two ways to strip pointers

Pointers are stripped in two places.  A build follows them from type to type, and asks for the
description of each type to see whether it is a pointer; a cache follows them from description to
description.  Were the two to stop at different types, a type would be built under one key and
looked up under another.

Both are loops that go on as long as there is a pointee.  This module takes them as such
(`StateTransition.eval` of `Universe.pointee?` and of `TypeInfo.pointeeInfo?`), so that it has to be
proved that they end.  They end at the same type, whose description is no pointer's, and pointers
around a type (`TypeExpr.under`) do not change that type; so neither do they change what a cache
answers and stores.
-/

namespace RecordSchema

variable {n : Nat}

open StateTransition

/-- The type that a type points to, according to its description. -/
def Universe.pointee? (U : Universe n) (type : TypeExpr n) : Option (TypeExpr n) :=
  match U.detail type with
  | .pointer pointee _ => some pointee
  | _ => none

/-- The description of the type that a described type points to. -/
def TypeInfo.pointeeInfo? (U : Universe n) (info : TypeInfo n) : Option (TypeInfo n) :=
  match info.detail with
  | .pointer pointee _ => some (U.info pointee)
  | _ => none

/-- A type under pointers, the outermost first. -/
def TypeExpr.under (shapes : List PointerShape) (type : TypeExpr n) : TypeExpr n :=
  shapes.foldr .pointer type

/-! ## The loops -/

section Loops

variable {U : Universe n}

/-- Of all types only pointers are described as such. -/
theorem Universe.kind_info_eq_pointer_iff (U : Universe n) (type : TypeExpr n) :
    (U.info type).kind = .pointer ↔ type.isPointer := by
  cases type with
  | native native => cases native <;> exact iff_of_false nofun nofun
  | declared index =>
    have other : (U.declaration index).body.detail.kind ≠ .pointer := by
      cases (U.declaration index).body <;> exact nofun
    exact iff_of_false other nofun
  | pointer => exact iff_of_true rfl rfl
  | list | array | map => exact iff_of_false nofun nofun

theorem Universe.pointee?_eq_none {type : TypeExpr n} (plain : type.isPointer = false) :
    U.pointee? type = none := by
  have other : (U.info type).kind ≠ .pointer := by
    rw [Ne, U.kind_info_eq_pointer_iff, plain]
    exact Bool.false_ne_true
  unfold pointee?
  split
  · next pointee nullable detail => exact absurd (congrArg Detail.kind detail) other
  · rfl

/-- Following the pointers from type to type leads below all of them. -/
theorem Universe.reaches_withoutPointers (U : Universe n) (type : TypeExpr n) :
    Reaches U.pointee? type type.withoutPointers := by
  induction type with
  | pointer shape pointee ih => exact .head rfl ih
  | native | declared | list | array | map => exact .refl

theorem Universe.eval_pointee? (U : Universe n) (type : TypeExpr n) :
    eval U.pointee? type = Part.some type.withoutPointers := by
  refine Part.eq_some_iff.2 (mem_eval.2 ⟨U.reaches_withoutPointers type, ?_⟩)
  exact pointee?_eq_none type.isPointer_withoutPointers

/-- The loop over descriptions takes the steps of the loop over types. -/
theorem TypeInfo.pointeeInfo?_info (U : Universe n) (type : TypeExpr n) :
    pointeeInfo? U (U.info type) = (U.pointee? type).map U.info := by
  unfold pointeeInfo? Universe.pointee? Universe.info
  cases U.detail type <;> rfl

theorem TypeInfo.eval_pointeeInfo? (U : Universe n) (type : TypeExpr n) :
    eval (pointeeInfo? U) (U.info type) = Part.some (U.info type.withoutPointers) := by
  have step : ∀ first second, second ∈ U.pointee? first →
      U.info second ∈ pointeeInfo? U (U.info first) := by
    intro first second follows
    rw [Option.mem_def] at follows ⊢
    rw [pointeeInfo?_info, follows, Option.map_some]
  have reaches : Reaches (pointeeInfo? U) (U.info type) (U.info type.withoutPointers) :=
    Relation.ReflTransGen.lift U.info step _ _ (U.reaches_withoutPointers type)
  have ends : pointeeInfo? U (U.info type.withoutPointers) = none := by
    rw [pointeeInfo?_info, Universe.pointee?_eq_none type.isPointer_withoutPointers,
      Option.map_none]
  exact Part.eq_some_iff.2 (mem_eval.2 ⟨reaches, ends⟩)

theorem TypeExpr.withoutPointers_under (shapes : List PointerShape) (type : TypeExpr n) :
    (type.under shapes).withoutPointers = type.withoutPointers := by
  induction shapes with
  | nil => rfl
  | cons shape shapes ih => exact ih

/-- Of a type only what is below its pointers matters to a cache. -/
theorem TypeCache.register_of_key {cache : TypeCache} {type other : TypeExpr n}
    (same : cache.key U type = cache.key U other) (resolved : SchemaType) :
    cache.register U type resolved = cache.register U other resolved := by
  rw [register, same, register]

end Loops

/-- **The two ways to strip pointers agree.**  From every type both loops end, the one at the type
below all pointers and the other at its description, which is not that of a pointer.  To strip
pointers again changes nothing, nor does it change a type that is no pointer; and what is left does
not depend on pointers that were put around the type before.  Therefore a cache has one key for a
type and for the type under any pointers, finds the same entry for both, and is the same after an
entry was stored for the one or the other. -/
theorem Universe.stripping_loops_agree (U : Universe n) (type : TypeExpr n) :
    (eval U.pointee? type = Part.some type.withoutPointers ∧
      eval (TypeInfo.pointeeInfo? U) (U.info type) = Part.some ((U.info type).withoutPointers U) ∧
      (U.info type).withoutPointers U = U.info type.withoutPointers ∧
      (U.info type.withoutPointers).kind ≠ .pointer) ∧
    (type.withoutPointers.withoutPointers = type.withoutPointers ∧
      ((U.info type).withoutPointers U).withoutPointers U = (U.info type).withoutPointers U) ∧
    ((U.info type).kind ≠ .pointer →
      type.withoutPointers = type ∧ (U.info type).withoutPointers U = U.info type) ∧
    ∀ shapes, (type.under shapes).withoutPointers = type.withoutPointers ∧
      (U.info (type.under shapes)).withoutPointers U = (U.info type).withoutPointers U ∧
      ∀ cache : TypeCache, cache.key U (type.under shapes) = cache.key U type ∧
        cache.key U type = cache.policy.text U type.withoutPointers ∧
        cache.lookup U (type.under shapes) = cache.lookup U type ∧
        ∀ resolved, cache.register U (type.under shapes) resolved =
          cache.register U type resolved := by
  have below : (U.info type).withoutPointers U = U.info type.withoutPointers :=
    U.withoutPointers_info type
  refine ⟨⟨U.eval_pointee? type, ?_, below, ?_⟩, ⟨type.withoutPointers_withoutPointers, ?_⟩, ?_, ?_⟩
  · rw [below, TypeInfo.eval_pointeeInfo?]
  · rw [Ne, U.kind_info_eq_pointer_iff, type.isPointer_withoutPointers]
    exact Bool.false_ne_true
  · rw [below, U.withoutPointers_info, type.withoutPointers_withoutPointers]
  · intro other
    rw [Ne, U.kind_info_eq_pointer_iff, Bool.not_eq_true] at other
    have self : type.withoutPointers = type := TypeExpr.withoutPointers_eq_self other
    exact ⟨self, by rw [below, self]⟩
  · intro shapes
    have stripped : (type.under shapes).withoutPointers = type.withoutPointers :=
      TypeExpr.withoutPointers_under shapes type
    refine ⟨stripped, by rw [U.withoutPointers_info, stripped, below], fun cache => ?_⟩
    have key : cache.key U (type.under shapes) = cache.key U type := by
      rw [TypeCache.key_eq, stripped, ← TypeCache.key_eq]
    exact ⟨key, cache.key_eq U type, TypeCache.lookup_of_key key, TypeCache.register_of_key key⟩

namespace Sample

/-- Nothing is declared, so all types are built from native ones. -/
def undeclared : Universe 0 where
  declaration := nofun

/-- A list of shared texts. -/
def texts : TypeExpr 0 := .list .vec (.pointer .rc (.primitive .string))

end Sample

/-- Two pointers around a list are stripped, those inside it are not. -/
theorem Sample.pointers_around_texts_are_stripped :
    (undeclared.info texts).kind ≠ .pointer ∧
    eval undeclared.pointee? (texts.under [.option, .box]) = Part.some texts ∧
    (undeclared.info (texts.under [.option, .box])).withoutPointers undeclared =
      undeclared.info texts ∧
    (TypeCache.empty .qualified).key undeclared (texts.under [.option, .box]) =
      "alloc::vec::Vec<alloc::rc::Rc<alloc::string::String>>" := by
  have list : (undeclared.info texts).kind ≠ .pointer := by decide
  obtain ⟨⟨ends, -⟩, -⟩ := Universe.stripping_loops_agree undeclared (texts.under [.option, .box])
  obtain ⟨-, -, plain, pointers⟩ := Universe.stripping_loops_agree undeclared texts
  obtain ⟨self, self'⟩ := plain list
  obtain ⟨-, below, caches⟩ := pointers [.option, .box]
  obtain ⟨key, -⟩ := caches (.empty .qualified)
  exact ⟨list, ends, below.trans self', key.trans (by decide)⟩

end RecordSchema
