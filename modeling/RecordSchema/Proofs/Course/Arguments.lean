import RecordSchema.Proofs.Permanence

/-!
# The course of an argument map

An argument map is collected by a walk over the fields of a struct that begins no object for the
struct itself.  `Collects` describes the walk as `Course` describes a build: each tagged field
resolves its type on the encoder that the fields before it left, and the map gets what the type
resolved to.
-/

namespace RecordSchema

variable {n : Nat}

open Encoder

/-- `Collects U path fields start e result e'`: on `e` the walk that adds fields to the map `start`
ends with this result and leaves `e'`. -/
inductive Collects (U : Universe n) (path : String) : List (RecordField n) → ArgumentMap →
    Encoder n → Except EncodeError ArgumentMap → Encoder n → Prop
  | done {start e} : Collects U path [] start e (.ok start) e
  | untagged {field : RecordField n} {rest start e result e'} (untagged : field.tag? = none)
      (others : Collects U path rest start e result e') :
      Collects U path (field :: rest) start e result e'
  | tagged {field : RecordField n} {text type rest start e resolved e₁ e₂ result e'}
      (content : field.content = .tagged text type)
      (first : Course U (.resolve type) e (.ok resolved) e₁) (same : Unchanged e₁ e₂)
      (others : Collects U path rest
        (start.insert (FieldTag.parse text).name { type := taggedType (.parse text) resolved }).2
        e₂ result e') :
      Collects U path (field :: rest) start e result e'
  | stopped {field : RecordField n} {text type rest start e error e'}
      (content : field.content = .tagged text type)
      (first : Course U (.resolve type) e (.error error) e') :
      Collects U path (field :: rest) start e (.error (error.inStruct path field.name)) e'

variable {U : Universe n} {e e' : Encoder n} {type : TypeExpr n} {fields : List (RecordField n)}

theorem collects_foldlM {path : String} {start : ArgumentMap}
    {result : Except EncodeError ArgumentMap}
    (run : Build.outcome (fields.foldlM (Build.addArgument U (resolveType U) path) start) e =
      some (result, e')) : Collects U path fields start e result e' := by
  induction fields generalizing start e with
  | nil =>
    cases run
    exact .done
  | cons field rest ih =>
    rw [List.foldlM_cons] at run
    cases content : field.content with
    | hidden | untagged =>
      have untagged : field.tag? = none := by simp [RecordField.tag?, content]
      rw [addArgument_of_untagged untagged, pure_bind] at run
      exact .untagged untagged (ih run)
    | tagged text type =>
      obtain ⟨resolving, e₁, first⟩ := resolveType_ends U type e
      cases resolving with
      | error error =>
        rw [Build.outcome_bind_error (addArgument_of_error content path start first)] at run
        cases run
        exact .stopped content (course_resolve first)
      | ok resolved =>
        obtain ⟨e₂, added, same⟩ := addArgument_of_ok content path start first
        rw [Build.outcome_bind_ok added] at run
        exact .tagged content (course_resolve first) same (ih run)

/-- The arguments of a struct are collected from its fields. -/
theorem collects_argsOfInfo (struct : U.detail type.withoutPointers = .struct fields)
    {result : Except EncodeError ArgumentMap}
    (run : (argsOfInfo U type).outcome e = some (result, e')) :
    Collects U (U.path type.withoutPointers) fields .empty e result e' := by
  rw [Build.argsOfInfo_eq, Build.argumentsWith_of_struct _ struct] at run
  exact collects_foldlM run

/-- The request for arguments registers the struct first. -/
theorem collects_argsOf (struct : U.detail type.withoutPointers = .struct fields)
    {result : Except EncodeError ArgumentMap}
    (run : (argsOf U type).outcome e = some (result, e')) :
    ∃ registry, e.registry.Extends U registry ∧
      Collects U (U.path type.withoutPointers) fields .empty (e.know registry) result e' := by
  obtain ⟨registry, registered, grown, -⟩ := Build.outcome_register U type e
  rw [argsOf, Build.outcome_bind_ok registered] at run
  exact ⟨registry, grown, collects_argsOfInfo struct run⟩

/-- Only structs have arguments. -/
theorem struct_of_argsOfInfo {arguments : ArgumentMap}
    (run : (argsOfInfo U type).outcome e = some (.ok arguments, e')) :
    ∃ fields, U.detail type.withoutPointers = .struct fields := by
  rw [Build.argsOfInfo_eq] at run
  rcases Universe.struct_or_not U type.withoutPointers with struct | noStruct
  · exact struct
  · rw [Build.argumentsWith_of_other _ noStruct] at run
    cases run

theorem struct_of_argsOf {arguments : ArgumentMap}
    (run : (argsOf U type).outcome e = some (.ok arguments, e')) :
    ∃ fields, U.detail type.withoutPointers = .struct fields := by
  obtain ⟨registry, registered, -⟩ := Build.outcome_register U type e
  rw [argsOf, Build.outcome_bind_ok registered] at run
  exact struct_of_argsOfInfo run

end RecordSchema
