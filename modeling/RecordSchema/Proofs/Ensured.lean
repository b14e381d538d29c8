import RecordSchema.Proofs.ProvidedTypes

/-!
# What a step ensures

A step ensures a property of its results if, begun on an encoder that has a property of its own, it
leads to such an encoder again and results in nothing but what has the first property.  Steps that
ensure something can be put together, by one rule for each way to combine them.  The last part does
so for the steps that requests are made of besides builds: the walk over the fields of an argument
map, and the options of a field.

The rules say nothing of whether a step ends, which is the matter of `Build.Serves`.
-/

namespace RecordSchema

variable {n : Nat}

open Encoder

/-- From an encoder with a property a step leads to such an encoder only, and what it results in
has a property as well. -/
def Build.Ensures {α : Type} (holds : Encoder n → Prop) (good : α → Prop) (step : Build n α) :
    Prop :=
  ∀ e result e', step.outcome e = some (result, e') → holds e →
    holds e' ∧ ∀ a, result = .ok a → good a

/-! ## Combined steps -/

namespace Build.Ensures

variable {α β : Type} {holds : Encoder n → Prop} {good : α → Prop} {good' : β → Prop}

theorem pure {a : α} (h : good a) : Ensures holds good (Pure.pure a) := by
  intro e result e' run before
  cases run
  refine ⟨before, ?_⟩
  rintro _ ⟨⟩
  exact h

theorem throw (error : EncodeError) :
    Ensures holds good (MonadExcept.throw error : Build n α) := by
  intro e result e' run before
  cases run
  exact ⟨before, fun _ ok => nomatch ok⟩

theorem bind {step : Build n α} {next : α → Build n β} (first : Ensures holds good step)
    (second : ∀ a, good a → Ensures holds good' (next a)) :
    Ensures holds good' (step >>= next) := by
  intro e result e' run before
  rw [outcome_bind, Option.bind_eq_some_iff] at run
  obtain ⟨⟨error | a, e₁⟩, ran, rest⟩ := run
  · cases rest
    exact ⟨(first e _ _ ran before).1, fun _ ok => nomatch ok⟩
  · obtain ⟨between, results⟩ := first e _ _ ran before
    exact second a (results a rfl) e₁ _ _ rest between

theorem map {step : Build n α} {f : α → β} (ensures : Ensures holds good step)
    (h : ∀ a, good a → good' (f a)) : Ensures holds good' (f <$> step) := by
  intro e result e' run before
  rw [outcome_map, Option.map_eq_some_iff] at run
  obtain ⟨⟨error | a, e₁⟩, ran, same⟩ := run
  · cases same
    exact ⟨(ensures e _ _ ran before).1, fun _ ok => nomatch ok⟩
  · cases same
    obtain ⟨after, results⟩ := ensures e _ _ ran before
    refine ⟨after, ?_⟩
    rintro _ ⟨⟩
    exact h a (results a rfl)

theorem adapt {step : Build n α} (f : EncodeError → EncodeError)
    (ensures : Ensures holds good step) :
    Ensures holds good (ExceptT.adapt f step : Build n α) := by
  intro e result e' run before
  rw [outcome_adapt, Option.map_eq_some_iff] at run
  obtain ⟨⟨error | a, e₁⟩, ran, same⟩ := run
  · cases same
    exact ⟨(ensures e _ _ ran before).1, fun _ ok => nomatch ok⟩
  · cases same
    obtain ⟨after, results⟩ := ensures e _ _ ran before
    refine ⟨after, ?_⟩
    rintro _ ⟨⟩
    exact results a rfl

theorem foldlM {step : β → α → Build n β} (items : List α)
    (each : ∀ b a, a ∈ items → good' b → Ensures holds good' (step b a)) {start : β}
    (h : good' start) : Ensures holds good' (items.foldlM step start) := by
  induction items generalizing start with
  | nil => exact pure h
  | cons a rest ih =>
    rw [List.foldlM_cons]
    exact bind (each start a List.mem_cons_self h) fun b known =>
      ih (fun b a listed => each b a (List.mem_cons_of_mem _ listed)) known

/-- What is ensured of the results may be forgotten. -/
theorem weaken {good₁ : α → Prop} {step : Build n α} (ensures : Ensures holds good step)
    (h : ∀ a, good a → good₁ a) : Ensures holds good₁ step := by
  intro e result e' run before
  obtain ⟨after, results⟩ := ensures e result e' run before
  exact ⟨after, fun a ok => h a (results a ok)⟩

end Build.Ensures

/-! ## Argument maps and options of fields -/

/-- Every argument of a map has a type with a property. -/
def ArgumentMap.Throughout (good : SchemaType → Prop) (arguments : ArgumentMap) : Prop :=
  ∀ argument ∈ arguments.values, good argument.type

/-- The type of a field and those of its arguments have a property. -/
structure Field.Throughout (good : SchemaType → Prop) (field : Field) : Prop where
  type : good field.type
  arguments : ArgumentMap.Throughout good field.arguments

theorem ArgumentMap.throughout_empty (good : SchemaType → Prop) :
    ArgumentMap.Throughout good .empty := by
  intro argument stored
  cases stored

theorem ArgumentMap.Throughout.insert {good : SchemaType → Prop} {arguments : ArgumentMap}
    (h : ArgumentMap.Throughout good arguments) (name : String) {argument : Argument}
    (given : good argument.type) :
    ArgumentMap.Throughout good (OrderedMap.insert arguments name argument).2 := by
  intro other stored
  rcases OrderedMap.mem_values_insert stored with rfl | old
  · exact given
  · exact h other old

namespace Build

section Steps

variable {U : Universe n} {scope : Scope n} {holds : Encoder n → Prop} {good : SchemaType → Prop}
  (notes : ∀ e event, holds e → holds (e.note event))
  (marks : ∀ type, good type → good type.required)
  (resolves : ∀ type, scope.type type → Ensures holds good (resolveType U type))

include notes in
theorem ensures_note (event : Event n) : Ensures holds (fun _ => True) (note event) := by
  intro e result e' run before
  cases run
  exact ⟨notes e event before, fun _ _ => trivial⟩

include notes marks resolves

theorem ensures_fieldType {type : TypeExpr n} (inside : scope.type type) (path name : String)
    (tag : FieldTag) : Ensures holds good (fieldType U (resolveType U) path name tag type) := by
  refine .adapt _ ?_
  unfold tagged
  refine .bind (resolves type inside) fun resolved given => ?_
  split
  · split
    · exact .bind (ensures_note notes _) fun _ _ => .pure (marks resolved given)
    · exact .pure (marks resolved given)
  · exact .pure given

theorem ensures_addArgument {type : TypeExpr n} (closed : scope.Closed U)
    (inside : scope.type type) {fields : List (RecordField n)}
    (struct : U.detail type = .struct fields) (path : String) {field : RecordField n}
    (listed : field ∈ fields) {arguments : ArgumentMap}
    (known : ArgumentMap.Throughout good arguments) :
    Ensures holds (ArgumentMap.Throughout good)
      (addArgument U (resolveType U) path arguments field) := by
  unfold addArgument
  cases content : field.content with
  | hidden | untagged => exact .pure known
  | tagged text type =>
    have part := closed.field _ _ _ _ _ struct listed content inside
    refine .bind (ensures_fieldType notes marks resolves part _ _ _) fun resolved given => ?_
    have added : ArgumentMap.Throughout good
        (OrderedMap.insert arguments (FieldTag.parse text).name { type := resolved }).2 :=
      known.insert _ given
    simp only
    split
    · exact .bind (ensures_note notes _) fun _ _ => .pure added
    · exact .pure added

theorem ensures_argsOfInfo (closed : scope.Closed U) {type : TypeExpr n}
    (inside : scope.type type) :
    Ensures holds (ArgumentMap.Throughout good) (argsOfInfo U type) := by
  rw [argsOfInfo_eq]
  rcases Universe.struct_or_not U type.withoutPointers with ⟨fields, struct⟩ | noStruct
  · rw [argumentsWith_of_struct _ struct]
    refine .foldlM fields (fun arguments field listed known => ?_)
      (ArgumentMap.throughout_empty good)
    exact ensures_addArgument notes marks resolves closed (closed.withoutPointers inside) struct _
      listed known
  · rw [argumentsWith_of_other _ noStruct]
    exact .throw _

/-- A field whose type has the property is given its options. -/
theorem ensures_options (closed : scope.Closed U) {options : List (SchemaOption n)}
    (sourced : ∀ source ∈ sources options, scope.type source)
    (replaced : ∀ replacement ∈ replacements options, good replacement) {id : ObjectId}
    (object : good (.object id)) :
    Ensures holds (Field.Throughout good) (do
      let target ← Encoder.object id
      options.foldlM (fun field option => applyToField U option field)
        ({ name := target.name, type := .object id } : Field)) := by
  have looks : Ensures holds (fun _ => True) (Encoder.object id) := by
    intro e result e' run before
    rw [outcome_object] at run
    cases run
    exact ⟨before, fun _ _ => trivial⟩
  refine looks.bind fun target _ => ?_
  refine .foldlM options (fun field option listed known => ?_)
    ⟨object, ArgumentMap.throughout_empty good⟩
  cases option with
  | description | deprecationReason | resolver => exact .pure ⟨known.type, known.arguments⟩
  | type replacement =>
    exact .pure ⟨replaced replacement (mem_replacements.2 listed), known.arguments⟩
  | defaultValue => exact .throw _
  | arguments source =>
    have inside := sourced source (mem_sources.2 listed)
    exact .bind (ensures_argsOfInfo notes marks resolves closed inside) fun _ given =>
      .pure ⟨known.type, given⟩

end Steps

end Build

end RecordSchema
