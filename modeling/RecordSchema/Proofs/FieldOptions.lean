import RecordSchema.Proofs.ObjectRequests

/-!
# Options of a field

The options of a field are applied from left to right, but each kind of option changes an attribute
of its own, and the last option of a kind decides.  What a field becomes, and whether it becomes
anything, is therefore told by the options of each kind alone (`fieldOf_eq_ok_iff`), and options of
different kinds may trade places.

The one kind that does more than this is `SchemaOption.arguments`: each such option builds an
argument map and so changes the encoder, and each may fail, even if a later one decides.  No other
option looks at the encoder.  So the maps are built one after the other, in the order of their
options, wherever the others stand.
-/

namespace RecordSchema

variable {n : Nat}

open Encoder

/-! ## Kinds of options -/

/-- The kinds of options, one for each attribute. -/
inductive OptionKind where
  | description
  | defaultValue
  | deprecationReason
  | resolver
  | type
  | arguments
  deriving DecidableEq, Repr

namespace SchemaOption

def kind : SchemaOption n → OptionKind
  | .description _ => .description
  | .defaultValue _ => .defaultValue
  | .deprecationReason _ => .deprecationReason
  | .resolver _ => .resolver
  | .type _ => .type
  | .arguments _ => .arguments

/-- The reason of a deprecation. -/
def deprecationReason? : SchemaOption n → Option String
  | .deprecationReason reason => some reason
  | _ => none

/-- The resolver that an option gives. -/
def resolver? : SchemaOption n → Option Resolver
  | .resolver replacement => some replacement
  | _ => none

/-- The type that an option gives. -/
def type? : SchemaOption n → Option SchemaType
  | .type replacement => some replacement
  | _ => none

/-- The type whose fields an option takes as arguments. -/
def source? : SchemaOption n → Option (TypeExpr n)
  | .arguments source => some source
  | _ => none

/-- What the last of the options says to which a question applies. -/
def last? {α : Type} (question : SchemaOption n → Option α) (options : List (SchemaOption n)) :
    Option α :=
  (options.filterMap question).getLast?

/-- A question applies to options of one kind only. -/
def AsksAbout {α : Type} (kind : OptionKind) (question : SchemaOption n → Option α) : Prop :=
  ∀ option, option.kind ≠ kind → question option = none

/-- Two lists hold the same options of each kind in the same order. -/
def SameByKind (options options' : List (SchemaOption n)) : Prop :=
  ∀ kind, options.filter (·.kind = kind) = options'.filter (·.kind = kind)

section Kinds

variable {α : Type} {question : SchemaOption n → Option α} {kind : OptionKind}
  {options options' : List (SchemaOption n)}

/-- Such lists are permutations of each other. -/
theorem SameByKind.perm (same : SameByKind options options') : options.Perm options' := by
  rw [List.perm_iff_count]
  intro option
  have kept : ∀ options : List (SchemaOption n),
      (options.filter (·.kind = option.kind)).count option = options.count option :=
    fun options => List.count_filter (by simp)
  rw [← kept options, same option.kind, kept]

/-- A question about one kind of options has the same answers in both lists. -/
theorem SameByKind.filterMap_eq (same : SameByKind options options')
    (about : AsksAbout kind question) :
    options.filterMap question = options'.filterMap question := by
  have kept : ∀ options : List (SchemaOption n),
      (options.filter (·.kind = kind)).filterMap question = options.filterMap question := by
    intro options
    rw [List.filterMap_filter]
    congr 1
    funext option
    by_cases own : option.kind = kind
    · simp [own]
    · simp [own, about option own]
  rw [← kept options, same kind, kept]

theorem SameByKind.last?_eq (same : SameByKind options options') (about : AsksAbout kind question) :
    last? question options = last? question options' := by
  unfold last?
  rw [same.filterMap_eq about]

theorem last?_cons (question : SchemaOption n → Option α) (option : SchemaOption n)
    (rest : List (SchemaOption n)) :
    last? question (option :: rest) = (last? question rest).or (question option) := by
  unfold last?
  cases answer : question option with
  | none => rw [List.filterMap_cons_none answer, Option.or_none]
  | some a =>
    rw [List.filterMap_cons_some answer, List.getLast?_cons]
    cases (rest.filterMap question).getLast? <;> rfl

end Kinds

/-- Each question about an attribute asks about the options of its own kind. -/
theorem questions_askAbout :
    AsksAbout .description (@description? n) ∧
    AsksAbout .deprecationReason (@deprecationReason? n) ∧ AsksAbout .resolver (@resolver? n) ∧
    AsksAbout .type (@type? n) ∧ AsksAbout .arguments (@source? n) := by
  refine ⟨?_, ?_, ?_, ?_, ?_⟩ <;>
  · rintro (_ | _ | _ | _ | _ | _) other <;> first | rfl | exact absurd rfl other

end SchemaOption

/-! ## Fields with options -/

open SchemaOption

/-- A field with its options, given the argument maps of those that ask for one. -/
def Field.withOptions (field : Field) (options : List (SchemaOption n))
    (maps : List ArgumentMap) : Field where
  name := field.name
  type := (last? type? options).getD field.type
  description := (last? description? options).or field.description
  deprecationReason := (last? deprecationReason? options).or field.deprecationReason
  resolver := (last? resolver? options).or field.resolver
  arguments := maps.getLast?.getD field.arguments

/-- The argument maps of the options that ask for one, built one after the other. -/
def Encoder.argumentMaps (U : Universe n) (options : List (SchemaOption n)) :
    Build n (List ArgumentMap) :=
  (Build.sources options).mapM (argsOfInfo U)

theorem Build.outcome_bind_eq_ok_iff {α β : Type} {step : Build n α} {next : α → Build n β}
    {e e' : Encoder n} {b : β} : (step >>= next).outcome e = some (.ok b, e') ↔
      ∃ a e₁, step.outcome e = some (.ok a, e₁) ∧ (next a).outcome e₁ = some (.ok b, e') := by
  rw [outcome_bind, Option.bind_eq_some_iff]
  constructor
  · rintro ⟨⟨error | a, e₁⟩, first, second⟩
    · cases second
    · exact ⟨a, e₁, first, second⟩
  · rintro ⟨a, e₁, first, second⟩
    exact ⟨(.ok a, e₁), first, second⟩

section Fields

variable {U : Universe n} {e e' : Encoder n} {options options' : List (SchemaOption n)}
  {field field' : Field} {type : TypeExpr n}

theorem Encoder.argumentMaps_cons (source : TypeExpr n) (rest : List (SchemaOption n)) :
    argumentMaps U (.arguments source :: rest) = (do
      let first ← argsOfInfo U source
      let others ← argumentMaps U rest
      return first :: others) := by
  change (source :: Build.sources rest).mapM (argsOfInfo U) = _
  rw [List.mapM_cons]
  rfl

/-- The map of an option replaces that of the field, and is replaced by that of a later option. -/
theorem Field.withOptions_cons_arguments (field : Field) (source : TypeExpr n)
    (rest : List (SchemaOption n)) (map : ArgumentMap) (maps : List ArgumentMap) :
    ({ field with arguments := map } : Field).withOptions rest maps =
      field.withOptions (.arguments source :: rest) (map :: maps) := by
  simp only [Field.withOptions, last?_cons, description?, deprecationReason?, resolver?, type?,
    Option.or_none, List.getLast?_cons, Option.getD_some]

/-- Applying options to a field succeeds if none is a default value and all argument maps can be
built.  Each attribute is then as the last option of its kind says. -/
theorem Encoder.foldlM_applyToField_eq_ok_iff :
    (options.foldlM (fun field option => applyToField U option field) field).outcome e =
        some (.ok field', e') ↔
      (∀ option ∈ options, option.kind ≠ .defaultValue) ∧
      ∃ maps, (argumentMaps U options).outcome e = some (.ok maps, e') ∧
        field' = field.withOptions options maps := by
  -- By induction on the options.  Only an option for arguments changes the encoder, so the maps of
  -- the other options are built from the encoder that this one leaves.
  induction options generalizing field e with
  | nil =>
    simp only [List.foldlM_nil, argumentMaps, Build.sources, List.filterMap_nil, List.mapM_nil,
      Build.outcome_pure]
    constructor
    · rintro ⟨⟩
      exact ⟨by simp, [], rfl, rfl⟩
    · rintro ⟨-, _, ⟨⟩, rfl⟩
      rfl
  | cons option rest ih =>
    rw [List.foldlM_cons, List.forall_mem_cons]
    cases option with
    | description | deprecationReason | resolver | type =>
      rw [Build.outcome_bind_ok rfl, ih]
      simp [kind, argumentMaps, Build.sources, Field.withOptions, last?_cons, description?,
        deprecationReason?, resolver?, type?]
    | defaultValue value =>
      rw [Build.outcome_bind_error rfl]
      constructor
      · rintro ⟨⟩
      · rintro ⟨⟨allowed, -⟩, -⟩
        exact absurd rfl allowed
    | arguments source =>
      rw [Build.outcome_bind_eq_ok_iff, argumentMaps_cons]
      constructor
      · rintro ⟨changed, e₁, first, others⟩
        obtain ⟨map, e₂, built, same⟩ := Build.outcome_bind_eq_ok_iff.1 first
        cases same
        obtain ⟨allowed, maps, listed, rfl⟩ := ih.1 others
        refine ⟨⟨by simp [kind], allowed⟩, map :: maps, ?_, ?_⟩
        · exact Build.outcome_bind_eq_ok_iff.2
            ⟨map, e₁, built, Build.outcome_bind_eq_ok_iff.2 ⟨maps, e', listed, rfl⟩⟩
        · exact field.withOptions_cons_arguments source rest map maps
      · rintro ⟨⟨-, allowed⟩, all, run, rfl⟩
        obtain ⟨map, e₁, built, run⟩ := Build.outcome_bind_eq_ok_iff.1 run
        obtain ⟨maps, e₂, listed, same⟩ := Build.outcome_bind_eq_ok_iff.1 run
        cases same
        refine ⟨{ field with arguments := map }, e₁, ?_, ?_⟩
        · exact Build.outcome_bind_eq_ok_iff.2 ⟨map, e₁, built, rfl⟩
        · have same := field.withOptions_cons_arguments source rest map maps
          exact ih.2 ⟨allowed, maps, listed, same.symm⟩

/-- A request for a field with options succeeds if it does without, no option is a default value,
and the argument maps can be built next.  The field is the one without options up to the attributes
for which there is an option. -/
theorem Encoder.fieldOf_eq_ok_iff :
    (fieldOf U type options).outcome e = some (.ok field, e') ↔
      (∀ option ∈ options, option.kind ≠ .defaultValue) ∧
      ∃ bare e₁ maps, (fieldOf U type []).outcome e = some (.ok bare, e₁) ∧
        (argumentMaps U options).outcome e₁ = some (.ok maps, e') ∧
        field = bare.withOptions options maps := by
  unfold fieldOf
  simp only [Build.outcome_bind_eq_ok_iff, foldlM_applyToField_eq_ok_iff]
  constructor
  · rintro ⟨id, e₁, began, target, e₂, found, allowed, maps, listed, rfl⟩
    refine ⟨allowed, { name := target.name, type := .object id }, e₂, maps, ?_, listed, rfl⟩
    exact ⟨id, e₁, began, target, e₂, found, by simp, [], rfl, rfl⟩
  · rintro ⟨allowed, bare, e₃, maps, ⟨id, e₁, began, target, e₂, found, -, none, unasked, rfl⟩,
      listed, rfl⟩
    cases unasked
    exact ⟨id, e₁, began, target, _, found, allowed, maps, listed, rfl⟩

theorem SchemaOption.SameByKind.argumentMaps_eq (same : SameByKind options options') :
    argumentMaps U options = argumentMaps U options' := by
  obtain ⟨-, -, -, -, source⟩ := @questions_askAbout n
  have sources : Build.sources options = Build.sources options' := same.filterMap_eq source
  unfold argumentMaps
  rw [sources]

theorem SchemaOption.SameByKind.withOptions_eq (same : SameByKind options options')
    (field : Field) (maps : List ArgumentMap) :
    field.withOptions options maps = field.withOptions options' maps := by
  obtain ⟨description, reason, resolver, type, -⟩ := @questions_askAbout n
  unfold Field.withOptions
  rw [same.last?_eq type, same.last?_eq description, same.last?_eq reason, same.last?_eq resolver]

theorem SchemaOption.SameByKind.allowed_iff (same : SameByKind options options') :
    (∀ option ∈ options, option.kind ≠ .defaultValue) ↔
      ∀ option ∈ options', option.kind ≠ .defaultValue := by
  simp only [same.perm.mem_iff]

/-- The maps are built in order, so the last source comes last, on the encoder that all others left.
-/
theorem Encoder.last_of_argumentMaps {maps : List ArgumentMap} {source : TypeExpr n}
    (run : (argumentMaps U options).outcome e = some (.ok maps, e'))
    (last : (Build.sources options).getLast? = some source) :
    ∃ map e₁, maps.getLast? = some map ∧ (argsOfInfo U source).outcome e₁ = some (.ok map, e') := by
  obtain ⟨before, split⟩ := List.getLast?_eq_some_iff.1 last
  unfold argumentMaps at run
  rw [split, List.mapM_append] at run
  obtain ⟨earlier, e₁, -, run⟩ := Build.outcome_bind_eq_ok_iff.1 run
  obtain ⟨listed, e₂, run, same⟩ := Build.outcome_bind_eq_ok_iff.1 run
  cases same
  rw [List.mapM_cons] at run
  obtain ⟨map, e₃, built, run⟩ := Build.outcome_bind_eq_ok_iff.1 run
  cases run
  exact ⟨map, e₁, by simp, built⟩

end Fields

/-- **Options of different kinds commute, and the last one of a kind wins.**  Two lists hold the
same options of each kind in the same order.  On every encoder a request for a field with the one
list succeeds just if it does with the other, and then gives the same field and leaves the same
encoder.  The field is that of a request without options, but for what the last option of each kind
says; the arguments are those of the last source, whose map was built after all others. -/
theorem Encoder.options_of_different_kinds_commute (U : Universe n) (e : Encoder n)
    (type : TypeExpr n) {options options' : List (SchemaOption n)}
    (same : SameByKind options options') :
    (∀ field e', (fieldOf U type options).outcome e = some (.ok field, e') ↔
      (fieldOf U type options').outcome e = some (.ok field, e')) ∧
    ∀ field e', (fieldOf U type options).outcome e = some (.ok field, e') →
      ∃ bare e₁ maps, (fieldOf U type []).outcome e = some (.ok bare, e₁) ∧
        (argumentMaps U options).outcome e₁ = some (.ok maps, e') ∧
        field = bare.withOptions options maps ∧
        (Build.sources options = [] → field.arguments = bare.arguments ∧ e' = e₁) ∧
        ∀ source, (Build.sources options).getLast? = some source → ∃ e₂,
          (argsOfInfo U source).outcome e₂ = some (.ok field.arguments, e') := by
  refine ⟨fun field e' => ?_, fun field e' run => ?_⟩
  · rw [fieldOf_eq_ok_iff, fieldOf_eq_ok_iff, same.allowed_iff, same.argumentMaps_eq]
    simp only [same.withOptions_eq]
  · obtain ⟨-, bare, e₁, maps, began, built, rfl⟩ := fieldOf_eq_ok_iff.1 run
    refine ⟨bare, e₁, maps, began, built, rfl, fun unasked => ?_, fun source last => ?_⟩
    · unfold argumentMaps at built
      rw [unasked] at built
      cases built
      exact ⟨rfl, rfl⟩
    · obtain ⟨map, e₂, found, ran⟩ := last_of_argumentMaps built last
      refine ⟨e₂, ?_⟩
      rw [ran, Field.withOptions, found]
      rfl

namespace Sample

/-- Two descriptions and two sources of arguments, of which the second ones win. -/
def nodeOptions : List (SchemaOption 4) :=
  [.description "Old.", .arguments node, .type (.list (.object ⟨1⟩)), .description "A node.",
   .arguments (.declared 3)]

/-- The same options of each kind in the same order. -/
def sortedNodeOptions : List (SchemaOption 4) :=
  [.arguments node, .arguments (.declared 3), .description "Old.", .description "A node.",
   .type (.list (.object ⟨1⟩))]

theorem sameByKind_nodeOptions : SameByKind nodeOptions sortedNodeOptions := by
  intro kind
  cases kind <;> rfl

end Sample

/-- Both lists give the field the second description and the arguments of the second source. -/
theorem Sample.options_of_nodes_commute :
    SameByKind nodeOptions sortedNodeOptions ∧ ∃ field e',
      (fieldOf types node nodeOptions).outcome (.new types .qualified) = some (.ok field, e') ∧
      (fieldOf types node sortedNodeOptions).outcome (.new types .qualified) =
        some (.ok field, e') ∧
      field.description = some "A node." ∧ field.arguments.names = ["amount"] ∧
      e'.begun = [node] := by
  have shown : ((fieldOf types node nodeOptions).outcome (.new types .qualified)).bind (fun r =>
      (r.1.toOption).map fun field => (field.description, field.arguments.names, r.2.begun)) =
        some (some "A node.", ["amount"], [node]) := by decide +kernel
  obtain ⟨same, -⟩ := Encoder.options_of_different_kinds_commute types (.new types .qualified) node
    sameByKind_nodeOptions
  obtain ⟨⟨result, e'⟩, run, seen⟩ := Option.bind_eq_some_iff.1 shown
  cases result with
  | error error => cases seen
  | ok field =>
    have parts := Option.some.inj seen
    simp only [Prod.mk.injEq] at parts
    obtain ⟨described, named, begun⟩ := parts
    exact ⟨sameByKind_nodeOptions, field, e', run, (same field e').1 run, described, named, begun⟩

end RecordSchema
