import RecordSchema.Proofs.RecordRefusals
import RecordSchema.Proofs.RecordTags

/-!
# The rules for records

A declaration becomes a record if it keeps six rules.  `RecordRule.Holds` says what each of them
asks for, `RecordRule.Reports` which error it is broken with, and `Record.Describes` what the record
of a declaration is.  None of this tells how a declaration is gone through; each rule is then shown
to be what one step of `Record.derive` checks.

The type path and the tags of fields depend on what the `record` attributes say.  These say one
thing at most (`Item.Says.eq`), so the rules can ask for it of whatever they say.
-/

namespace RecordSchema

/-! ## Rules -/

/-- The rules for records. -/
inductive RecordRule where
  | attributes
  | typePath
  | typeTags
  | form
  | generics
  | fieldTags
  deriving DecidableEq, Repr

/-- The place of a rule in the order in which the rules are looked at. -/
def RecordRule.rank : RecordRule → Nat
  | .attributes => 0
  | .typePath => 1
  | .typeTags => 2
  | .form => 3
  | .generics => 4
  | .fieldTags => 5

/-- The rule that an error is about. -/
def DeriveError.rule : DeriveError → RecordRule
  | .argumentsMissing | .argumentsNotGrouped | .malformed _ | .literalKey | .tokenKey
  | .unknownKey | .duplicateKey _ => .attributes
  | .malformedTypePath | .genericTypePath => .typePath
  | .tagOnType => .typeTags
  | .enumeration | .union => .form
  | .lifetimeParameter | .constParameter => .generics
  | .repeatedTag | .malformedTag | .tagOnClosed => .fieldTags

/-- A path that is empty, or begins or ends with `::`. -/
def CutOff (path : String) : Prop := path = "" ∨ path.startsWith "::" ∨ path.endsWith "::"

namespace Item

variable (item : Item)

/-- The `record` attributes of an item list settings, none of which is given too often, and say this
together. -/
def Says (options : RecordOptions) : Prop :=
  ∃ lists, List.Forall₂ Attribute.Lists (item.attributes.filter Attribute.isRecord) lists ∧
    RecordOptions.GivenOnce lists.flatten ∧ options = RecordOptions.ofSettings lists.flatten

/-- The fields that are described under some options: those with names, unless the type is
closed. -/
def describedFields (options : RecordOptions) : Option (List NamedField) :=
  match item.body with
  | .named fields => if options.closed then none else some fields
  | .tuple _ | .unit | .enumeration | .union => none

/-- Each field that is described has at most one tag; if none is described, no field has a tag. -/
def FieldsTagged (options : RecordOptions) : Prop :=
  match item.describedFields options with
  | some fields => ∀ field ∈ fields, ∃ tag, Tagged field.attributes tag
  | none => ∀ field ∈ item.body.fields, ¬ HasTag field.attributes

/-- What is wrong with the first field that is wrong. -/
def FieldsMistagged (options : RecordOptions) (error : DeriveError) : Prop :=
  match item.describedFields options with
  | some fields => ∃ earlier field later, fields = earlier ++ field :: later ∧
      (∀ field ∈ earlier, ∃ tag, Tagged field.attributes tag) ∧ Mistagged field.attributes error
  | none => (∃ field ∈ item.body.fields, HasTag field.attributes) ∧ error = .tagOnClosed

end Item

namespace RecordRule

/-- That an item keeps a rule. -/
def Holds (item : Item) : RecordRule → Prop
  | .attributes => ∃ options, item.Says options
  | .typePath => ∀ options path, item.Says options → options.typePath = some path →
      ¬ CutOff path.value ∧ ¬ path.value.contains '<'
  | .typeTags => ¬ HasTag item.attributes
  | .form => item.body ≠ .enumeration ∧ item.body ≠ .union
  | .generics => ∀ param ∈ item.generics, param.typeName?.isSome
  | .fieldTags => ∀ options, item.Says options → item.FieldsTagged options

/-- The error for an item that breaks a rule.  Of several attributes, parameters or fields that
break it, it is about the first one. -/
def Reports (item : Item) (error : DeriveError) : RecordRule → Prop
  | .attributes => ∃ earlier a later lists,
      item.attributes.filter Attribute.isRecord = earlier ++ a :: later ∧
      List.Forall₂ Attribute.Lists earlier lists ∧ RecordOptions.GivenOnce lists.flatten ∧
      a.Refused lists.flatten error
  | .typePath => ∃ options path, item.Says options ∧ options.typePath = some path ∧
      (CutOff path.value ∧ error = .malformedTypePath ∨
        ¬ CutOff path.value ∧ path.value.contains '<' ∧ error = .genericTypePath)
  | .typeTags => HasTag item.attributes ∧ error = .tagOnType
  | .form => item.body = .enumeration ∧ error = .enumeration ∨
      item.body = .union ∧ error = .union
  | .generics => ∃ earlier param later, item.generics = earlier ++ param :: later ∧
      (∀ param ∈ earlier, param.typeName?.isSome) ∧
      ((∃ tokens, param = .lifetime tokens) ∧ error = .lifetimeParameter ∨
        (∃ tokens, param = .const tokens) ∧ error = .constParameter)
  | .fieldTags => ∃ options, item.Says options ∧ item.FieldsMistagged options error

end RecordRule

/-- The description of a field: its name, its type and its tag as they are written. -/
def NamedField.DescribedAs (field : NamedField) (found : DerivedField) : Prop :=
  found.name = field.name ∧ found.type = field.type ∧ Tagged field.attributes found.tag

/-- A record of an item: the options that its attributes say, and its described fields in the order
of declaration. -/
structure Record.Describes (record : Record) (item : Item) : Prop where
  ofItem : record.item = item
  options : item.Says record.options
  fields : Option.Rel (List.Forall₂ NamedField.DescribedAs) (item.describedFields record.options)
    record.fields

/-! ## Each rule -/

section Rules

variable {item : Item} {options : RecordOptions} {error : DeriveError}

/-- The options are what the attributes say. -/
theorem says_iff :
    (item.attributes.filter Attribute.isRecord).foldlM RecordOptions.takeAttribute {} =
        .ok options ↔ item.Says options := by
  rw [RecordOptions.foldlM_takeAttribute_eq_ok_iff]
  simp only [RecordOptions.foldlM_add_eq_some_iff, Item.Says]

/-- Attributes say one thing. -/
theorem Item.Says.eq {options' : RecordOptions} (said : item.Says options)
    (said' : item.Says options') : options = options' :=
  Except.ok.inj ((says_iff.2 said).symm.trans (says_iff.2 said'))

theorem attributes_reported_iff :
    (item.attributes.filter Attribute.isRecord).foldlM RecordOptions.takeAttribute {} =
        .error error ↔ RecordRule.attributes.Reports item error := by
  rw [Result.foldlM_eq_error_iff]
  simp only [RecordOptions.foldlM_takeAttribute_eq_ok_iff, RecordOptions.foldlM_add_eq_some_iff,
    RecordRule.Reports]
  constructor
  · rintro ⟨earlier, a, later, _, split, ⟨lists, listed, once, rfl⟩, failed⟩
    exact ⟨earlier, a, later, lists, split, listed, once,
      (RecordOptions.takeAttribute_eq_error_iff once).1 failed⟩
  · rintro ⟨earlier, a, later, lists, split, listed, once, refused⟩
    exact ⟨earlier, a, later, _, split, ⟨lists, listed, once, rfl⟩,
      (RecordOptions.takeAttribute_eq_error_iff once).2 refused⟩

theorem check_of_typePath {path : StringLiteral} (given : options.typePath = some path) :
    (CutOff path.value ∧ options.check = .error .malformedTypePath) ∨
      (¬ CutOff path.value ∧ path.value.contains '<' ∧ options.check = .error .genericTypePath) ∨
      (¬ CutOff path.value ∧ ¬ path.value.contains '<' ∧ options.check = .ok ()) := by
  have cut : CutOff path.value ↔
      path.value.isEmpty || path.value.startsWith "::" || path.value.endsWith "::" := by
    simp only [CutOff, Bool.or_eq_true, String.isEmpty_iff, or_assoc]
  unfold RecordOptions.check
  rw [given, cut]
  dsimp only
  split
  · next isCut => exact .inl ⟨isCut, rfl⟩
  · next whole =>
    split
    · next generic => exact .inr (.inl ⟨whole, generic, rfl⟩)
    · next plain => exact .inr (.inr ⟨whole, plain, rfl⟩)

theorem checkTypePath_eq_ok_iff (said : item.Says options) :
    options.check = .ok () ↔ RecordRule.typePath.Holds item := by
  constructor
  · intro checked options' path said' given
    obtain rfl := said.eq said'
    obtain ⟨-, failed⟩ | ⟨-, -, failed⟩ | ⟨whole, plain, -⟩ := check_of_typePath given
    · cases checked.symm.trans failed
    · cases checked.symm.trans failed
    · exact ⟨whole, plain⟩
  · intro holds
    cases given : options.typePath with
    | none =>
      unfold RecordOptions.check
      rw [given]
    | some path =>
      obtain ⟨whole, plain⟩ := holds options path said given
      obtain ⟨cut, -⟩ | ⟨-, generic, -⟩ | ⟨-, -, checked⟩ := check_of_typePath given
      · exact absurd cut whole
      · exact absurd generic plain
      · exact checked

theorem typePath_reported_iff (said : item.Says options) :
    options.check = .error error ↔ RecordRule.typePath.Reports item error := by
  constructor
  · intro failed
    cases given : options.typePath with
    | none =>
      unfold RecordOptions.check at failed
      rw [given] at failed
      cases failed
    | some path =>
      refine ⟨options, path, said, given, ?_⟩
      obtain ⟨cut, reported⟩ | ⟨whole, generic, reported⟩ | ⟨-, -, checked⟩ :=
        check_of_typePath given
      · cases failed.symm.trans reported
        exact .inl ⟨cut, rfl⟩
      · cases failed.symm.trans reported
        exact .inr ⟨whole, generic, rfl⟩
      · cases failed.symm.trans checked
  · rintro ⟨options', path, said', given, broken⟩
    obtain rfl := said.eq said'
    obtain ⟨cut, reported⟩ | ⟨whole, generic, reported⟩ | ⟨whole, plain, -⟩ :=
      check_of_typePath given
    · obtain ⟨-, rfl⟩ | ⟨whole, -⟩ := broken
      · exact reported
      · exact absurd cut whole
    · obtain ⟨cut, -⟩ | ⟨-, -, rfl⟩ := broken
      · exact absurd cut whole
      · exact reported
    · obtain ⟨cut, -⟩ | ⟨-, generic, -⟩ := broken
      · exact absurd cut whole
      · exact absurd generic plain

theorem checkForm_eq_ok_iff :
    Record.checkForm item.body = .ok () ↔ RecordRule.form.Holds item := by
  unfold RecordRule.Holds
  cases item.body <;> simp [Record.checkForm]

theorem form_reported_iff :
    Record.checkForm item.body = .error error ↔ RecordRule.form.Reports item error := by
  unfold RecordRule.Reports
  cases item.body <;> simp [Record.checkForm, eq_comm]

/-- What one generic parameter is checked for. -/
def checkParam : GenericParam → Except DeriveError Unit
  | .lifetime _ => .error .lifetimeParameter
  | .const _ => .error .constParameter
  | .type _ _ _ _ => .ok ()

theorem checkGenerics_eq_forM (params : List GenericParam) :
    Record.checkGenerics params = params.forM checkParam := by
  induction params with
  | nil => rfl
  | cons param rest ih =>
    rw [Result.forM_cons, ← ih]
    cases param <;> rfl

theorem checkParam_eq_ok_iff {param : GenericParam} :
    checkParam param = .ok () ↔ param.typeName?.isSome := by
  cases param <;> simp [checkParam, GenericParam.typeName?]

theorem checkParam_eq_error_iff {param : GenericParam} :
    checkParam param = .error error ↔
      (∃ tokens, param = .lifetime tokens) ∧ error = .lifetimeParameter ∨
        (∃ tokens, param = .const tokens) ∧ error = .constParameter := by
  cases param <;> simp [checkParam, eq_comm]

theorem checkGenerics_eq_ok_iff :
    Record.checkGenerics item.generics = .ok () ↔ RecordRule.generics.Holds item := by
  rw [checkGenerics_eq_forM, Result.forM_eq_ok_iff]
  simp only [checkParam_eq_ok_iff, RecordRule.Holds]

theorem generics_reported_iff :
    Record.checkGenerics item.generics = .error error ↔
      RecordRule.generics.Reports item error := by
  rw [checkGenerics_eq_forM, Result.forM_eq_error_iff]
  simp only [checkParam_eq_ok_iff, checkParam_eq_error_iff, RecordRule.Reports]

theorem deriveField_eq_ok_iff {field : NamedField} {found : DerivedField} :
    Record.deriveField field = .ok found ↔ field.DescribedAs found := by
  unfold Record.deriveField NamedField.DescribedAs
  rw [Result.bind_eq_ok_iff]
  simp only [tagOf_eq_ok_iff]
  constructor
  · rintro ⟨tag, tagged, ⟨⟩⟩
    exact ⟨rfl, rfl, tagged⟩
  · obtain ⟨name, type, tag⟩ := found
    rintro ⟨rfl, rfl, tagged⟩
    exact ⟨tag, tagged, rfl⟩

theorem deriveField_eq_error_iff {field : NamedField} :
    Record.deriveField field = .error error ↔ Mistagged field.attributes error := by
  unfold Record.deriveField
  rw [Result.bind_eq_error_iff, tagOf_eq_error_iff]
  constructor
  · rintro (wrong | ⟨_, _, ⟨⟩⟩)
    exact wrong
  · exact .inl

/-- A field can be described just if its tag can be read off. -/
theorem deriveField_isOk_iff {field : NamedField} :
    (∃ found, Record.deriveField field = .ok found) ↔ ∃ tag, Tagged field.attributes tag := by
  simp only [deriveField_eq_ok_iff]
  constructor
  · rintro ⟨found, -, -, tagged⟩
    exact ⟨found.tag, tagged⟩
  · rintro ⟨tag, tagged⟩
    exact ⟨⟨field.name, field.type, tag⟩, rfl, rfl, tagged⟩

/-- Fields with names are described unless the type is closed. -/
theorem deriveFields_of_described {fields : List NamedField}
    (described : item.describedFields options = some fields) :
    Record.deriveFields options item.body = some <$> fields.mapM Record.deriveField := by
  unfold Item.describedFields at described
  split at described
  · next named body =>
    rw [body]
    cases closed : options.closed with
    | true =>
      rw [closed, if_pos rfl] at described
      cases described
    | false =>
      rw [closed, if_neg Bool.false_ne_true] at described
      cases described
      unfold Record.deriveFields
      rw [closed]
  · cases described
  · cases described
  · cases described
  · cases described

/-- Where no field is described, no field may have a tag. -/
theorem deriveFields_of_undescribed (undescribed : item.describedFields options = none) :
    Record.deriveFields options item.body =
      (item.body.fields.forM fun field => Record.forbidTags field.attributes .tagOnClosed) >>=
        fun _ => .ok none := by
  unfold Record.deriveFields
  split
  · next fields closed body =>
    unfold Item.describedFields at undescribed
    rw [body, closed] at undescribed
    cases undescribed
  · rfl

theorem fieldsTagged_iff (said : item.Says options) :
    RecordRule.fieldTags.Holds item ↔ item.FieldsTagged options := by
  constructor
  · exact fun holds => holds options said
  · intro tagged options' said'
    exact said.eq said' ▸ tagged

theorem deriveFields_eq_ok_iff {found : Option (List DerivedField)} :
    Record.deriveFields options item.body = .ok found ↔
      item.FieldsTagged options ∧
        Option.Rel (List.Forall₂ NamedField.DescribedAs) (item.describedFields options) found := by
  unfold Item.FieldsTagged
  cases described : item.describedFields options with
  | some fields =>
    rw [deriveFields_of_described described]
    refine Result.map_eq_ok_iff.trans ?_
    constructor
    · rintro ⟨each, derived, rfl⟩
      refine ⟨fun field listed => ?_, .some ?_⟩
      · exact deriveField_isOk_iff.1 (Result.mapM_isOk_iff.1 ⟨each, derived⟩ field listed)
      · exact (Result.mapM_eq_ok_iff.1 derived).imp fun _ _ => deriveField_eq_ok_iff.1
    · rintro ⟨-, related⟩
      cases related with
      | some related =>
        exact ⟨_, Result.mapM_eq_ok_iff.2 (related.imp fun _ _ => deriveField_eq_ok_iff.2), rfl⟩
  | none =>
    rw [deriveFields_of_undescribed described, Result.bind_eq_ok_iff]
    constructor
    · rintro ⟨⟨⟩, untagged, ⟨⟩⟩
      refine ⟨fun field listed => ?_, .none⟩
      exact forbidTags_eq_ok_iff.1 (Result.forM_eq_ok_iff.1 untagged field listed)
    · rintro ⟨untagged, related⟩
      cases related
      refine ⟨⟨⟩, Result.forM_eq_ok_iff.2 fun field listed => ?_, rfl⟩
      exact forbidTags_eq_ok_iff.2 (untagged field listed)

/-- The fields can be dealt with just if they have the tags that they may have. -/
theorem deriveFields_isOk_iff :
    (∃ found, Record.deriveFields options item.body = .ok found) ↔ item.FieldsTagged options := by
  constructor
  · rintro ⟨found, derived⟩
    exact (deriveFields_eq_ok_iff.1 derived).1
  · intro tagged
    cases described : item.describedFields options with
    | some fields =>
      have each := tagged
      unfold Item.FieldsTagged at each
      rw [described] at each
      obtain ⟨found, derived⟩ := Result.mapM_isOk_iff.2 fun field listed =>
        deriveField_isOk_iff.2 (each field listed)
      rw [deriveFields_of_described described, derived]
      exact ⟨some found, rfl⟩
    | none =>
      refine ⟨none, deriveFields_eq_ok_iff.2 ⟨tagged, ?_⟩⟩
      rw [described]
      exact .none

theorem deriveFields_eq_error_iff :
    Record.deriveFields options item.body = .error error ↔ item.FieldsMistagged options error := by
  unfold Item.FieldsMistagged
  cases described : item.describedFields options with
  | some fields =>
    rw [deriveFields_of_described described]
    refine Result.map_eq_error_iff.trans (Result.mapM_eq_error_iff.trans ?_)
    simp only [deriveField_isOk_iff, deriveField_eq_error_iff]
  | none =>
    rw [deriveFields_of_undescribed described, Result.bind_eq_error_iff]
    constructor
    · rintro (failed | ⟨_, _, ⟨⟩⟩)
      obtain ⟨earlier, field, later, split, -, failed⟩ := Result.forM_eq_error_iff.1 failed
      obtain ⟨tagged, rfl⟩ := forbidTags_eq_error_iff.1 failed
      exact ⟨⟨field, by simp [split], tagged⟩, rfl⟩
    · rintro ⟨⟨field, listed, tagged⟩, rfl⟩
      obtain ⟨⟨⟩, untagged⟩ | ⟨reported, failed⟩ := Result.ok_or_error
        (item.body.fields.forM fun field => Record.forbidTags field.attributes .tagOnClosed)
      · exact absurd tagged (forbidTags_eq_ok_iff.1 (Result.forM_eq_ok_iff.1 untagged field listed))
      · obtain ⟨_, _, _, _, _, first⟩ := Result.forM_eq_error_iff.1 failed
        obtain ⟨-, rfl⟩ := forbidTags_eq_error_iff.1 first
        exact .inl failed

end Rules

end RecordSchema
