import RecordSchema.Proofs.RecordRules

/-!
# Which declarations are records

`Record.derive` accepts a declaration just if it keeps all rules, and refuses it for the first one
that it breaks (`Record.derive_follows_rules`).  Each error belongs to one rule
(`DeriveError.rule`), so an error tells also which rules were kept.

That the first broken rule is reported takes no look at the steps: some rule is the first that is
broken, it reports an error, and with the rules before it kept that is the error of the declaration.
-/

namespace RecordSchema

/-! ## Errors in attributes -/

open Reader ReaderOf RecordSetting in
/-- No name of a key is read: something else stands there, or a path goes wrong after its `::`. -/
theorem RecordOptions.readName_error_rule {start : Cursor} {error : DeriveError}
    (failed : readName.outcome start = .error error) : error.rule = .attributes := by
  have syntactic {α : Type} {reader : Reader α} {here : Cursor}
      (failed : (liftM reader : ReaderOf DeriveError α).outcome here = .error error) :
      error.rule = .attributes := by
    rw [outcome_liftM, Result.mapError_eq_error_iff] at failed
    obtain ⟨_, -, rfl⟩ := failed
    rfl
  unfold readName at failed
  obtain failed | ⟨colons, here, -, failed⟩ := outcome_bind_eq_error_iff.1 failed
  · exact syntactic failed
  obtain failed | ⟨first, there, -, failed⟩ := outcome_bind_eq_error_iff.1 failed
  · unfold firstWord at failed
    rw [outcome_bind_of_ok (outcome_cursor here)] at failed
    dsimp only at failed
    split at failed
    · exact syntactic failed
    · split at failed
      · exact syntactic failed
      · split at failed <;> cases failed <;> rfl
  obtain failed | ⟨further, last, -, failed⟩ := outcome_bind_eq_error_iff.1 failed
  · exact syntactic failed
  · split at failed <;> cases failed

theorem RecordSetting.Wrong.rule_eq {earlier : List RecordSetting} {start : Cursor}
    {error : DeriveError} (wrong : RecordSetting.Wrong earlier start error) :
    error.rule = .attributes := by
  cases wrong with
  | name failed => exact RecordOptions.readName_error_rule failed
  | unknown | again => rfl
  | value _ _ wrong => cases wrong <;> rfl

theorem Attribute.Refused.rule_eq {earlier : List RecordSetting} {a : Attribute}
    {error : DeriveError} (refused : a.Refused earlier error) : error.rule = .attributes := by
  cases refused with
  | bare | value | comma | leftOver => rfl
  | setting _ _ _ wrong => exact wrong.rule_eq

/-! ## Keeping and breaking rules -/

namespace RecordRule

variable {item : Item} {error : DeriveError}

/-- A rule that is not kept reports an error. -/
theorem holds_or_reports (rule : RecordRule) (item : Item) :
    rule.Holds item ∨ ∃ error, rule.Reports item error := by
  cases rule with
  | attributes =>
    obtain ⟨options, taken⟩ | ⟨error, failed⟩ := Result.ok_or_error
      ((item.attributes.filter Attribute.isRecord).foldlM RecordOptions.takeAttribute {})
    · exact .inl ⟨options, says_iff.1 taken⟩
    · exact .inr ⟨error, attributes_reported_iff.1 failed⟩
  | typePath =>
    by_cases said : ∃ options, item.Says options
    · obtain ⟨options, said⟩ := said
      obtain ⟨⟨⟩, checked⟩ | ⟨error, failed⟩ := Result.ok_or_error options.check
      · exact .inl ((checkTypePath_eq_ok_iff said).1 checked)
      · exact .inr ⟨error, (typePath_reported_iff said).1 failed⟩
    · exact .inl fun options _ said' => absurd ⟨options, said'⟩ said
  | typeTags =>
    by_cases tagged : HasTag item.attributes
    · exact .inr ⟨.tagOnType, tagged, rfl⟩
    · exact .inl tagged
  | form =>
    obtain ⟨⟨⟩, checked⟩ | ⟨error, failed⟩ := Result.ok_or_error (Record.checkForm item.body)
    · exact .inl (checkForm_eq_ok_iff.1 checked)
    · exact .inr ⟨error, form_reported_iff.1 failed⟩
  | generics =>
    obtain ⟨⟨⟩, checked⟩ | ⟨error, failed⟩ :=
      Result.ok_or_error (Record.checkGenerics item.generics)
    · exact .inl (checkGenerics_eq_ok_iff.1 checked)
    · exact .inr ⟨error, generics_reported_iff.1 failed⟩
  | fieldTags =>
    by_cases said : ∃ options, item.Says options
    · obtain ⟨options, said⟩ := said
      obtain derived | ⟨error, failed⟩ :=
        Result.ok_or_error (Record.deriveFields options item.body)
      · exact .inl ((fieldsTagged_iff said).2 (deriveFields_isOk_iff.1 derived))
      · exact .inr ⟨error, options, said, deriveFields_eq_error_iff.1 failed⟩
    · exact .inl fun options said' => absurd ⟨options, said'⟩ said

/-- If not all rules are kept, there is a first one that is broken. -/
theorem exists_first_broken (broken : ¬ ∀ rule : RecordRule, rule.Holds item) :
    ∃ (rule : RecordRule) (error : DeriveError), rule.Reports item error ∧
      ∀ earlier : RecordRule, earlier.rank < rule.rank → earlier.Holds item := by
  by_contra none
  refine broken fun rule => ?_
  induction place : rule.rank using Nat.strongRecOn generalizing rule with
  | _ rank ih =>
    subst place
    have kept : ∀ earlier : RecordRule, earlier.rank < rule.rank → earlier.Holds item :=
      fun earlier before => ih earlier.rank before earlier rfl
    obtain holds | ⟨error, reports⟩ := rule.holds_or_reports item
    · exact holds
    · exact absurd ⟨rule, error, reports, kept⟩ none

/-- An error belongs to the rule that reports it. -/
theorem Reports.rule_eq {rule : RecordRule} (reports : rule.Reports item error) :
    error.rule = rule := by
  cases rule with
  | attributes =>
    obtain ⟨_, a, _, lists, -, -, -, refused⟩ := reports
    exact refused.rule_eq
  | typePath =>
    obtain ⟨_, _, _, _, ⟨-, rfl⟩ | ⟨-, -, rfl⟩⟩ := reports <;> rfl
  | typeTags =>
    obtain ⟨-, rfl⟩ := reports
    rfl
  | form => obtain ⟨-, rfl⟩ | ⟨-, rfl⟩ := reports <;> rfl
  | generics => obtain ⟨_, _, _, -, -, ⟨-, rfl⟩ | ⟨-, rfl⟩⟩ := reports <;> rfl
  | fieldTags =>
    obtain ⟨options, -, wrong⟩ := reports
    unfold Item.FieldsMistagged at wrong
    split at wrong
    · obtain ⟨_, field, _, -, -, mistagged⟩ := wrong
      cases mistagged <;> rfl
    · obtain ⟨-, rfl⟩ := wrong
      rfl

end RecordRule

/-! ## Deriving records -/

namespace Record

variable {item : Item} {record : Record} {options : RecordOptions} {error : DeriveError}

/-- What is left to check once the options are known. -/
theorem derive_of_said (said : item.Says options) :
    derive item =
      options.check >>= fun _ => forbidTags item.attributes .tagOnType >>= fun _ =>
        checkForm item.body >>= fun _ => checkGenerics item.generics >>= fun _ =>
          deriveFields options item.body >>= fun fields => .ok { item, options, fields } := by
  unfold derive RecordOptions.ofAttributes
  rw [says_iff.2 said]
  change (options.check >>= fun _ => .ok options) >>= _ = _
  rw [bind_assoc]
  rfl

theorem derive_of_unsaid (reported : RecordRule.attributes.Reports item error) :
    derive item = .error error := by
  unfold derive RecordOptions.ofAttributes
  rw [attributes_reported_iff.2 reported]
  rfl

/-- **An item is accepted** just if it keeps all rules, and it becomes its record. -/
theorem derive_eq_ok_iff :
    derive item = .ok record ↔ (∀ rule : RecordRule, rule.Holds item) ∧ record.Describes item := by
  constructor
  · intro accepted
    obtain ⟨options, said⟩ : RecordRule.attributes.Holds item := by
      obtain holds | ⟨error, reported⟩ := RecordRule.attributes.holds_or_reports item
      · exact holds
      · cases accepted.symm.trans (derive_of_unsaid reported)
    rw [derive_of_said said] at accepted
    obtain ⟨⟨⟩, typePath, accepted⟩ := Result.bind_eq_ok_iff.1 accepted
    obtain ⟨⟨⟩, typeTags, accepted⟩ := Result.bind_eq_ok_iff.1 accepted
    obtain ⟨⟨⟩, form, accepted⟩ := Result.bind_eq_ok_iff.1 accepted
    obtain ⟨⟨⟩, generics, accepted⟩ := Result.bind_eq_ok_iff.1 accepted
    obtain ⟨fields, derived, ⟨⟩⟩ := Result.bind_eq_ok_iff.1 accepted
    obtain ⟨tagged, related⟩ := deriveFields_eq_ok_iff.1 derived
    refine ⟨fun rule => ?_, ⟨rfl, said, related⟩⟩
    cases rule with
    | attributes => exact ⟨options, said⟩
    | typePath => exact (checkTypePath_eq_ok_iff said).1 typePath
    | typeTags => exact forbidTags_eq_ok_iff.1 typeTags
    | form => exact checkForm_eq_ok_iff.1 form
    | generics => exact checkGenerics_eq_ok_iff.1 generics
    | fieldTags => exact (fieldsTagged_iff said).2 tagged
  · rintro ⟨holds, describes⟩
    obtain ⟨of, options, fields⟩ := record
    obtain ⟨rfl, said, related⟩ := describes
    rw [derive_of_said said, (checkTypePath_eq_ok_iff said).2 (holds .typePath),
      forbidTags_eq_ok_iff.2 (holds .typeTags), checkForm_eq_ok_iff.2 (holds .form),
      checkGenerics_eq_ok_iff.2 (holds .generics),
      deriveFields_eq_ok_iff.2 ⟨(fieldsTagged_iff said).1 (holds .fieldTags), related⟩]
    rfl

/-- Whatever keeps all rules has a record. -/
theorem exists_describes (holds : ∀ rule : RecordRule, rule.Holds item) :
    ∃ record : Record, record.Describes item := by
  obtain ⟨options, said⟩ := holds .attributes
  have tagged := (fieldsTagged_iff said).1 (holds .fieldTags)
  obtain ⟨fields, derived⟩ := deriveFields_isOk_iff.2 tagged
  exact ⟨{ item, options, fields }, rfl, said, (deriveFields_eq_ok_iff.1 derived).2⟩

/-- If an item keeps the rules before the one that it breaks, it is refused for this one. -/
theorem derive_eq_error_of_rule {rule : RecordRule} (reported : rule.Reports item error)
    (kept : ∀ earlier : RecordRule, earlier.rank < rule.rank → earlier.Holds item) :
    derive item = .error error := by
  have typePath {options : RecordOptions} (said : item.Says options)
      (later : RecordRule.typePath.rank < rule.rank) : options.check = .ok () :=
    (checkTypePath_eq_ok_iff said).2 (kept .typePath later)
  have typeTags (later : RecordRule.typeTags.rank < rule.rank) :
      forbidTags item.attributes .tagOnType = .ok () :=
    forbidTags_eq_ok_iff.2 (kept .typeTags later)
  have form (later : RecordRule.form.rank < rule.rank) : checkForm item.body = .ok () :=
    checkForm_eq_ok_iff.2 (kept .form later)
  have generics (later : RecordRule.generics.rank < rule.rank) :
      checkGenerics item.generics = .ok () :=
    checkGenerics_eq_ok_iff.2 (kept .generics later)
  cases rule with
  | attributes => exact derive_of_unsaid reported
  | typePath =>
    obtain ⟨options, said⟩ := kept .attributes (by decide)
    rw [derive_of_said said, (typePath_reported_iff said).2 reported]
    rfl
  | typeTags =>
    obtain ⟨options, said⟩ := kept .attributes (by decide)
    rw [derive_of_said said, typePath said (by decide), forbidTags_eq_error_iff.2 reported]
    rfl
  | form =>
    obtain ⟨options, said⟩ := kept .attributes (by decide)
    rw [derive_of_said said, typePath said (by decide), typeTags (by decide),
      form_reported_iff.2 reported]
    rfl
  | generics =>
    obtain ⟨options, said⟩ := kept .attributes (by decide)
    rw [derive_of_said said, typePath said (by decide), typeTags (by decide), form (by decide),
      generics_reported_iff.2 reported]
    rfl
  | fieldTags =>
    obtain ⟨options, said, wrong⟩ := reported
    rw [derive_of_said said, typePath said (by decide), typeTags (by decide), form (by decide),
      generics (by decide), deriveFields_eq_error_iff.2 wrong]
    rfl

/-- **An item is refused** for the first rule that it breaks. -/
theorem derive_eq_error_iff :
    derive item = .error error ↔
      error.rule.Reports item error ∧
        ∀ earlier : RecordRule, earlier.rank < error.rule.rank → earlier.Holds item := by
  constructor
  · intro refused
    have broken : ¬ ∀ rule : RecordRule, rule.Holds item := by
      intro holds
      obtain ⟨record, describes⟩ := exists_describes holds
      cases refused.symm.trans (derive_eq_ok_iff.2 ⟨holds, describes⟩)
    obtain ⟨rule, reported, reports, kept⟩ := RecordRule.exists_first_broken broken
    cases refused.symm.trans (derive_eq_error_of_rule reports kept)
    obtain rfl := reports.rule_eq
    exact ⟨reports, kept⟩
  · rintro ⟨reports, kept⟩
    exact derive_eq_error_of_rule reports kept

/-- **The rules decide.**  An item is accepted just if it keeps all rules, and then becomes the
record that its attributes and fields describe.  It is refused with the error that the first broken
rule reports. -/
theorem derive_follows_rules (item : Item) :
    ((∃ record, derive item = .ok record) ↔ ∀ rule : RecordRule, rule.Holds item) ∧
    (∀ record, derive item = .ok record ↔
      (∀ rule : RecordRule, rule.Holds item) ∧ record.Describes item) ∧
    (∀ error, derive item = .error error ↔
      error.rule.Reports item error ∧
        ∀ earlier : RecordRule, earlier.rank < error.rule.rank → earlier.Holds item) := by
  refine ⟨⟨?_, ?_⟩, fun _ => derive_eq_ok_iff, fun _ => derive_eq_error_iff⟩
  · rintro ⟨record, accepted⟩
    exact (derive_eq_ok_iff.1 accepted).1
  · intro holds
    obtain ⟨record, describes⟩ := exists_describes holds
    exact ⟨record, derive_eq_ok_iff.2 ⟨holds, describes⟩⟩

/-- A key that a second attribute gives again comes before the form of the item. -/
example :
    derive
      { name := "A", generics := [], openGenerics := false, predicates := [], body := .union
        attributes := [
          ⟨[.word "record"], .arguments .parenthesis [.word "opaque"]⟩,
          ⟨[.word "record"], .arguments .parenthesis [.word "opaque", .mark ',' false]⟩] } =
      .error (.duplicateKey .closed) := by
  rfl

end Record

end RecordSchema
