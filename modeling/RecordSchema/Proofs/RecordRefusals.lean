import RecordSchema.Proofs.RecordSettings

/-!
# What is wrong with record attributes

An attribute that does not list settings goes wrong at one place, after some settings with their
commas.  There stands no setting, or one whose key may not be given again, or the comma after a
setting is missing; or the list is fine and a group in it holds more than was read.
`Attribute.Refused` says so for an attribute that comes after others with certain settings, together
with the error for it (`RecordOptions.takeAttribute_eq_error_iff`).  What is wrong before the key is
known, or in a path, is left to the readers of names and paths.
-/

namespace RecordSchema

open Reader RecordOptions

namespace RecordSetting

/-- What is wrong with what follows a key. -/
inductive WrongValue (start : Cursor) : RecordKey → DeriveError → Prop
  | noEquals {key} (valued : key = .typePath ∨ key = .typeTrait)
      (absent : ∀ value, ¬ Sign '=' start value) :
      WrongValue start key (.malformed (.expected [.mark "="] false))
  | noString {value} (equals : Sign '=' start value)
      (other : ∀ path rest, value.tokens ≠ .string path :: rest) :
      WrongValue start .typePath (.malformed (.expected [.stringLiteral] value.tokens.isEmpty))
  | noPaths {value error} (equals : Sign '=' start value)
      (failed : readPaths.outcome value = .error error) :
      WrongValue start .typeTrait (.malformed error)

/-- What is wrong with a setting that comes after others. -/
inductive Wrong (earlier : List RecordSetting) (start : Cursor) : DeriveError → Prop
  | name {error} (failed : readName.outcome start = .error error) : Wrong earlier start error
  | unknown {name stop} (read : readName.outcome start = .ok (name, stop))
      (other : ∀ key : RecordKey, name ≠ some key.name) : Wrong earlier start .unknownKey
  | again {key between} (spelled : SpellsKey start key between) (only : key ≠ .typeTrait)
      (given : key ∈ earlier.map RecordSetting.key) : Wrong earlier start (.duplicateKey key)
  | value {key between error} (spelled : SpellsKey start key between)
      (new : key ≠ .typeTrait → key ∉ earlier.map RecordSetting.key)
      (wrong : WrongValue between key error) : Wrong earlier start error

end RecordSetting

open RecordSetting

/-- What is wrong with a `record` attribute that comes after others. -/
inductive Attribute.Refused (earlier : List RecordSetting) (a : Attribute) : DeriveError → Prop
  | bare (body : a.body = .bare) : Refused earlier a .argumentsMissing
  | value {tokens} (body : a.body = .value tokens) : Refused earlier a .argumentsNotGrouped
  | setting {delimiter tokens settings here error} (body : a.body = .arguments delimiter tokens)
      (listed : CommaPrefix Spells { tokens } settings here)
      (once : GivenOnce (earlier ++ settings)) (wrong : Wrong (earlier ++ settings) here error) :
      Refused earlier a error
  | comma {delimiter tokens settings here setting between}
      (body : a.body = .arguments delimiter tokens)
      (listed : CommaPrefix Spells { tokens } settings here) (last : Spells here setting between)
      (once : GivenOnce (earlier ++ settings ++ [setting])) (more : between.tokens ≠ [])
      (absent : ∀ next, ¬ Sign ',' between next) :
      Refused earlier a (.malformed (.expected [.mark ","] false))
  | leftOver {delimiter tokens settings stop scope} (body : a.body = .arguments delimiter tokens)
      (listed : CommaList Spells { tokens } settings stop)
      (once : GivenOnce (earlier ++ settings)) (stray : stop.leftOver = some scope) :
      Refused earlier a (.malformed (.leftOver scope))

/-! ## Settings -/

namespace RecordOptions

open ReaderOf

variable {options options' : RecordOptions} {earlier : List RecordSetting} {start stop : Cursor}
  {error : DeriveError}

theorem readString_eq_error_iff {error : SyntaxError} :
    readString.outcome start = .error error ↔
      (∀ path rest, start.tokens ≠ .string path :: rest) ∧
        error = .expected [.stringLiteral] start.tokens.isEmpty := by
  obtain ⟨tokens, scope, leftOver⟩ := start
  unfold readString
  rw [outcome_bind_of_ok (outcome_cursor _)]
  dsimp only
  split
  · next content rest =>
    constructor
    · rintro ⟨⟩
    · rintro ⟨other, -⟩
      exact absurd rfl (other content rest)
  · next other =>
    constructor
    · rintro ⟨⟩
      exact ⟨other, rfl⟩
    · rintro ⟨-, rfl⟩
      rfl

theorem setOnce_eq_error_iff {isSet : Bool} {key : RecordKey} :
    (liftM (setOnce isSet key options) : ReaderOf DeriveError RecordOptions).outcome start =
        .error error ↔
      isSet ∧ error = .duplicateKey key := by
  rw [outcome_lift]
  cases isSet with
  | true =>
    constructor
    · rintro ⟨⟩
      exact ⟨rfl, rfl⟩
    · rintro ⟨-, rfl⟩
      rfl
  | false =>
    constructor
    · rintro ⟨⟩
    · rintro ⟨⟨⟩, -⟩

/-- An `=` and a value go wrong for want of the `=`, or at the value. -/
theorem afterEquals_eq_error_iff {α : Type} {value : Reader α} {set : α → RecordOptions} :
    (do
      let _ ← mark "="
      return set (← value) : ReaderOf DeriveError RecordOptions).outcome start = .error error ↔
      ((∀ between, ¬ Sign '=' start between) ∧
        error = .malformed (.expected [.mark "="] false)) ∨
      ∃ between cause, Sign '=' start between ∧ value.outcome between = .error cause ∧
        error = .malformed cause := by
  rw [outcome_bind_eq_error_iff]
  simp only [outcome_liftM, Result.mapError_eq_error_iff, Result.mapError_eq_ok_iff]
  constructor
  · rintro (⟨cause, missed, rfl⟩ | ⟨found, between, taken, failed⟩)
    · obtain ⟨absent, rfl⟩ := (mark_eq_error_iff_sign rfl).1 missed
      exact .inl ⟨absent, rfl⟩
    · obtain failed | ⟨_, _, _, ⟨⟩⟩ := outcome_bind_eq_error_iff.1 failed
      rw [outcome_liftM, Result.mapError_eq_error_iff] at failed
      obtain ⟨cause, read, rfl⟩ := failed
      exact .inr ⟨between, cause, equals_iff.1 ⟨found, taken⟩, read, rfl⟩
  · rintro (⟨absent, rfl⟩ | ⟨between, cause, equals, failed, rfl⟩)
    · exact .inl ⟨_, (mark_eq_error_iff_sign rfl).2 ⟨absent, rfl⟩, rfl⟩
    · obtain ⟨found, taken⟩ := equals_iff.2 equals
      refine .inr ⟨found, between, taken, ?_⟩
      rw [outcome_bind, outcome_liftM, failed]
      rfl

/-- What follows a key is refused if the key may not be given again, or else if it is wrong. -/
theorem take_eq_error_iff {key : RecordKey} :
    (options.take key).outcome start = .error error ↔
      options.has key ∧ error = .duplicateKey key ∨
      ¬ options.has key ∧ WrongValue start key error := by
  have noValue {flag : RecordKey} (isFlag : flag ≠ .typePath ∧ flag ≠ .typeTrait) :
      ¬ WrongValue start flag error := by
    rintro (⟨rfl | rfl, -⟩ | _ | _)
    · exact isFlag.1 rfl
    · exact isFlag.2 rfl
    · exact isFlag.1 rfl
    · exact isFlag.2 rfl
  cases key with
  | typeProvider | resolverProvider | closed =>
    refine setOnce_eq_error_iff.trans ⟨.inl, ?_⟩
    rintro (again | ⟨-, wrong⟩)
    · exact again
    · exact absurd wrong (noValue ⟨nofun, nofun⟩)
  | typePath =>
    unfold take has
    cases given : options.typePath with
    | some path =>
      constructor
      · rintro ⟨⟩
        exact .inl ⟨rfl, rfl⟩
      · rintro (⟨-, rfl⟩ | ⟨new, -⟩)
        · rfl
        · exact absurd rfl new
    | none =>
      refine afterEquals_eq_error_iff.trans ⟨?_, ?_⟩
      · rintro (⟨absent, rfl⟩ | ⟨value, cause, equals, failed, rfl⟩)
        · exact .inr ⟨nofun, .noEquals (.inl rfl) absent⟩
        · obtain ⟨other, rfl⟩ := readString_eq_error_iff.1 failed
          exact .inr ⟨nofun, .noString equals other⟩
      · rintro (⟨⟨⟩, -⟩ | ⟨-, wrong⟩)
        cases wrong with
        | noEquals _ absent => exact .inl ⟨absent, rfl⟩
        | noString equals other =>
          exact .inr ⟨_, _, equals, readString_eq_error_iff.2 ⟨other, rfl⟩, rfl⟩
  | typeTrait =>
    refine afterEquals_eq_error_iff.trans ⟨?_, ?_⟩
    · rintro (⟨absent, rfl⟩ | ⟨value, cause, equals, failed, rfl⟩)
      · exact .inr ⟨nofun, .noEquals (.inr rfl) absent⟩
      · exact .inr ⟨nofun, .noPaths equals failed⟩
    · rintro (⟨⟨⟩, -⟩ | ⟨-, wrong⟩)
      cases wrong with
      | noEquals _ absent => exact .inl ⟨absent, rfl⟩
      | noPaths equals failed => exact .inr ⟨_, _, equals, failed, rfl⟩

/-- **A key is refused** if there is something wrong with its setting. -/
theorem takeKey_eq_error_iff :
    (takeKey (ofSettings earlier)).outcome start = .error error ↔ Wrong earlier start error := by
  unfold takeKey
  rw [outcome_bind_eq_error_iff]
  constructor
  · rintro (failed | ⟨name, between, read, failed⟩)
    · exact .name failed
    · split at failed
      · next key known =>
        obtain rfl := RecordKey.named?_eq_some_iff.1 known
        have spelled := readName_eq_ok_some_iff.1 read
        obtain ⟨again, rfl⟩ | ⟨new, wrong⟩ := take_eq_error_iff.1 failed
        · obtain ⟨only, given⟩ := ofSettings_has_iff.1 again
          exact .again spelled only given
        · exact .value spelled (fun only given => new (ofSettings_has_iff.2 ⟨only, given⟩)) wrong
      · next unknown =>
        cases failed
        refine .unknown read fun key named => ?_
        exact unknown key (RecordKey.named?_eq_some_iff.2 named)
  · rintro (failed | ⟨read, other⟩ | ⟨spelled, only, given⟩ | ⟨spelled, new, wrong⟩)
    · exact .inl failed
    · refine .inr ⟨_, _, read, ?_⟩
      split
      · next key known => exact absurd (RecordKey.named?_eq_some_iff.1 known) (other key)
      · rfl
    · refine .inr ⟨_, _, readName_eq_ok_some_iff.2 spelled, ?_⟩
      rw [RecordKey.named?_eq_some_iff.2 rfl]
      exact take_eq_error_iff.2 (.inl ⟨ofSettings_has_iff.2 ⟨only, given⟩, rfl⟩)
    · refine .inr ⟨_, _, readName_eq_ok_some_iff.2 spelled, ?_⟩
      rw [RecordKey.named?_eq_some_iff.2 rfl]
      refine take_eq_error_iff.2 (.inr ⟨fun again => ?_, wrong⟩)
      obtain ⟨only, given⟩ := ofSettings_has_iff.1 again
      exact new only given

/-! ## Attributes -/

/-- More settings are taken in after others just if none is given too often. -/
theorem foldlM_add_ofSettings_iff {settings : List RecordSetting} (once : GivenOnce earlier) :
    settings.foldlM add (ofSettings earlier) = some options ↔
      GivenOnce (earlier ++ settings) ∧ options = ofSettings (earlier ++ settings) := by
  rw [← foldlM_add_eq_some_iff, List.foldlM_append, foldlM_add_eq_some_iff.2 ⟨once, rfl⟩]
  rfl

/-- Keys are refused at a setting that is wrong or for want of a comma after one. -/
theorem takeKeys_eq_error_iff (once : GivenOnce earlier) :
    (takeIn (liftM (mark ",")) takeKey (ofSettings earlier)).outcome start = .error error ↔
      ∃ settings here, CommaPrefix Spells start settings here ∧ GivenOnce (earlier ++ settings) ∧
        (Wrong (earlier ++ settings) here error ∨
          ∃ setting between, Spells here setting between ∧
            GivenOnce (earlier ++ settings ++ [setting]) ∧ between.tokens ≠ [] ∧
            (∀ next, ¬ Sign ',' between next) ∧
            error = .malformed (.expected [.mark ","] false)) := by
  refine (takeIn_eq_error_iff (fun _ _ => comma_iff) fun _ _ _ _ => takeKey_eq_ok_iff).trans ?_
  constructor
  · rintro ⟨settings, here, _, listed, added, failed⟩
    obtain ⟨givenOnce, rfl⟩ := (foldlM_add_ofSettings_iff once).1 added
    refine ⟨settings, here, listed, givenOnce, failed.imp takeKey_eq_error_iff.1 ?_⟩
    rintro ⟨setting, between, _, spelled, addedLast, more, missed⟩
    obtain ⟨new, rfl⟩ := ofSettings_add_eq_some_iff.1 addedLast
    rw [outcome_liftM, Result.mapError_eq_error_iff] at missed
    obtain ⟨_, missed, rfl⟩ := missed
    obtain ⟨absent, rfl⟩ := (mark_eq_error_iff_sign rfl).1 missed
    exact ⟨setting, between, spelled, givenOnce_append_singleton_iff.2 ⟨givenOnce, new⟩, more,
      absent, rfl⟩
  · rintro ⟨settings, here, listed, givenOnce, failed⟩
    refine ⟨settings, here, _, listed, (foldlM_add_ofSettings_iff once).2 ⟨givenOnce, rfl⟩,
      failed.imp takeKey_eq_error_iff.2 ?_⟩
    rintro ⟨setting, between, spelled, lastOnce, more, absent, rfl⟩
    have new := (givenOnce_append_singleton_iff.1 lastOnce).2
    refine ⟨setting, between, _, spelled, ofSettings_add_eq_some_iff.2 ⟨new, rfl⟩, more, ?_⟩
    rw [outcome_liftM, (mark_eq_error_iff_sign rfl).2 ⟨absent, rfl⟩]
    rfl

/-- **An attribute is refused** after others if there is something wrong with it. -/
theorem takeAttribute_eq_error_iff {a : Attribute} (once : GivenOnce earlier) :
    takeAttribute (ofSettings earlier) a = .error error ↔ a.Refused earlier error := by
  unfold takeAttribute
  cases body : a.body with
  | bare =>
    constructor
    · rintro ⟨⟩
      exact .bare body
    · intro refused
      cases refused with
      | bare => rfl
      | value other | setting other | comma other | leftOver other => cases body.symm.trans other
  | value tokens =>
    constructor
    · rintro ⟨⟩
      exact .value body
    · intro refused
      cases refused with
      | value => rfl
      | bare other | setting other | comma other | leftOver other => cases body.symm.trans other
  | arguments delimiter tokens =>
    dsimp only
    rw [result_eq, Result.map_eq_error_iff, outcome_bind_eq_error_iff, takeKeys_eq_error_iff once]
    constructor
    · rintro (⟨settings, here, listed, givenOnce, wrong | ⟨setting, between, last, lastOnce, more,
        absent, rfl⟩⟩ | ⟨taken, between, read, failed⟩)
      · exact .setting body listed givenOnce wrong
      · exact .comma body listed last lastOnce more absent
      · obtain ⟨settings, listed, added⟩ := takeKeys_eq_ok_iff.1 read
        obtain ⟨givenOnce, rfl⟩ := (foldlM_add_ofSettings_iff once).1 added
        obtain failed | ⟨_, _, _, ⟨⟩⟩ := outcome_bind_eq_error_iff.1 failed
        rw [outcome_liftM, Result.mapError_eq_error_iff] at failed
        obtain ⟨_, unfinished, rfl⟩ := failed
        obtain ⟨scope, stray, rfl⟩ := (finish_eq_error_iff_of_ended listed.done).1 unfinished
        exact .leftOver body listed givenOnce stray
    · intro refused
      cases refused with
      | bare other | value other => cases body.symm.trans other
      | setting other listed givenOnce wrong =>
        cases body.symm.trans other
        exact .inl ⟨_, _, listed, givenOnce, .inl wrong⟩
      | comma other listed last lastOnce more absent =>
        cases body.symm.trans other
        have givenOnce := (givenOnce_append_singleton_iff.1 lastOnce).1
        exact .inl ⟨_, _, listed, givenOnce, .inr ⟨_, _, last, lastOnce, more, absent, rfl⟩⟩
      | leftOver other listed givenOnce stray =>
        cases body.symm.trans other
        have added := (foldlM_add_ofSettings_iff once).2 ⟨givenOnce, rfl⟩
        refine .inr ⟨_, _, takeKeys_eq_ok_iff.2 ⟨_, listed, added⟩, ?_⟩
        have unfinished := (finish_eq_error_iff_of_ended listed.done).2 ⟨_, stray, rfl⟩
        rw [outcome_bind, outcome_liftM, unfinished]
        rfl

end RecordOptions

end RecordSchema
