import Mathlib.Data.List.Induction
import RecordSchema.Proofs.Readers
import RecordSchema.Source.RecordOptions

/-!
# Settings in record attributes

The `record` attributes of a type list settings: keys, some with a value.  `RecordSetting.Spells`
says which tokens spell a setting and `Attribute.Lists` which settings an attribute lists, and
`RecordOptions.ofSettings` says what settings mean together, whichever attribute each of them stands
in.  The readers take settings in one at a time, with a look at what was given before.  Over any
number of attributes they succeed just on settings that are `RecordOptions.GivenOnce`, and arrive at
what these mean (`RecordOptions.foldlM_takeAttribute_eq_ok_iff` and
`RecordOptions.foldlM_add_eq_some_iff`).
-/

namespace RecordSchema

/-! ## Settings and how they are spelled -/

/-- A key of a `record` attribute with its value. -/
inductive RecordSetting where
  | typeProvider
  | resolverProvider
  | closed
  | typePath (path : StringLiteral)
  | typeTraits (paths : List (List Token))
  deriving DecidableEq, Repr

namespace RecordSetting

open Reader

def key : RecordSetting → RecordKey
  | .typeProvider => .typeProvider
  | .resolverProvider => .resolverProvider
  | .closed => .closed
  | .typePath _ => .typePath
  | .typeTraits _ => .typeTrait

/-- The paths that a setting adds. -/
def paths : RecordSetting → List (List Token)
  | .typeTraits paths => paths
  | _ => []

/-- The path that a setting gives the type. -/
def path? : RecordSetting → Option StringLiteral
  | .typePath path => some path
  | _ => none

/-- The word of a key, with no `::` after it. -/
def SpellsKey (start : Cursor) (key : RecordKey) (stop : Cursor) : Prop :=
  ∃ rest, start.tokens = .word key.name :: rest ∧ Token.startsWith "::" rest = false ∧
    stop = { start with tokens := rest }

/-- The longest path that stands at the head. -/
def SpellsPath (start : Cursor) (path : List Token) (stop : Cursor) : Prop :=
  Path.read.outcome start = .ok (path, stop)

/-- What follows the key of a setting: nothing, or its value after an `=`. -/
inductive SpellsValue : Cursor → RecordSetting → Cursor → Prop
  | typeProvider {start} : SpellsValue start .typeProvider start
  | resolverProvider {start} : SpellsValue start .resolverProvider start
  | closed {start} : SpellsValue start .closed start
  | typePath {start value path rest} (equals : Sign '=' start value)
      (here : value.tokens = .string path :: rest) :
      SpellsValue start (.typePath path) { value with tokens := rest }
  | onePath {start value path stop} (equals : Sign '=' start value)
      (single : ∀ rest, value.tokens ≠ .opening .parenthesis :: rest)
      (spelled : SpellsPath value path stop) : SpellsValue start (.typeTraits [path]) stop
  | paths {start value rest paths inner} (equals : Sign '=' start value)
      (opens : value.tokens = .opening .parenthesis :: rest)
      (listed : CommaList SpellsPath (inGroup value .parenthesis rest) paths inner) :
      SpellsValue start (.typeTraits paths) (afterGroup value .parenthesis rest inner)

/-- A key and its value. -/
def Spells (start : Cursor) (setting : RecordSetting) (stop : Cursor) : Prop :=
  ∃ between, SpellsKey start setting.key between ∧ SpellsValue between setting stop

end RecordSetting

/-- The settings that a `record` attribute lists.  No group in it may hold more than is read. -/
def Attribute.Lists (a : Attribute) (settings : List RecordSetting) : Prop :=
  ∃ delimiter tokens stop, a.body = .arguments delimiter tokens ∧
    Reader.CommaList RecordSetting.Spells { tokens } settings stop ∧ stop.leftOver = none

/-! ## Reading keys -/

theorem RecordKey.named?_eq_some_iff {name : Option String} {key : RecordKey} :
    named? name = some key ↔ name = some key.name := by
  constructor
  · intro found
    simpa using List.find?_some found
  · rintro rfl
    cases key <;> decide

namespace RecordOptions

open Reader ReaderOf RecordSetting

variable {options options' : RecordOptions} {start stop : Cursor}

/-- The words after the first one of a key: there are none unless a `::` stands there. -/
theorem furtherWords_eq_ok {found : List Token}
    (read : furtherWords.outcome start = .ok (found, stop)) :
    (Token.startsWith "::" start.tokens = false ∧ found = [] ∧ stop = start) ∨
      found ≠ [] := by
  unfold furtherWords whileSees at read
  rw [outcome_bind_of_ok (outcome_cursor start), whileAtMost,
    outcome_bind_of_ok (outcome_sees _ start)] at read
  cases goesOn : Token.startsWith "::" start.tokens with
  | false =>
    rw [goesOn] at read
    cases read
    exact .inl ⟨rfl, rfl, rfl⟩
  | true =>
    rw [goesOn, if_pos rfl, outcome_bind_eq_ok_iff] at read
    obtain ⟨first, between, item, others⟩ := read
    obtain ⟨colons, next, colonsRead, item⟩ := outcome_bind_eq_ok_iff.1 item
    obtain ⟨word, last, wordRead, ⟨⟩⟩ := outcome_bind_eq_ok_iff.1 item
    obtain ⟨rest, after, restRead, ⟨⟩⟩ := outcome_bind_eq_ok_iff.1 others
    obtain ⟨-, rfl, -⟩ := mark_eq_ok_iff.1 colonsRead
    exact .inr (by simp [Token.operator, Token.operator.marks])

theorem furtherWords_of_last (last : Token.startsWith "::" start.tokens = false) :
    furtherWords.outcome start = .ok ([], start) := by
  unfold furtherWords whileSees
  rw [outcome_bind_of_ok (outcome_cursor start), whileAtMost,
    outcome_bind_of_ok (outcome_sees _ start), last]
  rfl

theorem firstWord_eq_ok_iff {found : List Token} :
    firstWord.outcome start = .ok (found, stop) ↔
      ∃ word rest, start.tokens = .word word :: rest ∧ found = [.word word] ∧
        stop = { start with tokens := rest } := by
  unfold firstWord
  rw [outcome_bind_of_ok (outcome_cursor start)]
  dsimp only
  split
  · next here =>
    rw [outcome_liftM, Result.mapError_eq_ok_iff, anyWord_eq_ok_iff]
  · next absent =>
    constructor
    · intro read
      split at read
      · cases read
      · split at read <;> cases read
    · rintro ⟨word, rest, here, -⟩
      rw [here] at absent
      exact absurd rfl absent

/-- A key of one word is that word, with no `::` before or after it. -/
theorem readName_eq_ok_some_iff {name : String} :
    readName.outcome start = .ok (some name, stop) ↔
      ∃ rest, start.tokens = .word name :: rest ∧ Token.startsWith "::" rest = false ∧
        stop = { start with tokens := rest } := by
  constructor
  · intro read
    unfold readName at read
    obtain ⟨colons, between, colonsRead, read⟩ := outcome_bind_eq_ok_iff.1 read
    obtain ⟨first, last, firstRead, read⟩ := outcome_bind_eq_ok_iff.1 read
    obtain ⟨further, end', furtherRead, read⟩ := outcome_bind_eq_ok_iff.1 read
    obtain ⟨one, rfl⟩ : colons ++ first ++ further = [.word name] ∧ stop = end' := by
      split at read
      · next word one =>
        cases read
        exact ⟨one, rfl⟩
      · cases read
    rw [outcome_liftM, Result.mapError_eq_ok_iff] at colonsRead furtherRead
    obtain ⟨word, rest, here, rfl, rfl⟩ := firstWord_eq_ok_iff.1 firstRead
    -- The one word is the first one, so nothing stands before or after it.
    rw [List.append_assoc, List.singleton_append, List.append_eq_singleton_iff] at one
    obtain ⟨rfl, one⟩ | ⟨-, ⟨⟩⟩ := one
    cases one
    obtain ⟨last, -, rfl⟩ := (furtherWords_eq_ok furtherRead).resolve_right fun more => more rfl
    rw [mark?_eq_ok_iff] at colonsRead
    split at colonsRead
    · obtain ⟨-, ⟨⟩, -⟩ := mark_eq_ok_iff.1 colonsRead
    · obtain ⟨-, rfl⟩ := colonsRead
      exact ⟨rest, here, last, rfl⟩
  · rintro ⟨rest, here, last, rfl⟩
    have noColons : (mark? "::").outcome start = .ok ([], start) := by
      rw [mark?_eq_ok_iff, if_neg]
      · exact ⟨rfl, rfl⟩
      · rw [here]
        exact Bool.false_ne_true
    unfold readName
    rw [outcome_bind_of_ok (by rw [outcome_liftM, noColons]; rfl),
      outcome_bind_of_ok (firstWord_eq_ok_iff.2 ⟨name, rest, here, rfl, rfl⟩),
      outcome_bind_of_ok (by rw [outcome_liftM, furtherWords_of_last last]; rfl)]
    rfl

theorem readString_eq_ok_iff {path : StringLiteral} :
    readString.outcome start = .ok (path, stop) ↔
      ∃ rest, start.tokens = .string path :: rest ∧ stop = { start with tokens := rest } := by
  obtain ⟨tokens, scope, leftOver⟩ := start
  unfold readString
  rw [outcome_bind_of_ok (outcome_cursor _)]
  constructor
  · intro read
    dsimp only at read
    split at read
    · next content rest =>
      cases read
      exact ⟨rest, rfl, rfl⟩
    · cases read
  · rintro ⟨rest, rfl, rfl⟩
    rfl

theorem startsGroup_iff {delimiter : Delimiter} {tokens : List Token} :
    Token.startsGroup delimiter tokens ↔ ∃ rest, tokens = .opening delimiter :: rest := by
  constructor
  · intro here
    match tokens, here with
    | .opening other :: rest, here =>
      obtain rfl : delimiter = other := by simpa [Token.startsGroup] using here
      exact ⟨rest, rfl⟩
  · rintro ⟨rest, rfl⟩
    simp [Token.startsGroup]

/-- The paths of a `type_trait` key are one path, or the list in a group if one stands there. -/
theorem readPaths_eq_ok_iff {paths : List (List Token)} :
    readPaths.outcome start = .ok (paths, stop) ↔
      ((∀ rest, start.tokens ≠ .opening .parenthesis :: rest) ∧
        ∃ path, SpellsPath start path stop ∧ paths = [path]) ∨
      ∃ rest inner, start.tokens = .opening .parenthesis :: rest ∧
        CommaList SpellsPath (inGroup start .parenthesis rest) paths inner ∧
        stop = afterGroup start .parenthesis rest inner := by
  unfold readPaths
  rw [outcome_bind_of_ok (outcome_sees _ start)]
  split
  · next grouped =>
    obtain ⟨rest, opens⟩ := startsGroup_iff.1 grouped
    rw [enter_eq_ok_iff]
    simp only [commaSeparated_eq_ok_iff]
    constructor
    · exact .inr
    · rintro (⟨single, -⟩ | listed)
      · exact absurd opens (single rest)
      · exact listed
  · next single =>
    rw [outcome_bind_eq_ok_iff]
    constructor
    · rintro ⟨path, between, read, ⟨⟩⟩
      exact .inl ⟨fun rest opens => single (startsGroup_iff.2 ⟨rest, opens⟩), path, read, rfl⟩
    · rintro (⟨-, path, read, rfl⟩ | ⟨rest, -, opens, -⟩)
      · exact ⟨path, stop, read, rfl⟩
      · exact absurd (startsGroup_iff.2 ⟨rest, opens⟩) single

/-! ## Taking settings in -/

/-- Whether the options have what a key stands for, and the key may not be given again. -/
def has (options : RecordOptions) : RecordKey → Bool
  | .typeProvider => options.typeProvider
  | .resolverProvider => options.resolverProvider
  | .closed => options.closed
  | .typePath => options.typePath.isSome
  | .typeTrait => false

/-- The options with a setting more. -/
def including (options : RecordOptions) : RecordSetting → RecordOptions
  | .typeProvider => { options with typeProvider := true }
  | .resolverProvider => { options with resolverProvider := true }
  | .closed => { options with closed := true }
  | .typePath path => { options with typePath := some path }
  | .typeTraits paths => { options with typeTraits := options.typeTraits ++ paths }

/-- The options with a setting more, none if its key may not be given again. -/
def add (options : RecordOptions) (setting : RecordSetting) : Option RecordOptions :=
  if options.has setting.key then none else some (options.including setting)

theorem equals_iff :
    (∃ found, (mark "=").outcome start = .ok (found, stop)) ↔ Sign '=' start stop :=
  mark_iff_sign rfl

/-- An `=` and a value are read one after the other. -/
theorem afterEquals_eq_ok_iff {α : Type} {value : Reader α} {set : α → RecordOptions} :
    (do
      let _ ← mark "="
      return set (← value) : ReaderOf DeriveError RecordOptions).outcome start =
        .ok (options', stop) ↔
      ∃ between a, Sign '=' start between ∧ value.outcome between = .ok (a, stop) ∧
        options' = set a := by
  simp only [outcome_bind_eq_ok_iff, outcome_liftM, Result.mapError_eq_ok_iff]
  constructor
  · rintro ⟨found, between, taken, a, last, read, ⟨⟩⟩
    exact ⟨between, a, equals_iff.1 ⟨found, taken⟩, read, rfl⟩
  · rintro ⟨between, a, equals, read, rfl⟩
    obtain ⟨found, taken⟩ := equals_iff.2 equals
    exact ⟨found, between, taken, a, stop, read, rfl⟩

/-- A flag is set where the reader stands, if it is not set yet. -/
theorem setOnce_eq_ok_iff {isSet : Bool} {key : RecordKey} :
    (liftM (setOnce isSet key options) : ReaderOf DeriveError RecordOptions).outcome start =
        .ok (options', stop) ↔
      stop = start ∧ (if isSet then none else some options) = some options' := by
  rw [outcome_lift]
  cases isSet with
  | true =>
    constructor
    · rintro ⟨⟩
    · rintro ⟨-, ⟨⟩⟩
  | false =>
    constructor
    · rintro ⟨⟩
      exact ⟨rfl, rfl⟩
    · rintro ⟨rfl, ⟨⟩⟩
      rfl

/-- What follows a key is taken in just if it is the value of a setting that adds to the options. -/
theorem take_eq_ok_iff {key : RecordKey} :
    (options.take key).outcome start = .ok (options', stop) ↔
      ∃ setting : RecordSetting, setting.key = key ∧ SpellsValue start setting stop ∧
        options.add setting = some options' := by
  cases key with
  | typeProvider =>
    refine setOnce_eq_ok_iff.trans ⟨?_, ?_⟩
    · rintro ⟨rfl, added⟩
      exact ⟨.typeProvider, rfl, .typeProvider, added⟩
    · rintro ⟨setting, keyed, spelled, added⟩
      cases spelled <;> cases keyed
      exact ⟨rfl, added⟩
  | resolverProvider =>
    refine setOnce_eq_ok_iff.trans ⟨?_, ?_⟩
    · rintro ⟨rfl, added⟩
      exact ⟨.resolverProvider, rfl, .resolverProvider, added⟩
    · rintro ⟨setting, keyed, spelled, added⟩
      cases spelled <;> cases keyed
      exact ⟨rfl, added⟩
  | closed =>
    refine setOnce_eq_ok_iff.trans ⟨?_, ?_⟩
    · rintro ⟨rfl, added⟩
      exact ⟨.closed, rfl, .closed, added⟩
    · rintro ⟨setting, keyed, spelled, added⟩
      cases spelled <;> cases keyed
      exact ⟨rfl, added⟩
  | typePath =>
    unfold take
    cases given : options.typePath with
    | some path =>
      constructor
      · rintro ⟨⟩
      · rintro ⟨setting, keyed, spelled, added⟩
        cases spelled <;> cases keyed
        have again : options.has .typePath := by rw [has, given]; rfl
        cases (if_pos again).symm.trans added
    | none =>
      have new : ¬ options.has .typePath := by simp [has, given]
      refine afterEquals_eq_ok_iff.trans ⟨?_, ?_⟩
      · rintro ⟨value, path, equals, read, rfl⟩
        obtain ⟨rest, here, rfl⟩ := readString_eq_ok_iff.1 read
        exact ⟨.typePath path, rfl, .typePath equals here, if_neg new⟩
      · rintro ⟨setting, keyed, spelled, added⟩
        cases spelled with
        | typeProvider | resolverProvider | closed | onePath | paths => cases keyed
        | typePath equals here =>
          cases (if_neg new).symm.trans added
          exact ⟨_, _, equals, readString_eq_ok_iff.2 ⟨_, here, rfl⟩, rfl⟩
  | typeTrait =>
    refine afterEquals_eq_ok_iff.trans ⟨?_, ?_⟩
    · rintro ⟨value, paths, equals, read, rfl⟩
      obtain ⟨single, path, spelled, rfl⟩ | ⟨rest, inner, opens, listed, rfl⟩ :=
        readPaths_eq_ok_iff.1 read
      · exact ⟨.typeTraits [path], rfl, .onePath equals single spelled, rfl⟩
      · exact ⟨.typeTraits paths, rfl, .paths equals opens listed, rfl⟩
    · rintro ⟨setting, keyed, spelled, added⟩
      cases spelled with
      | typeProvider | resolverProvider | closed | typePath => cases keyed
      | onePath equals single spelled =>
        cases added
        exact ⟨_, _, equals, readPaths_eq_ok_iff.2 (.inl ⟨single, _, spelled, rfl⟩), rfl⟩
      | paths equals opens listed =>
        cases added
        exact ⟨_, _, equals, readPaths_eq_ok_iff.2 (.inr ⟨_, _, opens, listed, rfl⟩), rfl⟩

/-- **One key with its value is taken in** just if it is spelled as a setting that adds to the
options. -/
theorem takeKey_eq_ok_iff :
    (takeKey options).outcome start = .ok (options', stop) ↔
      ∃ setting, Spells start setting stop ∧ options.add setting = some options' := by
  unfold takeKey
  rw [outcome_bind_eq_ok_iff]
  constructor
  · rintro ⟨name, between, nameRead, read⟩
    split at read
    · next key known =>
      obtain rfl := RecordKey.named?_eq_some_iff.1 known
      obtain ⟨setting, rfl, spelled, added⟩ := take_eq_ok_iff.1 read
      exact ⟨setting, ⟨between, readName_eq_ok_some_iff.1 nameRead, spelled⟩, added⟩
    · cases read
  · rintro ⟨setting, ⟨between, keySpelled, spelled⟩, added⟩
    refine ⟨_, between, readName_eq_ok_some_iff.2 keySpelled, ?_⟩
    rw [RecordKey.named?_eq_some_iff.2 rfl]
    exact take_eq_ok_iff.2 ⟨setting, rfl, spelled, added⟩

/-! ## Settings that are given once -/

/-- Every key but `type_trait` is given at most once. -/
def GivenOnce (settings : List RecordSetting) : Prop :=
  ∀ key, key ≠ .typeTrait → (settings.map RecordSetting.key).count key ≤ 1

/-- What settings say together. -/
def ofSettings (settings : List RecordSetting) : RecordOptions where
  typeProvider := decide (.typeProvider ∈ settings.map RecordSetting.key)
  resolverProvider := decide (.resolverProvider ∈ settings.map RecordSetting.key)
  typeTraits := settings.flatMap paths
  typePath := settings.findSome? path?
  closed := decide (.closed ∈ settings.map RecordSetting.key)

theorem givenOnce_append_singleton_iff {settings : List RecordSetting} {setting : RecordSetting} :
    GivenOnce (settings ++ [setting]) ↔
      GivenOnce settings ∧
        (setting.key ≠ .typeTrait → setting.key ∉ settings.map RecordSetting.key) := by
  unfold GivenOnce
  simp only [List.map_append, List.map_cons, List.map_nil, List.count_append,
    List.count_singleton, beq_iff_eq, ← List.count_eq_zero]
  constructor
  · intro once
    refine ⟨fun key only => ?_, fun only => ?_⟩
    · have := once key only
      omega
    · have := once _ only
      rw [if_pos rfl] at this
      omega
  · rintro ⟨once, new⟩ key only
    split
    · next same =>
      subst same
      simp [new only]
    · exact once key only

theorem isSome_path_iff {settings : List RecordSetting} :
    (settings.findSome? path?).isSome ↔ .typePath ∈ settings.map RecordSetting.key := by
  rw [List.findSome?_isSome_iff, List.mem_map]
  refine exists_congr fun setting => and_congr_right fun _ => ?_
  cases setting <;> simp [path?, key]

theorem ofSettings_append_singleton {settings : List RecordSetting} {setting : RecordSetting}
    (new : setting.key ≠ .typeTrait → setting.key ∉ settings.map RecordSetting.key) :
    ofSettings (settings ++ [setting]) = (ofSettings settings).including setting := by
  have keys (key : RecordKey) :
      decide (key ∈ (settings ++ [setting]).map RecordSetting.key) =
        decide (key ∈ settings.map RecordSetting.key ∨ key = setting.key) := by
    simp only [List.map_append, List.map_singleton, List.mem_append, List.mem_singleton]
  simp only [ofSettings, keys, List.flatMap_append, List.flatMap_singleton, List.findSome?_append,
    List.findSome?_singleton]
  cases setting with
  | typePath path =>
    have unset : settings.findSome? path? = none := by
      rw [← Option.not_isSome_iff_eq_none, isSome_path_iff]
      exact new nofun
    simp [including, RecordSetting.key, paths, path?, unset]
  | typeProvider | resolverProvider | closed | typeTraits paths =>
    simp [including, RecordSetting.key, RecordSetting.paths, path?]

/-- The options have what a key stands for just if a setting has that key. -/
theorem ofSettings_has_iff {settings : List RecordSetting} {key : RecordKey} :
    (ofSettings settings).has key ↔
      key ≠ .typeTrait ∧ key ∈ settings.map RecordSetting.key := by
  cases key with
  | typeProvider | resolverProvider | closed =>
    simp only [has, ofSettings, decide_eq_true_eq, ne_eq, reduceCtorEq, not_false_eq_true,
      true_and]
  | typePath =>
    simp only [has, ofSettings, isSome_path_iff, ne_eq, reduceCtorEq, not_false_eq_true, true_and]
  | typeTrait => simp only [has, Bool.false_eq_true, ne_eq, not_true_eq_false, false_and]

/-- A setting adds to what others say just if it may be given once more. -/
theorem ofSettings_add_eq_some_iff {settings : List RecordSetting} {setting : RecordSetting} :
    (ofSettings settings).add setting = some options ↔
      (setting.key ≠ .typeTrait → setting.key ∉ settings.map RecordSetting.key) ∧
        options = ofSettings (settings ++ [setting]) := by
  unfold add
  split
  · next given =>
    obtain ⟨only, given⟩ := ofSettings_has_iff.1 given
    constructor
    · rintro ⟨⟩
    · rintro ⟨new, -⟩
      exact absurd given (new only)
  · next new =>
    have new : setting.key ≠ .typeTrait → setting.key ∉ settings.map RecordSetting.key :=
      fun only given => new (ofSettings_has_iff.2 ⟨only, given⟩)
    rw [ofSettings_append_singleton new]
    constructor
    · rintro ⟨⟩
      exact ⟨new, rfl⟩
    · rintro ⟨-, rfl⟩
      rfl

/-- Settings are taken in one after the other just if none is given too often. -/
theorem foldlM_add_eq_some_iff {settings : List RecordSetting} :
    settings.foldlM add {} = some options ↔
      GivenOnce settings ∧ options = ofSettings settings := by
  induction settings using List.reverseRecOn generalizing options with
  | nil =>
    constructor
    · rintro ⟨⟩
      exact ⟨fun _ _ => Nat.zero_le _, rfl⟩
    · rintro ⟨-, rfl⟩
      rfl
  | append_singleton settings setting ih =>
    rw [List.foldlM_append, givenOnce_append_singleton_iff]
    simp only [List.foldlM_cons, List.foldlM_nil, bind_pure]
    constructor
    · intro added
      obtain ⟨before, first, last⟩ := Option.bind_eq_some_iff.1 added
      obtain ⟨once, rfl⟩ := ih.1 first
      obtain ⟨new, rfl⟩ := ofSettings_add_eq_some_iff.1 last
      exact ⟨⟨once, new⟩, rfl⟩
    · rintro ⟨⟨once, new⟩, rfl⟩
      exact Option.bind_eq_some_iff.2
        ⟨_, ih.2 ⟨once, rfl⟩, ofSettings_add_eq_some_iff.2 ⟨new, rfl⟩⟩

/-! ## Attributes -/

theorem comma_iff :
    (∃ found, (liftM (mark ",") : ReaderOf DeriveError (List Token)).outcome start =
        .ok (found, stop)) ↔
      Sign ',' start stop := by
  simp only [outcome_liftM, Result.mapError_eq_ok_iff]
  exact mark_iff_sign rfl

/-- Keys are taken in one after the other just if they are spelled as a list of settings. -/
theorem takeKeys_eq_ok_iff :
    (takeIn (liftM (mark ",")) takeKey options).outcome start = .ok (options', stop) ↔
      ∃ settings, CommaList Spells start settings stop ∧
        settings.foldlM add options = some options' :=
  takeIn_eq_ok_iff (fun _ _ => comma_iff) fun _ _ _ _ => takeKey_eq_ok_iff

/-- An attribute is taken in just if it lists settings that add to the options. -/
theorem takeAttribute_eq_ok_iff {a : Attribute} :
    takeAttribute options a = .ok options' ↔
      ∃ settings, a.Lists settings ∧ settings.foldlM add options = some options' := by
  unfold takeAttribute Attribute.Lists
  cases body : a.body with
  | bare | value =>
    constructor
    · rintro ⟨⟩
    · rintro ⟨settings, ⟨delimiter, tokens, stop, ⟨⟩, -⟩, -⟩
  | arguments delimiter tokens =>
    dsimp only
    rw [result_eq, Result.map_eq_ok_iff]
    constructor
    · rintro ⟨⟨taken, stop⟩, read, rfl⟩
      obtain ⟨taken', between, keysRead, read⟩ := outcome_bind_eq_ok_iff.1 read
      obtain ⟨⟨⟩, finished, ended, ⟨⟩⟩ := outcome_bind_eq_ok_iff.1 read
      rw [outcome_liftM, Result.mapError_eq_ok_iff, finish_eq_ok_iff] at ended
      obtain ⟨noStray, -, rfl⟩ := ended
      obtain ⟨settings, listed, added⟩ := takeKeys_eq_ok_iff.1 keysRead
      exact ⟨settings, ⟨delimiter, tokens, _, rfl, listed, noStray⟩, added⟩
    · rintro ⟨settings, ⟨delimiter, tokens, stop, ⟨⟩, listed, noStray⟩, added⟩
      refine ⟨(options', stop), ?_, rfl⟩
      rw [outcome_bind_of_ok (takeKeys_eq_ok_iff.2 ⟨settings, listed, added⟩)]
      have ended := finish_eq_ok_iff.2 ⟨noStray, listed.done, rfl⟩
      rw [outcome_bind_of_ok (by rw [outcome_liftM, ended]; rfl)]
      rfl

/-- Attributes are taken in just if they list settings that add to the options together. -/
theorem foldlM_takeAttribute_eq_ok_iff {attributes : List Attribute} :
    attributes.foldlM takeAttribute options = .ok options' ↔
      ∃ lists, List.Forall₂ Attribute.Lists attributes lists ∧
        lists.flatten.foldlM add options = some options' := by
  induction attributes generalizing options with
  | nil =>
    constructor
    · rintro ⟨⟩
      exact ⟨[], .nil, rfl⟩
    · rintro ⟨lists, listed, added⟩
      cases listed
      cases added
      rfl
  | cons a rest ih =>
    rw [List.foldlM_cons, Result.bind_eq_ok_iff]
    constructor
    · rintro ⟨between, first, others⟩
      obtain ⟨settings, listed, added⟩ := takeAttribute_eq_ok_iff.1 first
      obtain ⟨lists, restListed, restAdded⟩ := ih.1 others
      refine ⟨settings :: lists, .cons listed restListed, ?_⟩
      rw [List.flatten_cons, List.foldlM_append, added]
      exact restAdded
    · rintro ⟨lists, listed, added⟩
      cases listed with
      | @cons _ settings _ lists first others =>
        rw [List.flatten_cons, List.foldlM_append] at added
        obtain ⟨between, firstAdded, restAdded⟩ := Option.bind_eq_some_iff.1 added
        exact ⟨between, takeAttribute_eq_ok_iff.2 ⟨settings, first, firstAdded⟩,
          ih.2 ⟨lists, others, restAdded⟩⟩

end RecordOptions

end RecordSchema
