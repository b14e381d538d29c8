import RecordSchema.Proofs.Budget
import RecordSchema.Proofs.Course.Arguments

/-!
# No tagged field is lost silently

The fields of an object and the arguments of a map are collected by a walk over the fields of a
struct, one step for each field.  Two tags may carry the same name, for the mark of a tag is no part
of it.  Then the later field takes the place of the earlier one, and the walk warns of it.

Between the steps, types are resolved, and that may build other objects, with walks and warnings of
their own.  So what a walk notes itself has to be told from the rest of the journal: it is what is
noted for a field after its type was resolved (`ownEvents`).

`Exposing` says what a step does with a field, once for each of the two walks; `Exposing.walk` says
what follows for all the steps.
-/

namespace RecordSchema

variable {n : Nat}

open Encoder

/-! ## The journal grows -/

/-- The event says that a field or an argument took the place of an earlier one. -/
def Event.isReplacement : Event n → Bool
  | .fieldReplaced _ _ _ | .argumentReplaced _ _ _ => true
  | _ => false

/-- Between two encoders the journal grew, and these replacements were noted. -/
structure Encoder.Notes (e e' : Encoder n) (replacements : List (Event n)) : Prop where
  grown : e.journal <:+ e'.journal
  noted : (e'.journalSince e).filter Event.isReplacement = replacements

section Journal

variable {U : Universe n} {e e₁ e' : Encoder n}

theorem Encoder.journalSince_of_append {later : List (Event n)}
    (noted : e'.journal = later ++ e.journal) : e'.journalSince e = later.reverse := by
  simp [journalSince, noted]

/-- What was noted since is what was noted first, and what was noted then. -/
theorem Encoder.journalSince_trans (first : e.journal <:+ e₁.journal)
    (second : e₁.journal <:+ e'.journal) :
    e'.journalSince e = e₁.journalSince e ++ e'.journalSince e₁ := by
  obtain ⟨early, noted⟩ := first
  obtain ⟨late, noted'⟩ := second
  have both : e'.journal = (late ++ early) ++ e.journal := by
    rw [← noted', ← noted, List.append_assoc]
  rw [journalSince_of_append noted.symm, journalSince_of_append noted'.symm,
    journalSince_of_append both, List.reverse_append]

namespace Encoder.Notes

theorem of_journal (same : e'.journal = e.journal) : Notes e e' [] where
  grown := same ▸ List.suffix_rfl
  noted := by
    rw [journalSince_of_append (same.trans (List.nil_append _).symm)]
    rfl

theorem trans {replacements replacements' : List (Event n)} (first : Notes e e₁ replacements)
    (second : Notes e₁ e' replacements') : Notes e e' (replacements ++ replacements') where
  grown := first.grown.trans second.grown
  noted := by
    rw [journalSince_trans first.grown second.grown, List.filter_append, first.noted, second.noted]

theorem of_other (event : Event n) (noted : e'.journal = event :: e.journal)
    (other : event.isReplacement = false) : Notes e e' [] where
  grown := noted ▸ List.suffix_cons _ _
  noted := by
    rw [journalSince_of_append (noted.trans List.singleton_append.symm)]
    simp [other]

theorem of_replacement (event : Event n) (noted : e'.journal = event :: e.journal)
    (replaced : event.isReplacement) : Notes e e' [event] where
  grown := noted ▸ List.suffix_cons _ _
  noted := by
    rw [journalSince_of_append (noted.trans List.singleton_append.symm)]
    simp [replaced]

theorem warn (U : Universe n) (e : Encoder n) (type : TypeExpr n) (tag : FieldTag)
    (resolved : SchemaType) : Notes e (e.warn U type tag resolved) [] := by
  unfold Encoder.warn
  split
  · exact of_other (.alreadyNonNull (U.path type)) rfl rfl
  · exact of_journal rfl

/-- A field that replaces another one is noted. -/
theorem addField (e : Encoder n) (id : ObjectId) (structPath fieldName : String) (field : Field) :
    Notes e (e.addField id structPath fieldName field)
      (if (e.arena.get? id).any fun object => (object.addField field.name field).1.isSome
        then [.fieldReplaced structPath fieldName field.name] else []) := by
  unfold Encoder.addField
  simp only
  split
  · exact of_replacement (.fieldReplaced structPath fieldName field.name) rfl rfl
  · exact of_journal rfl

theorem expose (U : Universe n) (e : Encoder n) (id : ObjectId) (structPath fieldName : String)
    (tag : FieldTag) (type : TypeExpr n) (resolved : SchemaType) :
    Notes e (e.expose U id structPath fieldName tag type resolved)
      (if (e.arena.get? id).any fun object =>
          (object.addField tag.name (e.fieldFor U tag type resolved)).1.isSome
        then [.fieldReplaced structPath fieldName tag.name] else []) := by
  have warned := warn U e type tag resolved
  have met : Notes (e.warn U type tag resolved)
      ((e.warn U type tag resolved).meet U type.withoutPointers) [] := of_journal rfl
  have added := addField ((e.warn U type tag resolved).meet U type.withoutPointers) id structPath
    fieldName (e.fieldFor U tag type resolved)
  rw [meet_arena, warn_arena] at added
  exact (warned.trans met).trans added

theorem close {α : Type} (e : Encoder n) (outermost : Bool) (path : String)
    (result : Except EncodeError α) : Notes e (e.close outermost path result) [] := by
  cases outermost with
  | false => exact of_journal rfl
  | true =>
    cases result with
    | ok => exact of_journal rfl
    | error => exact of_other (.unfinished e.building.length path) rfl rfl

end Encoder.Notes

/-- A build takes nothing back that was noted. -/
theorem Course.journal {call : Call n} {result : Except EncodeError SchemaType}
    (course : Course U call e result e') : e.journal <:+ e'.journal := by
  induction course with
  | pointer inner ih | refused plain miss inner ih | untagged untagged inner ih
  | stopped content first ih => exact ih
  | resolved plain miss inner ih => exact ih
  | recorded | objectRecorded | notStruct | notSupported | done => exact List.suffix_rfl
  | recalled | objectRecalled | notAnObject | provided | scalar | unrecognized =>
    exact List.suffix_cons _ _
  | list free other listed inner ih | struct free other struct inner ih =>
    exact (List.suffix_cons _ _).trans ih
  | begun miss struct made inner ih =>
    exact ((List.suffix_cons _ _).trans ih).trans (Notes.close _ _ _ _).grown
  | tagged content first live inner ih₁ ih₂ =>
    exact (ih₁.trans (Notes.expose _ _ _ _ _ _ _ _).grown).trans ih₂
  | dangling content first dead ih => exact ih.trans (Notes.warn _ _ _ _ _).grown

end Journal

/-! ## Steps of walks -/

namespace Build

variable {α β : Type} {e e' moment : Encoder n}

/-- Steps succeed together if each of them does. -/
theorem ok_of_bind {step : Build n α} {next : α → Build n β} {b : β}
    (run : (step >>= next).outcome e = some (.ok b, e')) :
    ∃ a e₁, step.outcome e = some (.ok a, e₁) ∧ (next a).outcome e₁ = some (.ok b, e') := by
  rw [outcome_bind, Option.bind_eq_some_iff] at run
  obtain ⟨⟨_ | a, e₁⟩, first, second⟩ := run
  · cases second
  · exact ⟨a, e₁, first, second⟩

/-- One more step goes on where the steps before it ended. -/
theorem outcome_foldlM_append_singleton {step : β → α → Build n β} {items : List α} {start b : β}
    (reached : outcome (items.foldlM step start) e = some (.ok b, moment)) (a : α) :
    outcome ((items ++ [a]).foldlM step start) e = (step b a).outcome moment := by
  rw [List.foldlM_append, outcome_bind_ok reached, List.foldlM_cons]
  simp only [List.foldlM_nil, bind_pure]

end Build

/-! ## Walks over fields -/

section Walks

variable {α β : Type}

/-- The encoder after the type of a field was resolved, if the field has a tag. -/
def Encoder.afterType (U : Universe n) (e : Encoder n) (field : RecordField n) : Encoder n :=
  match field.content with
  | .tagged _ type => ((resolveType U type).outcome e).elim e Prod.snd
  | _ => e

/-- The events that a walk over fields notes itself, oldest first.  What is noted for a field while
its type is resolved is left out. -/
def ownEvents (U : Universe n) (step : β → RecordField n → Build n β) :
    List (RecordField n) → β → Encoder n → List (Event n)
  | [], _, _ => []
  | field :: rest, collected, e =>
    match (step collected field).outcome e with
    | some (.ok collected', e') =>
      e'.journalSince (e.afterType U field) ++ ownEvents U step rest collected' e'
    | _ => []

/-- The entry that a walk makes for a field: its type is resolved on the encoder that the fields
before it leave. -/
def GivenBy (U : Universe n) (step : β → RecordField n → Build n β) (start : β) (e : Encoder n)
    (entry : Encoder n → FieldTag → TypeExpr n → SchemaType → α) (before : List (RecordField n))
    (tag : FieldTag) (content : TypeExpr n) (value : α) : Prop :=
  ∃ collected moment resolved e₁,
    Build.outcome (before.foldlM step start) e = some (.ok collected, moment) ∧
      (resolveType U content).outcome moment = some (.ok resolved, e₁) ∧
        value = entry e₁ tag content resolved

/-- No tagged field is lost by a walk over fields, at least not silently.  Each name that is carried
by tags has the entry of the last field that carries it, and no other name has one; fields without
a tag make no difference; and of its own the walk warns once for every field whose name was taken
already, so each tagged field has either an entry of its own or a warning. -/
structure LosesNothing (U : Universe n) (step : β → RecordField n → Build n β) (start : β)
    (e : Encoder n) (entry : Encoder n → FieldTag → TypeExpr n → SchemaType → α)
    (warning : String → String → Event n) (fields : List (RecordField n)) (m : OrderedMap α)
    (e' : Encoder n) : Prop where
  gathers : Gathers (GivenBy U step start e entry) fields m
  unnamed : ∀ name, name ∉ exposedNames fields → m.get? name = none
  passed : (fields.filter fun field => field.tag?.isSome).foldlM step start =
    fields.foldlM step start
  noted : (ownEvents U step fields start e).Sublist (e'.journalSince e)
  warned : (ownEvents U step fields start e).filter Event.isReplacement =
    (retaken [] fields).map fun taken => warning taken.1 taken.2
  balance : m.size + ((ownEvents U step fields start e).filter Event.isReplacement).length =
    (tagNames fields).length

/-- What a step of a walk does with a field, if `holds` tells the map that is collected so far. -/
structure Exposing (U : Universe n) (step : β → RecordField n → Build n β)
    (holds : β → Encoder n → OrderedMap α → Prop)
    (entry : Encoder n → FieldTag → TypeExpr n → SchemaType → α)
    (warning : String → String → Event n) : Prop where
  untagged : ∀ collected field, field.tag? = none → step collected field = pure collected
  tagged : ∀ {collected field text content e m collected' e'},
    field.content = .tagged text content → holds collected e m →
      (step collected field).outcome e = some (.ok collected', e') →
        ∃ resolved e₁, (resolveType U content).outcome e = some (.ok resolved, e₁) ∧
          let added := m.insert (FieldTag.parse text).name (entry e₁ (.parse text) content resolved)
          holds collected' e' added.2 ∧
            Notes e₁ e'
              (if added.1.isSome then [warning field.name (FieldTag.parse text).name] else [])

namespace Exposing

variable {U : Universe n} {step : β → RecordField n → Build n β} {start collected collected' : β}
  {holds : β → Encoder n → OrderedMap α → Prop}
  {entry : Encoder n → FieldTag → TypeExpr n → SchemaType → α}
  {warning : String → String → Event n} {before rest : List (RecordField n)} {m : OrderedMap α}
  {e moment e' : Encoder n}

/-- Fields without a tag can be left out of a walk. -/
theorem foldlM_filter (exposing : Exposing U step holds entry warning)
    (fields : List (RecordField n)) (start : β) :
    (fields.filter fun field => field.tag?.isSome).foldlM step start =
      fields.foldlM step start := by
  induction fields generalizing start with
  | nil => rfl
  | cons field rest ih =>
    cases tag : field.tag? with
    | none =>
      rw [List.filter_cons_of_neg (by simp [tag]), List.foldlM_cons,
        exposing.untagged start field tag, pure_bind, ih]
    | some text =>
      rw [List.filter_cons_of_pos (by simp [tag]), List.foldlM_cons, List.foldlM_cons]
      congr 1
      funext collected
      exact ih collected

/-- What is collected from some fields goes on being collected from the fields after them. -/
theorem walk (exposing : Exposing U step holds entry warning)
    (reached : Build.outcome (before.foldlM step start) e = some (.ok collected, moment))
    (held : holds collected moment m) (gathers : Gathers (GivenBy U step start e entry) before m)
    (run : Build.outcome (rest.foldlM step collected) moment = some (.ok collected', e')) :
    (∃ m', holds collected' e' m' ∧
      Gathers (GivenBy U step start e entry) (before ++ rest) m') ∧
    moment.journal <:+ e'.journal ∧
    (ownEvents U step rest collected moment).Sublist (e'.journalSince moment) ∧
    (ownEvents U step rest collected moment).filter Event.isReplacement =
      (retaken (tagNames before) rest).map fun taken => warning taken.1 taken.2 := by
  induction rest generalizing before collected moment m with
  | nil =>
    cases run
    rw [List.append_nil]
    exact ⟨⟨m, held, gathers⟩, List.suffix_rfl, List.nil_sublist _, rfl⟩
  | cons field rest ih =>
    rw [List.foldlM_cons] at run
    cases content : field.content with
    | hidden | untagged =>
      have untagged : field.tag? = none := by simp [RecordField.tag?, content]
      have stays := exposing.untagged collected field untagged
      rw [stays, pure_bind] at run
      have reached' : Build.outcome ((before ++ [field]).foldlM step start) e =
          some (.ok collected, moment) := by
        rw [Build.outcome_foldlM_append_singleton reached, stays]
        rfl
      have own : ownEvents U step (field :: rest) collected moment =
          ownEvents U step rest collected moment := by
        have nothing : moment.journalSince (moment.afterType U field) = [] := by
          rw [afterType, content]
          exact journalSince_of_append (List.nil_append _).symm
        rw [ownEvents, stays]
        change moment.journalSince (moment.afterType U field) ++ _ = _
        rw [nothing, List.nil_append]
      have later := ih reached' held (gathers.untagged untagged) run
      rwa [List.append_assoc, List.singleton_append, tagNames_append_of_untagged untagged, ← own,
        ← retaken_cons_of_untagged untagged] at later
    | tagged text type =>
      obtain ⟨collected₁, moment', stepped, run'⟩ := Build.ok_of_bind run
      obtain ⟨resolved, e₁, resolving, held', notes⟩ := exposing.tagged content held stepped
      have reached' : Build.outcome ((before ++ [field]).foldlM step start) e =
          some (.ok collected₁, moment') := by
        rw [Build.outcome_foldlM_append_singleton reached, stepped]
      have own : ownEvents U step (field :: rest) collected moment =
          moment'.journalSince e₁ ++ ownEvents U step rest collected₁ moment' := by
        have after : moment.afterType U field = e₁ := by
          rw [afterType, content]
          change ((resolveType U type).outcome moment).elim moment Prod.snd = e₁
          rw [resolving]
          rfl
        rw [ownEvents, stepped]
        change moment'.journalSince (moment.afterType U field) ++ _ = _
        rw [after]
      have given : GivenBy U step start e entry before (.parse text) type
          (entry e₁ (.parse text) type resolved) :=
        ⟨collected, moment, resolved, e₁, reached, resolving, rfl⟩
      obtain ⟨⟨m', held', gathers'⟩, grown, listed, warned⟩ :=
        ih reached' held' (gathers.tagged content given) run'
      rw [List.append_assoc, List.singleton_append] at gathers'
      have resolves := (course_resolve resolving).journal
      have replaces : (m.insert (FieldTag.parse text).name
          (entry e₁ (.parse text) type resolved)).1.isSome ↔
            (FieldTag.parse text).name ∈ tagNames before := by
        rw [OrderedMap.isSome_insert_iff gathers.indexed, gathers.names]
        exact List.mem_eraseDups
      refine ⟨⟨m', held', gathers'⟩, (resolves.trans notes.grown).trans grown, ?_, ?_⟩
      · rw [own, journalSince_trans (resolves.trans notes.grown) grown,
          journalSince_trans resolves notes.grown, List.append_assoc]
        exact ((List.Sublist.refl _).append listed).trans (List.sublist_append_right _ _)
      · rw [own, List.filter_append, notes.noted, warned, retaken_cons_of_tagged content,
          tagNames_append_of_tagged content, List.map_append]
        by_cases taken : (FieldTag.parse text).name ∈ tagNames before
        · rw [if_pos taken, if_pos (replaces.2 taken)]
          rfl
        · rw [if_neg taken, if_neg fun replaced => taken (replaces.1 replaced)]
          rfl

/-- A walk over all fields loses nothing. -/
theorem losesNothing (exposing : Exposing U step holds entry warning)
    {fields : List (RecordField n)} (held : holds start e .empty)
    (run : Build.outcome (fields.foldlM step start) e = some (.ok collected, e')) :
    ∃ m, holds collected e' m ∧ LosesNothing U step start e entry warning fields m e' := by
  have begins : Build.outcome (([] : List (RecordField n)).foldlM step start) e =
      some (.ok start, e) := rfl
  obtain ⟨⟨m, held', gathers⟩, -, noted, warned⟩ := exposing.walk begins held .nil run
  rw [List.nil_append] at gathers
  refine ⟨m, held', gathers, fun name unnamed => gathers.get?_eq_none fun named => unnamed
    (List.mem_eraseDups.2 named), exposing.foldlM_filter fields start, noted, warned, ?_⟩
  have size : m.size = (exposedNames fields).length := by
    rw [← gathers.names]
    exact (List.length_map _).symm
  rw [size, warned, List.length_map]
  exact (length_exposedNames_append [] fields).trans (Nat.zero_add _)

end Exposing

end Walks

/-! ## The walk for an object and the walk for arguments -/

section Steps

variable {U : Universe n}

/-- Adding a field to an object. -/
theorem exposing_populateField (U : Universe n) (id : ObjectId) (path : String) :
    Exposing U (fun (_ : Unit) field => Build.populateField U (resolveType U) id path field)
      (fun _ e fields => (e.arena.get? id).map ObjectType.fields = some fields)
      (fun e₁ tag content resolved => e₁.fieldFor U tag content resolved)
      (.fieldReplaced path) where
  untagged _ field untagged := Build.populateField_of_untagged U _ id path untagged
  tagged := by
    intro _ field text content e m _ e' tagged held run
    obtain ⟨object, found, rfl⟩ := Option.map_eq_some_iff.1 held
    rw [Build.outcome_populateField U _ id path tagged] at run
    obtain ⟨resolving, e₁, first⟩ := resolveType_ends U content e
    cases resolving with
    | error error =>
      rw [first] at run
      cases run
    | ok resolved =>
      have live : e.arena.contains id := Arena.contains_of_get? found
      have found₁ : e₁.arena.get? id = some object :=
        ((course_resolve first).untouched live fun same => nomatch same).trans found
      simp only [first, Option.map_some, if_pos (Arena.contains_of_get? found₁)] at run
      cases run
      refine ⟨resolved, e₁, first, ?_, ?_⟩
      · rw [get?_expose_self, found₁]
        rfl
      · have notes := Notes.expose U e₁ id path field.name (.parse text) content resolved
        rwa [found₁] at notes

/-- Adding a field to a map of arguments. -/
theorem exposing_addArgument (U : Universe n) (path : String) :
    Exposing U (Build.addArgument U (resolveType U) path) (fun arguments _ m => arguments = m)
      (fun _ tag _ resolved => { type := taggedType tag resolved }) (.argumentReplaced path) where
  untagged arguments field untagged := addArgument_of_untagged untagged path arguments
  tagged := by
    rintro arguments field text content e _ arguments' e' tagged rfl run
    obtain ⟨resolving, e₁, first⟩ := resolveType_ends U content e
    cases resolving with
    | error error =>
      rw [addArgument_of_error tagged path arguments first] at run
      cases run
    | ok resolved =>
      refine ⟨resolved, e₁, first, ?_⟩
      have warned := Notes.warn U e₁ content (.parse text) resolved
      unfold Build.addArgument at run
      rw [tagged] at run
      simp only at run
      rw [Build.outcome_bind_ok (Build.outcome_fieldType_ok U first)] at run
      split at run
      · next replaced =>
        cases run
        refine ⟨rfl, ?_⟩
        rw [if_pos replaced]
        exact warned.trans (.of_replacement _ rfl rfl)
      · next kept =>
        cases run
        exact ⟨rfl, by rwa [if_neg kept]⟩

theorem populate_eq_foldlM (id : ObjectId) (path : String) (fields : List (RecordField n)) :
    Build.populate U (resolveType U) id path fields =
      fields.foldlM (fun (_ : Unit) field => Build.populateField U (resolveType U) id path field)
        () := by
  induction fields with
  | nil => rfl
  | cons field rest ih =>
    rw [List.foldlM_cons]
    change (Build.populateField U (resolveType U) id path field >>= fun _ =>
      Build.populate U (resolveType U) id path rest) = _
    rw [ih]

end Steps

/-- **No tagged field is lost silently.**  Let the fields of a struct be collected with success, be
it on an object or in a map of arguments, and on whatever encoder.  Then the names are those of the
tags, each in the place where it occurs first; the entry of a name is the one that the last field
with this name gives, all of it; fields without a tag make no difference; and the walk over these
fields warns once for each field whose name was taken already, so that entries and warnings together
are as many as the tags. -/
theorem Encoder.walks_lose_no_tagged_field (U : Universe n) (e : Encoder n) (type : TypeExpr n)
    {fields : List (RecordField n)} (struct : U.detail type.withoutPointers = .struct fields) :
    (∀ options id e', e.cache.lookup U type = none →
      (structOfInfo U type options).outcome e = some (.ok id, e') →
        ∃ object fresh, e'.arena.get? id = some object ∧
          LosesNothing U
            (fun (_ : Unit) field => Build.populateField U (resolveType U) id
              (U.path type.withoutPointers) field) () (e.begin U type.withoutPointers fresh)
            (fun e₁ tag content resolved => e₁.fieldFor U tag content resolved)
            (.fieldReplaced (U.path type.withoutPointers)) fields object.fields e') ∧
    ∀ arguments e', (argsOfInfo U type).outcome e = some (.ok arguments, e') →
      LosesNothing U (Build.addArgument U (resolveType U) (U.path type.withoutPointers)) .empty e
        (fun _ tag _ resolved => { type := taggedType tag resolved })
        (.argumentReplaced (U.path type.withoutPointers)) fields arguments e' := by
  constructor
  · intro options id e' miss run
    have unknown := (TypeCache.lookup_withoutPointers U e.cache type).trans miss
    rw [structOfInfo_eq_objectWith] at run
    cases made : SchemaOption.applyAllToObject options
        { name := objectName (U.name type.withoutPointers) } with
    | error error =>
      rw [Build.outcome_objectWith_of_refused U _ unknown struct made] at run
      cases run
    | ok fresh =>
      rw [Build.outcome_objectWith_of_begun U _ unknown struct made] at run
      obtain ⟨⟨ended, e₁⟩, walk, same⟩ := Option.map_eq_some_iff.1 run
      cases ended with
      | error error => cases same
      | ok done =>
        cases same
        rw [populate_eq_foldlM] at walk
        have held : ((e.begin U type.withoutPointers fresh).arena.get? e.arena.nextId).map
            ObjectType.fields = some .empty := by
          rw [begin_arena, Arena.get?_insert_nextId, Option.map_some,
            (SchemaOption.fields_of_applyAllToObject made).1]
        obtain ⟨m, held', loses⟩ := (exposing_populateField U _ _).losesNothing held walk
        obtain ⟨object, found, rfl⟩ := Option.map_eq_some_iff.1 held'
        -- A success closes the list of begun objects and notes nothing.
        have silent : (e₁.close e.building.isEmpty (U.path type.withoutPointers)
            (.ok done : Except EncodeError Unit)).journal = e₁.journal := by
          cases e.building.isEmpty <;> rfl
        refine ⟨object, fresh, by rw [close_arena, found], { loses with noted := ?_ }⟩
        rw [journalSince, silent]
        exact loses.noted
  · intro arguments e' run
    rw [Build.argsOfInfo_eq, Build.argumentsWith_of_struct _ struct] at run
    obtain ⟨m, rfl, loses⟩ := (exposing_addArgument U _).losesNothing rfl run
    exact loses

/-! ## Entries -/

namespace Sample

/-- An entry takes two names twice, of which one is empty.  In between, its author takes a name
twice. -/
def entries : Universe 2 where
  declaration
    | 0 =>
      { path := "app::Entry", name := "Entry"
        body := .struct
          [⟨"id", .tagged "!id" (.primitive .u32)⟩, ⟨"blank", .tagged "" (.primitive .string)⟩,
           ⟨"author", .tagged "author" (.pointer .box (.declared 1))⟩,
           ⟨"draft", .untagged (.primitive .bool)⟩, ⟨"key", .tagged "id" (.primitive .string)⟩,
           ⟨"mark", .tagged "!" (.primitive .bool)⟩] }
    | 1 =>
      { path := "app::Author", name := "Author"
        body := .struct
          [⟨"given", .tagged "name" (.primitive .string)⟩,
           ⟨"family", .tagged "!name" (.primitive .string)⟩] }

end Sample

/-- Three replacements are noted while the object of an entry is built, and two of them by the walk
over its own fields.  The arguments of an entry have the same names. -/
theorem Sample.entries_lose_no_tagged_field :
    (∃ id e' object own, (structOfInfo entries (.declared 0) []).outcome
        (.new entries .bareName) = some (.ok id, e') ∧ e'.arena.get? id = some object ∧
      object.fields.names = ["id", "", "author"] ∧
      ((e'.journalSince (.new entries .bareName)).filter Event.isReplacement).length = 3 ∧
      (own : List (Event 2)).Sublist e'.journal.reverse ∧
      own.filter Event.isReplacement =
        [.fieldReplaced "app::Entry" "key" "id", .fieldReplaced "app::Entry" "mark" ""]) ∧
    ∃ arguments e', (argsOfInfo entries (.declared 0)).outcome (.new entries .bareName) =
        some (.ok arguments, e') ∧ arguments.names = ["id", "", "author"] := by
  have both := Encoder.walks_lose_no_tagged_field entries (.new entries .bareName) (.declared 0) rfl
  constructor
  · have built : ((structOfInfo entries (.declared 0) []).outcome
        (.new entries .bareName)).map (fun r => (r.1,
          ((r.2.journalSince (.new entries .bareName)).filter Event.isReplacement).length)) =
        some (.ok ⟨1⟩, 3) := by
      decide +kernel
    obtain ⟨⟨_, e'⟩, run, same⟩ := Option.map_eq_some_iff.1 built
    cases (Prod.mk.inj same).1
    obtain ⟨object, fresh, found, loses⟩ := both.1 [] ⟨1⟩ e' rfl run
    refine ⟨_, e', object, _, run, found, loses.gathers.names.trans (by decide +kernel),
      (Prod.mk.inj same).2, loses.noted.trans ?_, loses.warned.trans (by decide +kernel)⟩
    exact List.reverse_sublist.2 (List.take_sublist _ _)
  · have collected : ((argsOfInfo entries (.declared 0)).outcome
        (.new entries .bareName)).map (fun r => (r.1.map OrderedMap.size)) = some (.ok 3) := by
      decide +kernel
    obtain ⟨⟨result, e'⟩, run, same⟩ := Option.map_eq_some_iff.1 collected
    cases result with
    | error error => cases same
    | ok arguments =>
      exact ⟨arguments, e', run, (both.2 arguments e' run).gathers.names.trans (by decide +kernel)⟩

end RecordSchema
