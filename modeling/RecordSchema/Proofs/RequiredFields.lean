import RecordSchema.Proofs.Exposure
import RecordSchema.Proofs.Marking

/-!
# A universe with more required fields

`Universe.require` puts a `!` in front of the tags of chosen fields of a universe.  Nothing else of
the universe changes: paths, names, hooks, dependencies and the kinds of types are the same, so
lookups and registrations are too.

Maps that are built from the same fields in both universes expose the same names.  `AlikeMaps` says
that the value under a name differs only if the last field that exposes the name is chosen, and how.
-/

namespace RecordSchema

variable {n : Nat}

/-! ## Requiring fields -/

namespace RecordField

/-- The field with a non-null mark on its tag, if it has a tag without one. -/
def require (field : RecordField n) : RecordField n :=
  match field.content with
  | .tagged text type =>
    if (FieldTag.parse text).nonNull then field
    else { field with content := .tagged ("!" ++ text) type }
  | _ => field

/-- The field, required if it is chosen. -/
def requireIf (chosen : Bool) (field : RecordField n) : RecordField n :=
  if chosen then field.require else field

end RecordField

/-- The fields, of which those at the chosen positions are required. -/
def requireFields (chosen : Nat → Bool) (fields : List (RecordField n)) : List (RecordField n) :=
  fields.mapIdx fun position field => field.requireIf (chosen position)

def Body.require (chosen : Nat → Bool) : Body n → Body n
  | .struct fields => .struct (requireFields chosen fields)
  | body => body

/-- The universe in which some fields of each declaration, chosen by their positions, are required.
-/
def Universe.require (U : Universe n) (chosen : Fin n → Nat → Bool) : Universe n where
  declaration index :=
    { U.declaration index with body := (U.declaration index).body.require (chosen index) }

namespace FieldTag

theorem parse_exclamation (text : String) : parse ("!" ++ text) = ⟨text, true⟩ := by
  simp [parse, String.toList_append]

theorem name_of_unmarked {text : String} (unmarked : (parse text).nonNull = false) :
    (parse text).name = text := by
  have rendered := render_parse text
  simpa [render, unmarked] using rendered

end FieldTag

namespace RecordField

variable (chosen : Bool) (field : RecordField n)

theorem name_requireIf : (field.requireIf chosen).name = field.name := by
  unfold requireIf require
  repeat' split
  all_goals rfl

theorem requireIf_of_untagged {field : RecordField n} (untagged : field.tag? = none) :
    field.requireIf chosen = field := by
  unfold requireIf require
  unfold tag? at untagged
  repeat' split
  all_goals simp_all

/-- A tagged field that is chosen exposes the same name and is marked as non-null. -/
theorem content_requireIf {field : RecordField n} {text : String} {type : TypeExpr n}
    (content : field.content = .tagged text type) :
    ∃ text', (field.requireIf chosen).content = .tagged text' type ∧
      FieldTag.parse text' =
        ⟨(FieldTag.parse text).name, (FieldTag.parse text).nonNull || chosen⟩ := by
  cases chosen with
  | false => exact ⟨text, content, by simp⟩
  | true =>
    cases marked : (FieldTag.parse text).nonNull with
    | true => exact ⟨text, by simp [requireIf, require, content, marked], by simp [← marked]⟩
    | false =>
      refine ⟨"!" ++ text, by simp [requireIf, require, content, marked], ?_⟩
      rw [FieldTag.parse_exclamation, FieldTag.name_of_unmarked marked]
      rfl

end RecordField

@[simp] theorem requireFields_cons (chosen : Nat → Bool) (field : RecordField n)
    (rest : List (RecordField n)) :
    requireFields chosen (field :: rest) =
      field.requireIf (chosen 0) :: requireFields (fun position => chosen (position + 1)) rest := by
  simp [requireFields, List.mapIdx_cons]

/-! ## What stays the same -/

namespace Universe

variable (U : Universe n) (chosen : Fin n → Nat → Bool)

@[simp] theorem path_require (type : TypeExpr n) : (U.require chosen).path type = U.path type := by
  induction type <;> simp_all [path, require]

@[simp] theorem name_require (type : TypeExpr n) : (U.require chosen).name type = U.name type := by
  induction type <;> simp_all [name, require]

@[simp] theorem hooks_require (type : TypeExpr n) :
    (U.require chosen).hooks type = U.hooks type := by
  cases type <;> rfl

/-- Only the fields of structs are described in another way. -/
theorem detail_require (type : TypeExpr n) :
    (U.require chosen).detail type =
      match type, U.detail type with
      | .declared index, .struct fields => .struct (requireFields (chosen index) fields)
      | _, detail => detail := by
  cases type with
  | declared index =>
    simp only [detail, require]
    cases (U.declaration index).body <;> rfl
  | native type => cases type <;> rfl
  | list | array | pointer | map => rfl

theorem detail_require_of_struct {index : Fin n} {fields : List (RecordField n)}
    (struct : U.detail (.declared index) = .struct fields) :
    (U.require chosen).detail (.declared index) =
      .struct (requireFields (chosen index) fields) := by
  rw [detail_require, struct]

@[simp] theorem isStruct_require (type : TypeExpr n) :
    (U.require chosen).isStruct type = U.isStruct type := by
  unfold isStruct
  rw [detail_require]
  split
  · next struct => simp [struct, Detail.kind]
  · rfl

@[simp] theorem scalar?_require (type : TypeExpr n) :
    ((U.require chosen).info type).scalar? = (U.info type).scalar? := by
  unfold info TypeInfo.scalar?
  cases type with
  | declared index =>
    simp only [detail, require]
    cases (U.declaration index).body <;> rfl
  | native | list | array | pointer | map => rfl

@[simp] theorem taggedTypes_require (index : Fin n) :
    (U.require chosen).taggedTypes index = U.taggedTypes index := by
  have same : ∀ (fields : List (RecordField n)) (chosen : Nat → Bool),
      ((requireFields chosen fields).filterMap fun field =>
        match field.content with
        | .tagged _ type => some type
        | _ => none) = fields.filterMap fun field =>
        match field.content with
        | .tagged _ type => some type
        | _ => none := by
    intro fields
    induction fields with
    | nil => exact fun _ => rfl
    | cons field rest ih =>
      intro chosen
      rw [requireFields_cons, List.filterMap_cons, List.filterMap_cons, ih]
      cases content : field.content with
      | hidden | untagged =>
        rw [RecordField.requireIf_of_untagged _ (by simp [RecordField.tag?, content]), content]
      | tagged text type =>
        obtain ⟨text', content', -⟩ := RecordField.content_requireIf (chosen 0) content
        rw [content']
  unfold taggedTypes fields require
  simp only
  cases (U.declaration index).body with
  | struct fields => exact same fields _
  | closed | dynamic | primitive => rfl

end Universe

namespace Registry

variable (U : Universe n) (chosen : Fin n → Nat → Bool)

@[simp] theorem add_require (r : Registry n) (type : TypeExpr n) :
    r.add (U.require chosen) type = r.add U type := by
  simp [add]

@[simp] theorem getOrRegister_require (r : Registry n) (type : TypeExpr n) :
    r.getOrRegister (U.require chosen) type = r.getOrRegister U type := by
  simp [getOrRegister]

theorem visit_require (fields : Fin n → Registry n → Option (Registry n)) (type : TypeExpr n) :
    visit (U.require chosen) fields type = visit U fields type := by
  induction type <;> funext r <;> simp_all [visit]

theorem registerFields_require (depth : Nat) :
    registerFields (U.require chosen) depth = registerFields U depth := by
  induction depth with
  | zero => rfl
  | succ depth ih =>
    funext index r
    simp [registerFields, visit_require, ih]

@[simp] theorem register_require (r : Registry n) (type : TypeExpr n) :
    r.register (U.require chosen) type = r.register U type := by
  simp [register, visit_require, registerFields_require]

@[simp] theorem standard_require : standard (U.require chosen) = standard U := by
  simp [standard]

end Registry

@[simp] theorem KeyPolicy.text_require (policy : KeyPolicy) (U : Universe n)
    (chosen : Fin n → Nat → Bool) (type : TypeExpr n) :
    policy.text (U.require chosen) type = policy.text U type := by
  cases policy <;> simp [KeyPolicy.text]

namespace TypeCache

variable (U : Universe n) (chosen : Fin n → Nat → Bool) (cache : TypeCache) (type : TypeExpr n)

@[simp] theorem key_require : cache.key (U.require chosen) type = cache.key U type := by
  simp [key_eq]

@[simp] theorem lookup_require : cache.lookup (U.require chosen) type = cache.lookup U type := by
  simp [lookup]

@[simp] theorem register_require (resolved : SchemaType) :
    cache.register (U.require chosen) type resolved = cache.register U type resolved := by
  simp [register]

end TypeCache

@[simp] theorem Encoder.hooksOf_require (U : Universe n) (chosen : Fin n → Nat → Bool)
    (e : Encoder n) (type : TypeExpr n) : e.hooksOf (U.require chosen) type = e.hooksOf U type := by
  simp [Encoder.hooksOf]

/-! ## Maps of required fields -/

/-- The position of the last field that exposes a name. -/
def lastTagged? (name : String) : List (RecordField n) → Option Nat
  | [] => none
  | field :: rest =>
    match lastTagged? name rest with
    | some position => some (position + 1)
    | none => if (FieldTag.of? field).any (·.name = name) then some 0 else none

theorem lastTagged?_append_singleton (name : String) (fields : List (RecordField n))
    (field : RecordField n) :
    lastTagged? name (fields ++ [field]) =
      if (FieldTag.of? field).any (·.name = name) then some fields.length
      else lastTagged? name fields := by
  induction fields with
  | nil => simp [lastTagged?]
  | cons first rest ih =>
    rw [List.cons_append, lastTagged?, ih]
    by_cases exposes : (FieldTag.of? field).any (·.name = name)
    · simp only [if_pos exposes, List.length_cons]
    · simp only [if_neg exposes, lastTagged?]

def Field.require (field : Field) : Field := { field with type := field.type.required }

def Argument.require (argument : Argument) : Argument :=
  { argument with type := argument.type.required }

/-- Two maps expose the names of fields in the same order, and the values under a name are the same,
unless the last field that exposes the name is chosen: then the second is required. -/
structure AlikeMaps {α : Type} (require : α → α) (chosen : Nat → Bool)
    (fields : List (RecordField n)) (m m' : OrderedMap α) : Prop where
  indexed : m.Indexed
  indexed' : m'.Indexed
  names : m.names = exposedNames fields
  names' : m'.names = exposedNames fields
  values : ∀ name value, m.get? name = some value →
    ∃ position, lastTagged? name fields = some position ∧
      m'.get? name = some (if chosen position then require value else value)

namespace AlikeMaps

variable {α : Type} {require : α → α} {chosen : Nat → Bool} {fields : List (RecordField n)}
  {field : RecordField n} {m m' : OrderedMap α}

theorem empty : AlikeMaps require chosen ([] : List (RecordField n)) .empty .empty where
  indexed := OrderedMap.indexed_empty
  indexed' := OrderedMap.indexed_empty
  names := rfl
  names' := rfl
  values _ _ found := by cases found

theorem skip (h : AlikeMaps require chosen fields m m') (untagged : field.tag? = none) :
    AlikeMaps require chosen (fields ++ [field]) m m' := by
  have same : exposedNames (fields ++ [field]) = exposedNames fields := by
    unfold exposedNames
    rw [tagNames_append, tagNames_cons_of_untagged untagged]
    exact congrArg _ (List.append_nil _)
  refine ⟨h.indexed, h.indexed', h.names.trans same.symm, h.names'.trans same.symm, ?_⟩
  intro name value found
  obtain ⟨position, last, found'⟩ := h.values name value found
  refine ⟨position, ?_, found'⟩
  rw [lastTagged?_append_singleton]
  simp [FieldTag.of?, untagged, last]

/-- Each map takes the value that the next field gives it. -/
theorem insert (h : AlikeMaps require chosen fields m m') {text : String} {type : TypeExpr n}
    (content : field.content = .tagged text type) (value : α) :
    AlikeMaps require chosen (fields ++ [field]) (m.insert (FieldTag.parse text).name value).2
      (m'.insert (FieldTag.parse text).name
        (if chosen fields.length then require value else value)).2 := by
  have listed : ∀ {m : OrderedMap α} (value : α), m.Indexed → m.names = exposedNames fields →
      (m.insert (FieldTag.parse text).name value).2.names = exposedNames (fields ++ [field]) := by
    intro m value indexed names
    have single : tagNames [field] = [(FieldTag.parse text).name] :=
      tagNames_cons_of_tagged content []
    rw [OrderedMap.names_insert indexed, names]
    unfold exposedNames
    rw [tagNames_append, single, eraseDups_append_singleton]
  refine ⟨OrderedMap.indexed_insert h.indexed _ _, OrderedMap.indexed_insert h.indexed' _ _,
    listed _ h.indexed h.names, listed _ h.indexed' h.names', ?_⟩
  intro name other found
  have tag : FieldTag.of? field = some (FieldTag.parse text) := by
    simp [FieldTag.of?, RecordField.tag?, content]
  rw [OrderedMap.get?_insert h.indexed] at found
  rw [OrderedMap.get?_insert h.indexed', lastTagged?_append_singleton, tag]
  by_cases same : (FieldTag.parse text).name = name
  · rw [if_pos same] at found
    cases found
    exact ⟨fields.length, by simp [same], by simp [same]⟩
  · rw [if_neg same] at found
    obtain ⟨position, last, found'⟩ := h.values name other found
    exact ⟨position, by simp [same, last], by simp [same, found']⟩

end AlikeMaps

end RecordSchema
