import Mathlib.Logic.Relation
import RecordSchema.Proofs.Course.Outcome
import RecordSchema.Proofs.Exposure

/-!
# The reference schema of a struct

What a struct is exposed as can be said without an encoder.  Every type has a meaning, which depends
on its hooks, on its structure, and on how the objects of the structs are numbered (`meaning`).  The
structs that are reached from a struct are numbered in the order in which a depth-first walk over
their tagged fields first comes to them (`DepthFirst`).  The object of a struct is named after it
(`Named`) and exposes the names of its tags, and under each name the last field that carries it
(`Describes`).

Nothing here has a cache, a state or a bound, and the types may refer to each other in cycles.
Which characters a name keeps, which scalar a type is, and what a mark adds to a type are stated on
their own as well, and not by what the encoder computes them with; `named_iff`, `scalar?_eq` and
`typeUnder_eq` say that the encoder agrees.  `Faithfulness` shows that the encoder computes this
schema.
-/

namespace RecordSchema

variable {n : Nat}

/-! ## Depth-first order -/

section DepthFirst

variable {α : Type} {next : α → List α}

/-- `DepthFirst next seen todo seen'`: a walk that has come to `seen`, in this order, goes on with
`todo` and has come to `seen'` in the end.  Whatever is new is followed by what it leads to, before
the rest. -/
inductive DepthFirst (next : α → List α) : List α → List α → List α → Prop
  | done {seen} : DepthFirst next seen [] seen
  | known {seen a rest seen'} (inside : a ∈ seen) (others : DepthFirst next seen rest seen') :
      DepthFirst next seen (a :: rest) seen'
  | new {seen a rest seen₁ seen'} (outside : a ∉ seen)
      (inner : DepthFirst next (seen ++ [a]) (next a) seen₁)
      (others : DepthFirst next seen₁ rest seen') : DepthFirst next seen (a :: rest) seen'

namespace DepthFirst

variable {seen seen₁ seen' todo rest : List α} {a : α}

/-- What was seen keeps its place. -/
theorem grows (walk : DepthFirst next seen todo seen') : seen <+: seen' := by
  induction walk with
  | done => exact List.prefix_refl _
  | known inside others ih => exact ih
  | new outside inner others ih₁ ih₂ =>
    exact (List.prefix_append _ _).trans (ih₁.trans ih₂)

/-- A walk that starts somewhere comes there first. -/
theorem first (walk : DepthFirst next [] (a :: rest) seen') : [a] <+: seen' := by
  cases walk with
  | known inside => cases inside
  | new outside inner others => exact inner.grows.trans others.grows

theorem append (first : DepthFirst next seen todo seen₁)
    (second : DepthFirst next seen₁ rest seen') :
    DepthFirst next seen (todo ++ rest) seen' := by
  induction first with
  | done => exact second
  | known inside others ih => exact .known inside (ih second)
  | new outside inner others ih₁ ih₂ => exact .new outside inner (ih₂ second)

/-- There is at most one depth-first order. -/
theorem unique (first : DepthFirst next seen todo seen₁)
    (second : DepthFirst next seen todo seen') :
    seen' = seen₁ := by
  induction first generalizing seen' with
  | done =>
    cases second
    rfl
  | known inside others ih =>
    cases second with
    | known _ others' => exact ih others'
    | new outside => exact absurd inside outside
  | new outside inner others ih₁ ih₂ =>
    cases second with
    | known inside => exact absurd inside outside
    | new _ inner' others' =>
      rw [ih₁ inner'] at others'
      exact ih₂ others'

end DepthFirst

end DepthFirst

namespace Reference

/-! ## Names -/

/-- A character that may stand in the name of an object: a letter or numeral of any script, or the
underscore. -/
def Nameable (c : Char) : Prop := isAlphanumeric c ∨ c = '_'

/-- `Restricted cs ds`: the characters `ds` are those of `cs` that may stand in a name, in their
order. -/
inductive Restricted : List Char → List Char → Prop
  | nil : Restricted [] []
  | kept {c cs ds} (nameable : Nameable c) (rest : Restricted cs ds) :
      Restricted (c :: cs) (c :: ds)
  | dropped {c cs ds} (other : ¬ Nameable c) (rest : Restricted cs ds) : Restricted (c :: cs) ds

/-- A name is that of a type, restricted to the characters that may stand in a name. -/
def Named (typeName name : String) : Prop := Restricted typeName.toList name.toList

theorem nameable_iff {c : Char} : Nameable c ↔ (isAlphanumeric c || c == '_') := by
  simp [Nameable]

theorem restricted_iff {cs ds : List Char} :
    Restricted cs ds ↔ ds = cs.filter fun c => isAlphanumeric c || c == '_' := by
  constructor
  · intro restricted
    induction restricted with
    | nil => rfl
    | kept nameable rest ih => rw [List.filter_cons, if_pos (nameable_iff.1 nameable), ← ih]
    | dropped other rest ih => rw [List.filter_cons, if_neg (mt nameable_iff.2 other), ← ih]
  · rintro rfl
    induction cs with
    | nil => exact .nil
    | cons c cs ih =>
      by_cases nameable : Nameable c
      · rw [List.filter_cons, if_pos (nameable_iff.1 nameable)]
        exact .kept nameable ih
      · rw [List.filter_cons, if_neg (mt nameable_iff.2 nameable)]
        exact .dropped nameable ih

/-- The encoder names objects in this way, and there is no other. -/
theorem named_iff {typeName name : String} :
    Named typeName name ↔ name = objectName typeName := by
  rw [Named, restricted_iff, objectName, ← String.toList_inj, String.toList_ofList]

/-! ## Scalars -/

/-- The built-in scalar of a primitive: all integers are one, all floats, and both kinds of strings.
-/
def primitiveScalar : Primitive → Scalar
  | .bool => .boolean
  | .str | .string => .string
  | .i8 | .i16 | .i32 | .i64 | .i128 | .isize => .int
  | .u8 | .u16 | .u32 | .u64 | .u128 | .usize => .int
  | .f32 | .f64 => .float

/-- The built-in scalar of a type that is described without a declaration.  A bare date is no point
in time, and nothing is known of a dynamic value. -/
def nativeScalar? : Native → Option Scalar
  | .primitive kind => some (primitiveScalar kind)
  | .systemTime | .naiveDateTime | .dateTimeUtc | .dateTimeLocal | .dateTimeFixedOffset =>
    some .dateTime
  | .naiveDate | .anyValue | .anySendSyncValue => none

/-- The built-in scalar of a type: a declaration may describe a primitive. -/
def scalar? (U : Universe n) : TypeExpr n → Option Scalar
  | .native type => nativeScalar? type
  | .declared index =>
    match (U.declaration index).body with
    | .primitive kind => some (primitiveScalar kind)
    | .struct _ | .closed | .dynamic => none
  | .list _ _ | .array _ _ | .pointer _ _ | .map _ _ _ => none

theorem primitiveScalar_eq (kind : Primitive) : primitiveScalar kind = kind.scalar := by
  cases kind <;> rfl

/-- The encoder finds the same scalar of a type. -/
theorem scalar?_eq (U : Universe n) (type : TypeExpr n) :
    scalar? U type = (U.info type).scalar? := by
  cases type with
  | native type =>
    cases type with
    | primitive kind => exact congrArg some (primitiveScalar_eq kind)
    | _ => rfl
  | declared index =>
    simp only [scalar?, Universe.info, Universe.detail]
    cases (U.declaration index).body with
    | primitive kind => exact congrArg some (primitiveScalar_eq kind)
    | struct | closed | dynamic => rfl
  | list | array | pointer | map => rfl

/-! ## Marks -/

/-- The type of a field under a tag, by the meaning of its own type: a mark asks for a non-null
layer on top, and one is enough. -/
def typeUnder (tag : FieldTag) : SchemaType → SchemaType
  | .nonNull inner => .nonNull inner
  | nullable => if tag.nonNull then .nonNull nullable else nullable

/-- The encoder makes the same type of a mark. -/
theorem typeUnder_eq (tag : FieldTag) (resolved : SchemaType) :
    typeUnder tag resolved = Encoder.taggedType tag resolved := by
  unfold Encoder.taggedType
  cases resolved with
  | nonNull inner => exact (ite_self _).symm
  | scalar | list | object => rfl

/-! ## Meanings -/

section Meaning

variable (U : Universe n) (hooks : TypeExpr n → Hooks)

/-- The schema type that a type without pointers has by itself: that of its provider, or else its
scalar. -/
def leaf? (type : TypeExpr n) : Option SchemaType :=
  (hooks type).typeProvider.or ((scalar? U type).map .scalar)

/-- The handle of a struct whose objects are numbered in an order. -/
def handle? (order : List (TypeExpr n)) (struct : TypeExpr n) : Option ObjectId :=
  if struct ∈ order then some ⟨order.idxOf struct + 1⟩ else none

/-- The meaning of a type when the objects of the structs are numbered in an order.  A type whose
meaning needs another struct, or which is not recognized, has none. -/
def meaning (order : List (TypeExpr n)) : TypeExpr n → Option SchemaType
  | .pointer _ pointee => meaning order pointee
  | .list shape item => (leaf? U hooks (.list shape item)).or ((meaning order item).map .list)
  | .array item length => (leaf? U hooks (.array item length)).or ((meaning order item).map .list)
  | type =>
    (leaf? U hooks type).or
      (if U.isStruct type then (handle? order type).map .object else none)

/-- The struct whose object the meaning of a type needs. -/
def needed? : TypeExpr n → Option (TypeExpr n)
  | .pointer _ pointee => needed? pointee
  | .list shape item => if (leaf? U hooks (.list shape item)).isSome then none else needed? item
  | .array item length =>
    if (leaf? U hooks (.array item length)).isSome then none else needed? item
  | type => if (leaf? U hooks type).isNone && U.isStruct type then some type else none

/-- The structs that tagged fields need. -/
def allNeeded (fields : List (RecordField n)) : List (TypeExpr n) :=
  fields.filterMap fun field =>
    match field.content with
    | .tagged _ content => needed? U hooks content
    | _ => none

/-- The structs that the tagged fields of a struct need. -/
def nested (type : TypeExpr n) : List (TypeExpr n) :=
  match U.detail type with
  | .struct fields => allNeeded U hooks fields
  | _ => []

/-- A type without provider leads to the types of its tagged fields, or to its item. -/
inductive Leads : TypeExpr n → TypeExpr n → Prop
  | field {type fields field text content} (free : (hooks type).typeProvider = none)
      (struct : U.detail type = .struct fields) (listed : field ∈ fields)
      (tagged : field.content = .tagged text content) : Leads type content.withoutPointers
  | item {type item} (free : (hooks type).typeProvider = none) (listed : type.item? = some item) :
      Leads type item.withoutPointers

/-- The types that are reached from a type through tagged fields and list items, below all pointers.
-/
abbrev Reached (root type : TypeExpr n) : Prop := Relation.ReflTransGen (Leads U hooks) root type

/-- A type that is neither provided nor a scalar, a struct or a list. -/
structure Unrecognized (type : TypeExpr n) : Prop where
  plain : type.isPointer = false
  leaf : leaf? U hooks type = none
  noStruct : U.isStruct type = false
  noList : type.item? = none

end Meaning

section Meaning

variable {U : Universe n} {hooks : TypeExpr n → Hooks} {order order' : List (TypeExpr n)}
  {type item : TypeExpr n} {resolved : SchemaType}

theorem handle?_mono (grown : order <+: order') {id : ObjectId}
    (numbered : handle? order type = some id) : handle? order' type = some id := by
  obtain ⟨later, rfl⟩ := grown
  unfold handle? at numbered ⊢
  split at numbered
  · next inside =>
    rwa [if_pos (List.mem_append_left later inside), List.idxOf_append, if_pos inside]
  · cases numbered

theorem mem_of_handle? {id : ObjectId} (numbered : handle? order type = some id) :
    type ∈ order := by
  unfold handle? at numbered
  split at numbered
  · assumption
  · cases numbered

/-! ### Types by themselves -/

/-- What a type has by itself is what its hooks provide, or else its scalar. -/
theorem leaf?_eq (type : TypeExpr n) :
    leaf? U hooks type =
      ((hooks type).typeProvider).or ((U.info type).scalar?.map .scalar) := by
  rw [leaf?, scalar?_eq]

theorem leaf?_of_struct (struct : U.isStruct type) (free : (hooks type).typeProvider = none) :
    leaf? U hooks type = none := by
  rw [leaf?_eq, scalar?_eq_none_of_struct struct, Option.map_none, Option.or_none, free]

theorem leaf?_of_item (listed : type.item? = some item)
    (free : (hooks type).typeProvider = none) : leaf? U hooks type = none := by
  rw [leaf?_eq, scalar?_eq_none_of_item listed, Option.map_none, Option.or_none, free]

/-! ### Meanings by the structure of a type -/

theorem meaning_eq (plain : type.isPointer = false) :
    meaning U hooks order type = (leaf? U hooks type).or
      (match type.item? with
        | some item => (meaning U hooks order item).map .list
        | none => if U.isStruct type then (handle? order type).map .object else none) := by
  cases type with
  | pointer => cases plain
  | native | declared | list | array | map => rfl

theorem needed?_eq (plain : type.isPointer = false) :
    needed? U hooks type =
      if (leaf? U hooks type).isSome then none
      else
        match type.item? with
        | some item => needed? U hooks item
        | none => if U.isStruct type then some type else none := by
  cases type with
  | pointer => cases plain
  | list | array => rfl
  | native | declared | map =>
    unfold needed?
    cases leaf? U hooks _ <;> rfl

theorem meaning_withoutPointers (order : List (TypeExpr n)) (type : TypeExpr n) :
    meaning U hooks order type.withoutPointers = meaning U hooks order type := by
  induction type with
  | pointer shape pointee ih => exact ih
  | native | declared | list | array | map => rfl

theorem meaning_of_leaf (plain : type.isPointer = false)
    (leaf : leaf? U hooks type = some resolved) :
    meaning U hooks order type = some resolved := by
  rw [meaning_eq plain, leaf, Option.some_or]

theorem meaning_of_item (leaf : leaf? U hooks type = none) (listed : type.item? = some item) :
    meaning U hooks order type = (meaning U hooks order item).map .list := by
  rw [meaning_eq (isPointer_eq_false_of_item listed), leaf, listed, Option.none_or]

theorem meaning_of_struct (leaf : leaf? U hooks type = none) (struct : U.isStruct type) :
    meaning U hooks order type = (handle? order type).map .object := by
  rw [meaning_eq (isPointer_eq_false_of_struct struct), leaf, item?_eq_none_of_struct struct,
    Option.none_or, if_pos struct]

theorem needed?_of_item (leaf : leaf? U hooks type = none) (listed : type.item? = some item) :
    needed? U hooks type = needed? U hooks item := by
  rw [needed?_eq (isPointer_eq_false_of_item listed), leaf, listed]
  rfl

theorem needed?_of_struct (leaf : leaf? U hooks type = none) (struct : U.isStruct type) :
    needed? U hooks type = some type := by
  rw [needed?_eq (isPointer_eq_false_of_struct struct), leaf, item?_eq_none_of_struct struct]
  simp [struct]

theorem Unrecognized.meaning (unrecognized : Unrecognized U hooks type) :
    meaning U hooks order type = none := by
  rw [meaning_eq unrecognized.plain, unrecognized.leaf, unrecognized.noList]
  simp [unrecognized.noStruct]

/-- A meaning stays when more structs are numbered. -/
theorem meaning_mono (grown : order <+: order')
    (means : meaning U hooks order type = some resolved) :
    meaning U hooks order' type = some resolved := by
  induction type generalizing resolved with
  | pointer shape pointee ih => exact ih means
  | list shape item ih | array item length ih =>
    rw [meaning_eq rfl] at means ⊢
    cases leaf : leaf? U hooks _ with
    | some given =>
      rw [leaf] at means
      exact means
    | none =>
      rw [leaf, Option.none_or] at means
      obtain ⟨inner, known, rfl⟩ := Option.map_eq_some_iff.1 means
      exact Option.map_eq_some_iff.2 ⟨inner, ih known, rfl⟩
  | native | declared | map =>
    rw [meaning_eq rfl] at means ⊢
    cases leaf : leaf? U hooks _ with
    | some given =>
      rw [leaf] at means
      exact means
    | none =>
      rw [leaf, Option.none_or] at means
      rw [Option.none_or]
      simp only [TypeExpr.item?] at means ⊢
      split at means
      · next struct =>
        obtain ⟨id, numbered, rfl⟩ := Option.map_eq_some_iff.1 means
        rw [if_pos struct, handle?_mono grown numbered]
        rfl
      · cases means

/-- A type has a meaning only if the struct that it needs is numbered. -/
theorem needed?_mem {struct : TypeExpr n} (means : meaning U hooks order type = some resolved)
    (needs : needed? U hooks type = some struct) : struct ∈ order := by
  induction type generalizing resolved with
  | pointer shape pointee ih => exact ih means needs
  | list shape item ih | array item length ih =>
    rw [meaning_eq rfl] at means
    rw [needed?_eq rfl] at needs
    cases leaf : leaf? U hooks _ with
    | some given =>
      rw [leaf] at needs
      cases needs
    | none =>
      rw [leaf, Option.none_or] at means
      rw [leaf] at needs
      obtain ⟨inner, known, -⟩ := Option.map_eq_some_iff.1 means
      exact ih known needs
  | native | declared | map =>
    rw [meaning_eq rfl] at means
    rw [needed?_eq rfl] at needs
    cases leaf : leaf? U hooks _ with
    | some given =>
      rw [leaf] at needs
      cases needs
    | none =>
      rw [leaf, Option.none_or] at means
      rw [leaf] at needs
      simp only [TypeExpr.item?] at means needs
      split at means
      · next isStruct =>
        obtain ⟨id, numbered, -⟩ := Option.map_eq_some_iff.1 means
        rw [if_pos isStruct] at needs
        cases needs
        exact mem_of_handle? numbered
      · cases means

theorem allNeeded_cons_of_untagged {field : RecordField n} (untagged : field.tag? = none)
    (rest : List (RecordField n)) :
    allNeeded U hooks (field :: rest) = allNeeded U hooks rest := by
  refine List.filterMap_cons_none ?_
  unfold RecordField.tag? at untagged
  split
  · next tagged => simp [tagged] at untagged
  · rfl

theorem allNeeded_cons_of_tagged {field : RecordField n} {text : String}
    (content : field.content = .tagged text type) (rest : List (RecordField n)) :
    allNeeded U hooks (field :: rest) =
      (needed? U hooks type).toList ++ allNeeded U hooks rest := by
  unfold allNeeded
  cases needs : needed? U hooks type with
  | none => exact List.filterMap_cons_none (by rw [content]; exact needs)
  | some struct => exact List.filterMap_cons_some (by rw [content]; exact needs)

/-! ### Types that are reached -/

/-- A type leads to what it depends on, below all pointers. -/
theorem Leads.dependency (leads : Leads U hooks item type) :
    ∃ next ∈ U.dependencies item, type = next.withoutPointers := by
  cases leads with
  | field free struct listed tagged =>
    exact ⟨_, U.mem_dependencies_of_field struct listed tagged, rfl⟩
  | item free listed => exact ⟨_, U.mem_dependencies_of_item listed, rfl⟩

theorem Leads.plain (leads : Leads U hooks item type) : type.isPointer = false := by
  cases leads <;> exact TypeExpr.isPointer_withoutPointers _

theorem Reached.plain {root : TypeExpr n} (plain : root.isPointer = false)
    (reached : Reached U hooks root type) : type.isPointer = false := by
  cases reached with
  | refl => exact plain
  | tail _ last => exact last.plain

end Meaning

/-! ## Objects -/

/-- The field that a tag gives to an object. -/
def exposed (hooks : TypeExpr n → Hooks) (tag : FieldTag) (content : TypeExpr n)
    (resolved : SchemaType) : Field :=
  { name := tag.name
    type := typeUnder tag resolved
    resolver := (hooks content.withoutPointers).resolverProvider }

/-- What a tagged field gives to an object by the meaning of its type. -/
def Means (U : Universe n) (hooks : TypeExpr n → Hooks) (order : List (TypeExpr n))
    (_ : List (RecordField n)) (tag : FieldTag) (content : TypeExpr n) (field : Field) : Prop :=
  ∃ resolved, meaning U hooks order content = some resolved ∧
    field = exposed hooks tag content resolved

/-- An object exposes what the tags of fields say: their names, each in the place where it occurs
first, and under each name the last field that carries it, with the meaning of its type. -/
structure Describes (U : Universe n) (hooks : TypeExpr n → Hooks) (order : List (TypeExpr n))
    (fields : List (RecordField n)) (object : ObjectType) : Prop where
  names : object.fields.names = exposedNames fields
  last : ∀ before field after text content, fields = before ++ field :: after →
    field.content = .tagged text content → (FieldTag.parse text).name ∉ tagNames after →
      ∃ resolved, meaning U hooks order content = some resolved ∧
        object.field? (FieldTag.parse text).name =
          some (exposed hooks (FieldTag.parse text) content resolved)
  recognized : ∀ field ∈ fields, ∀ text content, field.content = .tagged text content →
    ∃ resolved, meaning U hooks order content = some resolved
  indexed : object.fields.Indexed

namespace Describes

variable {U : Universe n} {hooks : TypeExpr n → Hooks} {order order' : List (TypeExpr n)}
  {fields : List (RecordField n)} {field : RecordField n} {object : ObjectType}

/-- The fields of the object are gathered from the tags. -/
theorem gathers (describes : Describes U hooks order fields object) :
    Gathers (Means U hooks order) fields object.fields where
  names := describes.names
  last before field after text content split tagged free := by
    obtain ⟨resolved, means, found⟩ :=
      describes.last before field after text content split tagged free
    exact ⟨_, found, resolved, means, rfl⟩
  indexed := describes.indexed

theorem of_gathers (gathers : Gathers (Means U hooks order) fields object.fields)
    (recognized : ∀ field ∈ fields, ∀ text content, field.content = .tagged text content →
      ∃ resolved, meaning U hooks order content = some resolved) :
    Describes U hooks order fields object where
  names := gathers.names
  last before field after text content split tagged free := by
    obtain ⟨value, found, resolved, means, rfl⟩ :=
      gathers.last before field after text content split tagged free
    exact ⟨resolved, means, found⟩
  recognized := recognized
  indexed := gathers.indexed

theorem nil (empty : object.fields = .empty) : Describes U hooks order [] object :=
  of_gathers (empty ▸ .nil) fun _ listed => nomatch listed

theorem mono (describes : Describes U hooks order fields object) (grown : order <+: order') :
    Describes U hooks order' fields object where
  names := describes.names
  last before field after text content split tagged free := by
    obtain ⟨resolved, means, found⟩ :=
      describes.last before field after text content split tagged free
    exact ⟨resolved, meaning_mono grown means, found⟩
  recognized field listed text content tagged := by
    obtain ⟨resolved, means⟩ := describes.recognized field listed text content tagged
    exact ⟨resolved, meaning_mono grown means⟩
  indexed := describes.indexed

theorem untagged (describes : Describes U hooks order fields object)
    (untagged : field.tag? = none) :
    Describes U hooks order (fields ++ [field]) object := by
  refine of_gathers (describes.gathers.untagged untagged) fun other listed text content tagged => ?_
  rcases List.mem_append.1 listed with old | new
  · exact describes.recognized other old text content tagged
  · cases List.mem_singleton.1 new
    simp [RecordField.tag?, tagged] at untagged

theorem tagged (describes : Describes U hooks order fields object) {text : String}
    {content : TypeExpr n} (tagged : field.content = .tagged text content) {resolved : SchemaType}
    (means : meaning U hooks order content = some resolved) :
    Describes U hooks order (fields ++ [field])
      (object.addField (FieldTag.parse text).name
        (exposed hooks (FieldTag.parse text) content resolved)).2 := by
  refine of_gathers (describes.gathers.tagged tagged ⟨resolved, means, rfl⟩)
    fun other listed text' content' tagged' => ?_
  rcases List.mem_append.1 listed with old | new
  · exact describes.recognized other old text' content' tagged'
  · cases List.mem_singleton.1 new
    rw [tagged] at tagged'
    cases tagged'
    exact ⟨resolved, means⟩

end Describes

/-! ## The schema -/

/-- The object at a position is finished: it is named after its struct and exposes its fields. -/
def Finished (U : Universe n) (hooks : TypeExpr n → Hooks) (order : List (TypeExpr n))
    (arena : Arena) (position : Nat) (struct : TypeExpr n) : Prop :=
  ∃ fields object, U.detail struct = .struct fields ∧ arena.get? ⟨position + 1⟩ = some object ∧
    Named (U.name struct) object.name ∧ object.description = none ∧
      Describes U hooks order fields object

/-- An arena that holds the reference schema of a struct: one object for each struct without
provider that is reached, in depth-first order, and no other object. -/
structure Schema (U : Universe n) (hooks : TypeExpr n → Hooks) (root : TypeExpr n)
    (order : List (TypeExpr n)) (arena : Arena) : Prop where
  walk : DepthFirst (nested U hooks) [] [root] order
  only : ∀ other, DepthFirst (nested U hooks) [] [root] other → other = order
  nodup : order.Nodup
  structs : ∀ type, type ∈ order ↔
    Reached U hooks root type ∧ U.isStruct type ∧ (hooks type).typeProvider = none
  size : arena.size = order.length
  objects : ∀ position struct, order[position]? = some struct →
    Finished U hooks order arena position struct

section Schema

variable {U : Universe n} {hooks : TypeExpr n → Hooks} {order order' : List (TypeExpr n)}
  {root type struct : TypeExpr n} {resolved : SchemaType}

theorem Finished.mono {arena arena' : Arena} {position : Nat}
    (finished : Finished U hooks order arena position struct)
    (same : arena'.get? ⟨position + 1⟩ = arena.get? ⟨position + 1⟩) (grown : order <+: order') :
    Finished U hooks order' arena' position struct := by
  obtain ⟨fields, object, detail, found, name, description, describes⟩ := finished
  exact ⟨fields, object, detail, same.trans found, name, description, describes.mono grown⟩

/-- A struct without provider has a meaning only if it is numbered. -/
theorem mem_of_meaning (isStruct : U.isStruct type) (free : (hooks type).typeProvider = none)
    (means : meaning U hooks order type = some resolved) : type ∈ order := by
  rw [meaning_of_struct (leaf?_of_struct isStruct free) isStruct,
    Option.map_eq_some_iff] at means
  obtain ⟨id, numbered, -⟩ := means
  exact mem_of_handle? numbered

/-- Where all objects are finished, every type that is reached has a meaning. -/
theorem Reached.means {arena : Arena} (reached : Reached U hooks root type)
    (means : meaning U hooks order root = some resolved)
    (finished : ∀ position struct, order[position]? = some struct →
      Finished U hooks order arena position struct) :
    ∃ resolved, meaning U hooks order type = some resolved := by
  induction reached with
  | refl => exact ⟨resolved, means⟩
  | @tail holder next first last ih =>
    obtain ⟨before, known⟩ := ih
    cases last with
    | @field fields field text content free detail listed tagged =>
      have isStruct : U.isStruct holder := Universe.isStruct_of_detail detail
      obtain ⟨position, numbered⟩ :=
        List.mem_iff_getElem?.1 (mem_of_meaning isStruct free known)
      obtain ⟨fields', object, detail', -, -, -, describes⟩ := finished position holder numbered
      rw [detail] at detail'
      cases detail'
      rw [meaning_withoutPointers]
      exact describes.recognized field listed text content tagged
    | @item item free listed =>
      rw [meaning_of_item (leaf?_of_item listed free) listed,
        Option.map_eq_some_iff] at known
      obtain ⟨inner, known, -⟩ := known
      exact ⟨inner, by rw [meaning_withoutPointers, known]⟩

end Schema

end Reference

end RecordSchema
