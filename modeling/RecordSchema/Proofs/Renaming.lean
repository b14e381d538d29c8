import Mathlib.Logic.Equiv.Defs
import RecordSchema.Proofs.Handles
import RecordSchema.Proofs.Reference

/-!
# Schemas up to a renaming of objects

Two orders of the same structs give their objects different handles, and nothing else is different.
`SchemaType.rename` and its companions replace the handles in schema types, objects and answers, and
`renumbering` is the bijection between the handles of the two orders.  Under it the meaning of a
type in one order is its meaning in the other (`meaning_rename`), and so are the answers to requests
(`Request.reference?_rename`) and the fields of objects (`Describes.rename`).

What providers give must not name a handle, since nobody renames it.
-/

namespace RecordSchema

variable {n : Nat}

/-! ## Renaming handles -/

/-- A schema type with other handles. -/
def SchemaType.rename (f : ObjectId → ObjectId) : SchemaType → SchemaType
  | .scalar leaf => .scalar leaf
  | .list inner => .list (inner.rename f)
  | .nonNull inner => .nonNull (inner.rename f)
  | .object id => .object (f id)

/-- An ordered map with other values. -/
def OrderedMap.map {α β : Type} (f : α → β) (m : OrderedMap α) : OrderedMap β :=
  ⟨m.entries.map fun entry => (entry.1, f entry.2), m.index⟩

def Argument.rename (f : ObjectId → ObjectId) (argument : Argument) : Argument :=
  { argument with type := argument.type.rename f }

def Field.rename (f : ObjectId → ObjectId) (field : Field) : Field :=
  { field with
    type := field.type.rename f
    arguments := field.arguments.map (Argument.rename f) }

def ObjectType.rename (f : ObjectId → ObjectId) (object : ObjectType) : ObjectType :=
  { object with fields := object.fields.map (Field.rename f) }

def Answer.rename (f : ObjectId → ObjectId) : Answer → Answer
  | .object id => .object (f id)
  | .arguments given => .arguments (given.map (Argument.rename f))
  | .type given => .type (given.rename f)
  | .field given => .field (given.rename f)
  | .attached registered => .attached registered

/-- Two objects that show the same: name, description, and fields in their order. -/
structure ObjectType.Alike (object object' : ObjectType) : Prop where
  name : object'.name = object.name
  description : object'.description = object.description
  fields : object'.fields.entries = object.fields.entries

namespace SchemaType

variable (f : ObjectId → ObjectId) (type : SchemaType)

theorem rename_of_handles_eq_nil {type : SchemaType} (free : type.handles = []) :
    type.rename f = type := by
  induction type with
  | scalar => rfl
  | list inner ih | nonNull inner ih => exact congrArg _ (ih free)
  | object id => cases free

@[simp] theorem isNonNull_rename : (type.rename f).isNonNull = type.isNonNull := by
  cases type <;> rfl

theorem rename_required : type.required.rename f = (type.rename f).required := by
  unfold required
  rw [isNonNull_rename]
  split <;> rfl

end SchemaType

namespace OrderedMap

variable {α β : Type} (f : α → β) {m m' : OrderedMap α}

@[simp] theorem map_empty : (empty : OrderedMap α).map f = empty := rfl

@[simp] theorem names_map (m : OrderedMap α) : (m.map f).names = m.names := by
  simp [names, map]

theorem get?_map (m : OrderedMap α) (name : String) :
    (m.map f).get? name = (m.get? name).map f := by
  unfold get? map
  cases m.index.get? name with
  | none => rfl
  | some position => simp [Function.comp_def]

theorem indexed_map (h : m.Indexed) : (m.map f).Indexed := by
  intro name position
  rw [names_map]
  exact h name position

theorem map_insert (m : OrderedMap α) (name : String) (value : α) :
    (m.insert name value).2.map f = ((m.map f).insert name (f value)).2 := by
  unfold insert map
  cases m.index.get? name with
  | none => simp
  | some position =>
    simp only [OrderedMap.mk.injEq, and_true]
    apply List.ext_getElem?
    intro place
    by_cases same : position = place
    · subst same
      simp [Function.comp_def]
    · simp [same]

/-- A map is known by its names, in their order, and by what it has under each of them. -/
theorem entries_eq (h : m.Indexed) (h' : m'.Indexed) (names : m'.names = m.names)
    (values : ∀ name ∈ m.names, m'.get? name = m.get? name) : m'.entries = m.entries := by
  -- The index finds the value at a position under the name at this position.
  have stored : ∀ {m : OrderedMap α}, m.Indexed → ∀ (position : Nat) (name : String),
      m.names[position]? = some name →
        m.entries[position]? = (m.get? name).map fun value => (name, value) := by
    intro m h position name named
    unfold get?
    rw [(h name position).2 named, Option.bind_some]
    unfold OrderedMap.names at named
    rw [List.getElem?_map, Option.map_eq_some_iff] at named
    obtain ⟨entry, found, rfl⟩ := named
    rw [found]
    rfl
  apply List.ext_getElem?
  intro position
  cases named : m.names[position]? with
  | none =>
    have outside := List.getElem?_eq_none_iff.1 named
    have outside' := List.getElem?_eq_none_iff.1 (names ▸ named : m'.names[position]? = none)
    unfold OrderedMap.names at outside outside'
    rw [List.length_map] at outside outside'
    rw [List.getElem?_eq_none outside, List.getElem?_eq_none outside']
  | some name =>
    rw [stored h position name named, stored h' position name (by rw [names, named]),
      values name (List.mem_of_getElem? named)]

end OrderedMap

namespace Reference

/-! ## Answers by reference -/

section Answers

variable (U : Universe n) (hooks : TypeExpr n → Hooks) (order : List (TypeExpr n))

/-- The arguments that fields give, in addition to others. -/
def argumentsFrom (start : ArgumentMap) (fields : List (RecordField n)) : Option ArgumentMap :=
  fields.foldlM (fun arguments field =>
    match field.content with
    | .tagged text content => (meaning U hooks order content).map fun resolved =>
      (arguments.insert (FieldTag.parse text).name
        { type := typeUnder (.parse text) resolved }).2
    | _ => some arguments) start

variable {U hooks order}

theorem argumentsFrom_cons_of_untagged {field : RecordField n} (untagged : field.tag? = none)
    (start : ArgumentMap) (rest : List (RecordField n)) :
    argumentsFrom U hooks order start (field :: rest) =
      argumentsFrom U hooks order start rest := by
  unfold argumentsFrom
  rw [List.foldlM_cons]
  cases content : field.content with
  | hidden | untagged => rfl
  | tagged text type => simp [RecordField.tag?, content] at untagged

theorem argumentsFrom_cons_of_tagged {field : RecordField n} {text : String} {type : TypeExpr n}
    (content : field.content = .tagged text type) (start : ArgumentMap)
    (rest : List (RecordField n)) :
    argumentsFrom U hooks order start (field :: rest) =
      (meaning U hooks order type).bind fun resolved =>
        argumentsFrom U hooks order (start.insert (FieldTag.parse text).name
          { type := typeUnder (.parse text) resolved }).2 rest := by
  unfold argumentsFrom
  rw [List.foldlM_cons]
  simp only [content]
  cases meaning U hooks order type <;> rfl

end Answers

end Reference

open Reference

/-- The answer to a request without options by the reference schema, when the objects of the structs
are numbered in an order. -/
def Request.reference? (U : Universe n) (hooks : TypeExpr n → Hooks) (order : List (TypeExpr n)) :
    Request n → Option Answer
  | .structOf type _ =>
    ((meaning U hooks order type).bind SchemaType.object?).map .object
  | .argsOf type =>
    match U.detail type.withoutPointers with
    | .struct fields => (argumentsFrom U hooks order .empty fields).map .arguments
    | _ => none
  | .arrayOf type _ => (meaning U hooks order type).map fun item => .type (.list item)
  | .resolveType type => (meaning U hooks order type).map .type
  | _ => none

section Growth

variable {U : Universe n} {hooks : TypeExpr n → Hooks} {order order' : List (TypeExpr n)}

theorem Reference.argumentsFrom_mono (grown : order <+: order') {fields : List (RecordField n)}
    {start arguments : ArgumentMap}
    (known : argumentsFrom U hooks order start fields = some arguments) :
    argumentsFrom U hooks order' start fields = some arguments := by
  induction fields generalizing start with
  | nil => exact known
  | cons field rest ih =>
    cases content : field.content with
    | hidden | untagged =>
      have untagged : field.tag? = none := by simp [RecordField.tag?, content]
      rw [argumentsFrom_cons_of_untagged untagged] at known ⊢
      exact ih known
    | tagged text type =>
      rw [argumentsFrom_cons_of_tagged content] at known ⊢
      obtain ⟨resolved, means, later⟩ := Option.bind_eq_some_iff.1 known
      exact Option.bind_eq_some_iff.2 ⟨resolved, meaning_mono grown means, ih later⟩

/-- The answer to a request stays when more structs are numbered. -/
theorem Request.reference?_mono (grown : order <+: order') {request : Request n} {answer : Answer}
    (known : request.reference? U hooks order = some answer) :
    request.reference? U hooks order' = some answer := by
  cases request with
  | structOf type options =>
    obtain ⟨id, shown, rfl⟩ := Option.map_eq_some_iff.1 known
    obtain ⟨resolved, means, named⟩ := Option.bind_eq_some_iff.1 shown
    exact Option.map_eq_some_iff.2
      ⟨id, Option.bind_eq_some_iff.2 ⟨resolved, meaning_mono grown means, named⟩, rfl⟩
  | argsOf type =>
    simp only [Request.reference?] at known ⊢
    cases detail : U.detail type.withoutPointers with
    | struct fields =>
      rw [detail] at known
      obtain ⟨arguments, given, rfl⟩ := Option.map_eq_some_iff.1 known
      exact Option.map_eq_some_iff.2 ⟨arguments, argumentsFrom_mono grown given, rfl⟩
    | primitive | list | array | pointer | map | closed | dynamic =>
      rw [detail] at known
      cases known
  | arrayOf type options | resolveType type =>
    obtain ⟨resolved, means, rfl⟩ := Option.map_eq_some_iff.1 known
    exact Option.map_eq_some_iff.2 ⟨resolved, meaning_mono grown means, rfl⟩
  | structOfInfo | argsOfInfo | fieldOf | registerHook | insertHook => cases known

end Growth

/-! ## Meanings in another order -/

section Rename

variable {U : Universe n} {hooks : TypeExpr n → Hooks} {order order' : List (TypeExpr n)}
  {f : ObjectId → ObjectId}

namespace Reference

theorem handles_of_leaf?
    (free : ∀ type given, (hooks type).typeProvider = some given → given.handles = [])
    {type : TypeExpr n} {given : SchemaType} (leaf : leaf? U hooks type = some given) :
    given.handles = [] := by
  rw [leaf?_eq] at leaf
  cases hook : (hooks type).typeProvider with
  | some provided =>
    rw [hook, Option.some_or] at leaf
    rw [← Option.some.inj leaf]
    exact free type provided hook
  | none =>
    rw [hook, Option.none_or, Option.map_eq_some_iff] at leaf
    obtain ⟨scalar, -, rfl⟩ := leaf
    rfl

theorem rename_typeUnder (tag : FieldTag) (resolved : SchemaType) :
    (typeUnder tag resolved).rename f = typeUnder tag (resolved.rename f) := by
  rw [typeUnder_eq, typeUnder_eq]
  unfold Encoder.taggedType
  split
  · rw [SchemaType.rename_required]
  · rfl

variable (free : ∀ type given, (hooks type).typeProvider = some given → given.handles = [])
  (numbers : ∀ struct, handle? order' struct = (handle? order struct).map f)

include free numbers

theorem meaning_rename (type : TypeExpr n) :
    meaning U hooks order' type = (meaning U hooks order type).map (SchemaType.rename f) := by
  induction type with
  | pointer shape pointee ih => exact ih
  | list shape item ih | array item length ih =>
    rw [meaning_eq rfl, meaning_eq rfl]
    cases leaf : leaf? U hooks _ with
    | some given =>
      have own := SchemaType.rename_of_handles_eq_nil f (handles_of_leaf? free leaf)
      simp [own]
    | none =>
      simp only [TypeExpr.item?, Option.none_or, ih, Option.map_map]
      rfl
  | native | declared | map =>
    rw [meaning_eq rfl, meaning_eq rfl]
    cases leaf : leaf? U hooks _ with
    | some given =>
      have own := SchemaType.rename_of_handles_eq_nil f (handles_of_leaf? free leaf)
      simp [own]
    | none =>
      simp only [TypeExpr.item?, Option.none_or]
      split
      · rw [numbers, Option.map_map, Option.map_map]
        rfl
      · rfl

theorem argumentsFrom_rename (start : ArgumentMap) (fields : List (RecordField n)) :
    argumentsFrom U hooks order' (start.map (Argument.rename f)) fields =
      (argumentsFrom U hooks order start fields).map (OrderedMap.map (Argument.rename f)) := by
  induction fields generalizing start with
  | nil => rfl
  | cons field rest ih =>
    cases content : field.content with
    | hidden | untagged =>
      have untagged : field.tag? = none := by simp [RecordField.tag?, content]
      rw [argumentsFrom_cons_of_untagged untagged, argumentsFrom_cons_of_untagged untagged, ih]
    | tagged text type =>
      rw [argumentsFrom_cons_of_tagged content, argumentsFrom_cons_of_tagged content,
        meaning_rename free numbers]
      cases meaning U hooks order type with
      | none => rfl
      | some resolved =>
        have renamed : Argument.rename f { type := typeUnder (.parse text) resolved } =
            { type := typeUnder (.parse text) (resolved.rename f) } := by
          rw [Argument.rename, rename_typeUnder]
        have next := ih (start.insert (FieldTag.parse text).name
          { type := typeUnder (.parse text) resolved }).2
        rw [OrderedMap.map_insert, renamed] at next
        exact next

end Reference

/-- A request has the same answer in both orders, up to the handles. -/
theorem Request.reference?_rename
    (free : ∀ type given, (hooks type).typeProvider = some given → given.handles = [])
    (numbers : ∀ struct, handle? order' struct = (handle? order struct).map f)
    (request : Request n) :
    request.reference? U hooks order' =
      (request.reference? U hooks order).map (Answer.rename f) := by
  cases request with
  | structOf type options =>
    simp only [Request.reference?]
    rw [meaning_rename free numbers]
    cases meaning U hooks order type with
    | none => rfl
    | some resolved => cases resolved <;> rfl
  | argsOf type =>
    simp only [Request.reference?]
    cases detail : U.detail type.withoutPointers with
    | struct fields =>
      have renamed := argumentsFrom_rename (U := U) free numbers .empty fields
      rw [OrderedMap.map_empty] at renamed
      simp only
      rw [renamed, Option.map_map, Option.map_map]
      rfl
    | primitive | list | array | pointer | map | closed | dynamic => rfl
  | arrayOf type options | resolveType type =>
    simp only [Request.reference?]
    rw [meaning_rename free numbers, Option.map_map, Option.map_map]
    rfl
  | structOfInfo | argsOfInfo | fieldOf | registerHook | insertHook => rfl

/-! ## Objects in another order -/

namespace Reference

variable (free : ∀ type given, (hooks type).typeProvider = some given → given.handles = [])
  (numbers : ∀ struct, handle? order' struct = (handle? order struct).map f)

include free numbers

/-- Objects that are described in both orders show the same fields, up to the handles. -/
theorem Describes.rename {fields : List (RecordField n)} {object object' : ObjectType}
    (describes : Describes U hooks order fields object)
    (describes' : Describes U hooks order' fields object') :
    object'.fields.entries = (object.rename f).fields.entries := by
  have names : object'.fields.names = (object.rename f).fields.names := by
    unfold ObjectType.rename
    rw [OrderedMap.names_map, describes.names, describes'.names]
  refine OrderedMap.entries_eq (OrderedMap.indexed_map _ describes.indexed) describes'.indexed
    names fun name listed => ?_
  rw [← names, describes'.names] at listed
  obtain ⟨before, field, after, text, content, split, tagged, rfl, last⟩ :=
    exists_last_of_mem_tagNames (List.mem_eraseDups.1 listed)
  obtain ⟨resolved, means, found⟩ :=
    describes.last before field after text content split tagged last
  obtain ⟨resolved', means', found'⟩ :=
    describes'.last before field after text content split tagged last
  rw [meaning_rename free numbers, means] at means'
  cases means'
  have renamed : Field.rename f (exposed hooks (.parse text) content resolved) =
      exposed hooks (.parse text) content (resolved.rename f) := by
    simp only [Field.rename, exposed, rename_typeUnder, OrderedMap.map_empty]
  unfold ObjectType.field? at found found'
  unfold ObjectType.rename
  rw [OrderedMap.get?_map, found, found', Option.map_some, renamed]

/-- The objects of a struct that are finished in both orders show the same, up to the handles. -/
theorem Finished.rename {arena arena' : Arena} {position position' : Nat} {struct : TypeExpr n}
    (finished : Finished U hooks order arena position struct)
    (finished' : Finished U hooks order' arena' position' struct) :
    ∃ object object', arena.get? ⟨position + 1⟩ = some object ∧
      arena'.get? ⟨position' + 1⟩ = some object' ∧ (object.rename f).Alike object' := by
  obtain ⟨fields, object, detail, found, name, description, describes⟩ := finished
  obtain ⟨fields', object', detail', found', name', description', describes'⟩ := finished'
  rw [detail] at detail'
  cases detail'
  exact ⟨object, object', found, found', (named_iff.1 name').trans (named_iff.1 name).symm,
    description'.trans description.symm, describes.rename free numbers describes'⟩

end Reference

end Rename

/-! ## From one order to another -/

namespace Reference

variable {order order' : List (TypeExpr n)}

/-- The handle that the struct of a handle has in another order.  Handles without struct stay. -/
def renumber (order order' : List (TypeExpr n)) (id : ObjectId) : ObjectId :=
  match id.number with
  | 0 => id
  | position + 1 => ((order[position]?).bind (handle? order')).getD id

theorem handle?_of_getElem? (nodup : order.Nodup) {position : Nat} {struct : TypeExpr n}
    (numbered : order[position]? = some struct) : handle? order struct = some ⟨position + 1⟩ := by
  obtain ⟨below, rfl⟩ := List.getElem?_eq_some_iff.1 numbered
  unfold handle?
  rw [if_pos (List.getElem_mem below), nodup.idxOf_getElem]

theorem getElem?_of_handle? {struct : TypeExpr n} {id : ObjectId}
    (numbered : handle? order struct = some id) :
    ∃ position, id = ⟨position + 1⟩ ∧ order[position]? = some struct := by
  unfold handle? at numbered
  split at numbered
  · next inside =>
    cases numbered
    exact ⟨_, rfl, List.getElem?_eq_some_iff.2
      ⟨List.idxOf_lt_length_iff.2 inside, List.getElem_idxOf _⟩⟩
  · cases numbered

/-- A struct has the handle of its handle. -/
theorem handle?_renumber (permuted : order.Perm order') (struct : TypeExpr n) :
    handle? order' struct = (handle? order struct).map (renumber order order') := by
  cases numbered : handle? order struct with
  | none =>
    unfold handle? at numbered ⊢
    rw [if_neg]
    · rfl
    · intro inside
      rw [if_pos (permuted.mem_iff.2 inside)] at numbered
      cases numbered
  | some id =>
    obtain ⟨position, rfl, found⟩ := getElem?_of_handle? numbered
    have inside := permuted.mem_iff.1 (List.mem_of_getElem? found)
    unfold renumber
    simp only [found, Option.map_some, Option.bind_some]
    unfold handle?
    rw [if_pos inside]
    rfl

theorem renumber_renumber (permuted : order.Perm order') (nodup : order.Nodup) (id : ObjectId) :
    renumber order' order (renumber order order' id) = id := by
  obtain ⟨_ | position⟩ := id
  · rfl
  · cases found : order[position]? with
    | none =>
      have beyond : order'[position]? = none := by
        rw [List.getElem?_eq_none_iff] at found ⊢
        rwa [← permuted.length_eq]
      simp [renumber, found, beyond]
    | some struct =>
      have own := handle?_of_getElem? nodup found
      have other := handle?_renumber permuted struct
      rw [own, Option.map_some] at other
      have back := handle?_renumber permuted.symm struct
      rw [own, other, Option.map_some] at back
      exact (Option.some.inj back).symm

/-- The bijection between the handles of two orders of the same structs. -/
def renumbering (permuted : order.Perm order') (nodup : order.Nodup) : ObjectId ≃ ObjectId where
  toFun := renumber order order'
  invFun := renumber order' order
  left_inv := renumber_renumber permuted nodup
  right_inv := renumber_renumber permuted.symm (permuted.nodup_iff.1 nodup)

end Reference

end RecordSchema
