import RecordSchema.Proofs.Soundness

/-!
# Schema types as they are displayed

A list is displayed between brackets, a required type with a mark behind it, and a scalar or an
object by its name.  If the name holds no bracket and no mark, the last character of a displayed
type tells its topmost layer: it is the closing bracket of a list, or the mark of a required type,
or it belongs to the name, and then there is no layer.  So the layers can be taken off one after the
other, and types that are displayed alike have the same layers around the same name
(`Arena.display_eq_iff`), however often they are required and even if the name is empty.

A name leads back to one scalar or object only if nothing else has it (`Arena.TellsApart`).  The
objects of an encoder have names without brackets and marks: each is named after a type, of whose
name only letters, numerals and underscores are left (`Moves.namesPlainly`).
-/

namespace RecordSchema

variable {n : Nat}

open Encoder

/-! ## Layers and names -/

/-- A layer around a scalar or an object. -/
inductive Layer where
  | list
  | required
  deriving DecidableEq, Repr

namespace Layer

/-- The type with a layer on top. -/
def around : Layer → SchemaType → SchemaType
  | .list => .list
  | .required => .nonNull

/-- The text of a type with a layer on top. -/
def shown : Layer → String → String
  | .list, text => "[" ++ text ++ "]"
  | .required, text => text ++ "!"

/-- The layer that a last character tells. -/
def told? : Char → Option Layer
  | ']' => some .list
  | '!' => some .required
  | _ => none

/-- The layer that the last character of a text tells. -/
def last? (text : String) : Option Layer := text.toList.getLast?.bind told?

end Layer

namespace SchemaType

/-- The layers of a type, the topmost first. -/
def layers : SchemaType → List Layer
  | .list inner => .list :: inner.layers
  | .nonNull inner => .required :: inner.layers
  | .scalar _ | .object _ => []

/-- A type has a scalar below its layers. -/
def Uses (type : SchemaType) (leaf : Scalar) : Prop := type.named = .scalar leaf

end SchemaType

/-- A text without brackets and marks. -/
def IsPlain (text : String) : Prop := ∀ c ∈ text.toList, c ≠ '[' ∧ c ≠ ']' ∧ c ≠ '!'

instance (text : String) : Decidable (IsPlain text) :=
  decidable_of_iff (text.toList.all fun c => c ≠ '[' ∧ c ≠ ']' ∧ c ≠ '!') <| by
    simp only [List.all_eq_true, decide_eq_true_eq, IsPlain]

namespace Arena

/-- The names of the objects, first inserted first. -/
def names (arena : Arena) : List String := arena.objects.map ObjectType.name

/-- The name of the scalar or object below the layers of a type. -/
def leafName (arena : Arena) : SchemaType → String
  | .list inner | .nonNull inner => arena.leafName inner
  | .scalar leaf => leaf.name
  | .object id => ((arena.get? id).map ObjectType.name).getD "<dangling>"

/-- Below the layers of two types, the name tells what has it: every handle has an object, no two
objects share a name, no object has the name of a scalar in use, and no custom scalar in use has the
name of another scalar. -/
structure TellsApart (arena : Arena) (a b : SchemaType) : Prop where
  live : ∀ id ∈ a.handles ++ b.handles, arena.contains id
  objects : arena.names.Nodup
  scalars : ∀ leaf, a.Uses leaf ∨ b.Uses leaf → leaf.name ∉ arena.names
  custom : ∀ name, a.Uses (.custom name) ∨ b.Uses (.custom name) →
    ∀ leaf : Scalar, leaf.name = name → leaf = .custom name

end Arena

/-! ## Reading layers off a text -/

namespace Layer

theorem last?_append (text : String) {mark : String} {c : Char} (single : mark.toList = [c]) :
    last? (text ++ mark) = told? c := by
  rw [last?, String.toList_append, single, List.getLast?_concat, Option.bind_some]

@[simp] theorem last?_shown (layer : Layer) (text : String) :
    last? (layer.shown text) = some layer := by
  cases layer with
  | list => exact last?_append ("[" ++ text) (by decide : "]".toList = [']'])
  | required => exact last?_append text (by decide : "!".toList = ['!'])

/-- A plain text tells no layer. -/
theorem last?_of_isPlain {text : String} (plain : IsPlain text) : last? text = none := by
  rw [last?, Option.bind_eq_none_iff]
  intro c last
  obtain ⟨-, noBracket, noMark⟩ := plain c (List.mem_of_getLast? last)
  simp [told?]

theorem shown_injective (layer : Layer) : Function.Injective layer.shown := by
  intro text other same
  cases layer <;> simpa [shown, ← String.toList_inj] using same

/-- The last character tells the topmost of several layers around a plain text. -/
theorem last?_foldr_shown {name : String} (plain : IsPlain name) (layers : List Layer) :
    last? (layers.foldr shown name) = layers.head? := by
  cases layers with
  | nil => exact last?_of_isPlain plain
  | cons layer rest => exact last?_shown layer _

section Inverse

variable {layers layers' : List Layer} {name name' : String} (plain : IsPlain name)
  (plain' : IsPlain name') (same : layers.foldr shown name = layers'.foldr shown name')

include plain plain' same

theorem head?_eq_of_shown_eq : layers.head? = layers'.head? := by
  rw [← last?_foldr_shown plain, same, last?_foldr_shown plain']

/-- Layers around a plain text can be read off again. -/
theorem foldr_shown_inj : layers = layers' ∧ name = name' := by
  have top := head?_eq_of_shown_eq plain plain' same
  -- By induction on the layers of the one; the other has the same layer on top.
  induction layers generalizing layers' with
  | nil =>
    obtain rfl : layers' = [] := List.head?_eq_none_iff.1 top.symm
    exact ⟨rfl, same⟩
  | cons layer rest ih =>
    obtain ⟨rest', rfl⟩ := List.head?_eq_some_iff.1 top.symm
    have below := layer.shown_injective same
    obtain ⟨layers, names⟩ := ih below (head?_eq_of_shown_eq plain plain' below)
    exact ⟨congrArg (List.cons layer) layers, names⟩

end Inverse

end Layer

/-- A type is its layers around its scalar or object. -/
theorem SchemaType.foldr_around_layers (type : SchemaType) :
    type.layers.foldr Layer.around type.named = type := by
  induction type with
  | list inner ih => exact congrArg SchemaType.list ih
  | nonNull inner ih => exact congrArg SchemaType.nonNull ih
  | scalar | object => rfl

section Display

variable {arena : Arena} {a b : SchemaType}

/-- A type is displayed as its layers around its name. -/
theorem Arena.display_eq_foldr (arena : Arena) (type : SchemaType) :
    arena.display type = type.layers.foldr Layer.shown (arena.leafName type) := by
  induction type with
  | list inner ih | nonNull inner ih =>
    simp only [display, ih, SchemaType.layers, leafName, List.foldr_cons, Layer.shown]
  | scalar leaf => rfl
  | object id =>
    simp only [display, SchemaType.layers, leafName, List.foldr_nil]
    cases arena.get? id <;> rfl

theorem Arena.display_eq_iff (plain : IsPlain (arena.leafName a))
    (plain' : IsPlain (arena.leafName b)) :
    arena.display a = arena.display b ↔
      a.layers = b.layers ∧ arena.leafName a = arena.leafName b := by
  rw [display_eq_foldr, display_eq_foldr]
  constructor
  · exact Layer.foldr_shown_inj plain plain'
  · rintro ⟨layers, names⟩
    rw [layers, names]

/-! ## Names that lead back -/

theorem Arena.leafName_named (arena : Arena) (type : SchemaType) :
    arena.leafName type.named = arena.leafName type := by
  induction type with
  | list inner ih | nonNull inner ih => exact ih
  | scalar | object => rfl

theorem SchemaType.named_eq (type : SchemaType) :
    (∃ leaf, type.Uses leaf) ∨ ∃ id ∈ type.handles, type.named = .object id := by
  induction type with
  | list inner ih | nonNull inner ih => exact ih
  | scalar leaf => exact .inl ⟨leaf, rfl⟩
  | object id => exact .inr ⟨id, List.mem_singleton_self id, rfl⟩

/-- Only custom scalars share their names with other scalars. -/
theorem Scalar.eq_of_name_eq {x y : Scalar} (same : x.name = y.name)
    (left : ∀ name, x = .custom name → y = x) (right : ∀ name, y = .custom name → x = y) :
    x = y := by
  cases x with
  | custom name => exact (left name rfl).symm
  | int | float | string | boolean | id | dateTime =>
    cases y with
    | custom name => exact right name rfl
    | int | float | string | boolean | id | dateTime => simp_all [Scalar.name]

/-- The objects that two handles have are the same if they have one name. -/
theorem Arena.eq_of_object_name_eq (distinct : arena.names.Nodup) {id other : ObjectId}
    {object object' : ObjectType} (found : arena.get? id = some object)
    (found' : arena.get? other = some object') (same : object.name = object'.name) :
    id = other := by
  obtain ⟨_ | position⟩ := id
  · cases found
  obtain ⟨_ | position'⟩ := other
  · cases found'
  have name : arena.names[position]? = some object.name := by
    rw [names, List.getElem?_map]
    exact congrArg (Option.map ObjectType.name) found
  have name' : arena.names[position']? = some object.name := by
    rw [names, List.getElem?_map, same]
    exact congrArg (Option.map ObjectType.name) found'
  have inside : position < arena.names.length := (List.getElem?_eq_some_iff.1 name).1
  have places : position = position' :=
    (List.getElem?_inj inside distinct).1 (name.trans name'.symm)
  rw [places]

theorem Arena.name_mem_names {id : ObjectId} {object : ObjectType}
    (found : arena.get? id = some object) : object.name ∈ arena.names := by
  obtain ⟨_ | position⟩ := id
  · cases found
  · exact List.mem_map_of_mem (List.mem_of_getElem? found)

/-- No object has the name of a scalar in use. -/
theorem Arena.TellsApart.name_ne (apart : arena.TellsApart a b) {leaf : Scalar}
    (uses : a.Uses leaf ∨ b.Uses leaf) {id : ObjectId} {object : ObjectType}
    (found : arena.get? id = some object) : leaf.name ≠ object.name := by
  intro same
  have clash := name_mem_names found
  rw [← same] at clash
  exact apart.scalars leaf uses clash

/-- Where names tell apart, two types with one name have the same scalar or object. -/
theorem Arena.TellsApart.named_eq (apart : arena.TellsApart a b)
    (names : arena.leafName a = arena.leafName b) : a.named = b.named := by
  rw [← leafName_named, ← leafName_named arena b] at names
  have found : ∀ id ∈ a.handles ++ b.handles, ∃ object, arena.get? id = some object ∧
      arena.leafName (.object id) = object.name := by
    intro id occurs
    obtain ⟨object, present⟩ := Option.isSome_iff_exists.1 (apart.live id occurs)
    exact ⟨object, present, by simp [leafName, present]⟩
  rcases a.named_eq with ⟨leaf, uses⟩ | ⟨id, occurs, isObject⟩ <;>
    rcases b.named_eq with ⟨leaf', uses'⟩ | ⟨id', occurs', isObject'⟩
  · rw [uses, uses'] at names ⊢
    refine congrArg SchemaType.scalar (Scalar.eq_of_name_eq names ?_ ?_)
    · rintro name rfl
      exact apart.custom name (.inl uses) leaf' names.symm
    · rintro name rfl
      exact apart.custom name (.inr uses') leaf names
  · obtain ⟨object', present', shown'⟩ := found id' (List.mem_append_right _ occurs')
    rw [uses, isObject', shown'] at names
    exact absurd names (apart.name_ne (.inl uses) present')
  · obtain ⟨object, present, shown⟩ := found id (List.mem_append_left _ occurs)
    rw [isObject, uses', shown] at names
    exact absurd names.symm (apart.name_ne (.inr uses') present)
  · obtain ⟨object, present, shown⟩ := found id (List.mem_append_left _ occurs)
    obtain ⟨object', present', shown'⟩ := found id' (List.mem_append_right _ occurs')
    rw [isObject, isObject', shown, shown'] at names
    rw [isObject, isObject', eq_of_object_name_eq apart.objects present present' names]

/-- Where names tell apart, types that are displayed alike are equal. -/
theorem Arena.TellsApart.eq (apart : arena.TellsApart a b) (layers : a.layers = b.layers)
    (names : arena.leafName a = arena.leafName b) : a = b := by
  rw [← a.foldr_around_layers, ← b.foldr_around_layers, layers, apart.named_eq names]

end Display

/-! ## The names that an encoder gives -/

@[simp] theorem Arena.names_insert (arena : Arena) (object : ObjectType) :
    (arena.insert object).names = arena.names ++ [object.name] := by
  simp [names, insert]

/-- A change of an object that keeps its name changes no name. -/
theorem Arena.names_modify (arena : Arena) (id : ObjectId) {f : ObjectType → ObjectType}
    (kept : ∀ object, (f object).name = object.name) : (arena.modify id f).names = arena.names := by
  obtain ⟨_ | position⟩ := id
  · rfl
  · refine List.ext_getElem? fun place => ?_
    simp only [modify, names, List.getElem?_map, List.getElem?_modify]
    by_cases here : position = place <;> cases arena.objects[place]? <;> simp [here, kept]

/-- No bracket and no mark is a letter or a numeral. -/
theorem isPlain_objectName (typeName : String) : IsPlain (objectName typeName) := by
  intro c inside
  rw [objectName, String.toList_ofList, List.mem_filter] at inside
  have allowed := inside.2
  refine ⟨?_, ?_, ?_⟩ <;>
  · rintro rfl
    revert allowed
    decide +kernel

/-- No object of an encoder has a bracket or a mark in its name. -/
def Encoder.NamesPlainly (e : Encoder n) : Prop := ∀ name ∈ e.arena.names, IsPlain name

section Names

variable {U : Universe n} {e e' : Encoder n}

theorem Encoder.NamesPlainly.begin (before : e.NamesPlainly) (struct : TypeExpr n)
    {object : ObjectType} (plain : IsPlain object.name) :
    (e.begin U struct object).NamesPlainly := by
  intro name listed
  rw [begin_arena, Arena.names_insert, List.mem_append, List.mem_singleton] at listed
  rcases listed with old | rfl
  · exact before name old
  · exact plain

@[simp] theorem Encoder.names_expose (id : ObjectId) (structPath fieldName : String)
    (tag : FieldTag) (type : TypeExpr n) (resolved : SchemaType) :
    (e.expose U id structPath fieldName tag type resolved).arena.names = e.arena.names := by
  rw [expose_arena]
  exact Arena.names_modify _ _ fun _ => rfl

/-- A build names objects after types. -/
theorem Course.namesPlainly {call : Call n} {result : Except EncodeError SchemaType}
    (course : Course U call e result e') (before : e.NamesPlainly) : e'.NamesPlainly := by
  induction course with
  | recorded | recalled | provided | scalar | unrecognized | objectRecorded | objectRecalled
  | notAnObject | notStruct | notSupported | done => exact before
  | pointer inner ih | resolved plain miss inner ih | refused plain miss inner ih
  | list free other listed inner ih | struct free other struct inner ih
  | untagged untagged inner ih | stopped content inner ih => exact ih before
  | @begun type options e object fields result e' miss struct made inner ih =>
    have plain : IsPlain object.name := by
      rw [(SchemaOption.fields_of_applyAllToObject made).2]
      exact isPlain_objectName _
    have after := ih (before.begin type plain)
    rwa [NamesPlainly, ← close_arena] at after
  | tagged content first live inner ih₁ ih₂ =>
    refine ih₂ ?_
    rw [NamesPlainly, names_expose]
    exact ih₁ before
  | dangling content first dead ih =>
    have after := ih before
    rw [NamesPlainly, meet_arena, warn_arena]
    exact after

theorem Move.namesPlainly {scope : Scope n} (move : Move U scope e e') (before : e.NamesPlainly) :
    e'.NamesPlainly := by
  cases move with
  | note | register | attach => exact before
  | call asked inside course => exact course.namesPlainly before
  | enter asked plain inside miss course => exact course.namesPlainly before

theorem Moves.namesPlainly {scope : Scope n} (moves : Moves U scope e e')
    (before : e.NamesPlainly) : e'.NamesPlainly := by
  induction moves with
  | refl => exact before
  | tail first last ih => exact last.namesPlainly ih

end Names

/-- If two types whose names hold no bracket and no mark are displayed alike, they have the same
layers around the same name, and are equal where the name tells what has it.  No session gives an
object another name. -/
theorem Arena.display_is_unambiguous :
    (∀ (arena : Arena) (a b : SchemaType), IsPlain (arena.leafName a) →
      IsPlain (arena.leafName b) → arena.display a = arena.display b →
        (a.layers = b.layers ∧ arena.leafName a = arena.leafName b) ∧
          (arena.TellsApart a b → a = b)) ∧
    ∀ {n : Nat} (U : Universe n) (policy : KeyPolicy) (requests : List (Request n)),
      ∃ answers e, Session.run U requests (.new U policy) = some (answers, e) ∧
        ∀ name ∈ e.arena.names, IsPlain name := by
  refine ⟨?_, ?_⟩
  · intro arena a b plain plain' same
    obtain ⟨layers, names⟩ := (Arena.display_eq_iff plain plain').1 same
    exact ⟨⟨layers, names⟩, fun apart => apart.eq layers names⟩
  · intro n U policy requests
    obtain ⟨answers, e, run, moves, -⟩ := Session.serves (Scope.closed_everything U) requests
      (fun request _ => request.within_everything) (.new U policy)
    have fresh : (Encoder.new U policy).NamesPlainly := fun _ listed => nomatch listed
    exact ⟨answers, e, run, moves.namesPlainly fresh⟩

namespace Sample

/-- Two objects, of which the second has an empty name. -/
def drafts : Arena := ⟨[{ name := "Draft" }, { name := "" }]⟩

/-- The handle of the object with the empty name. -/
def untitled : ObjectId := (drafts.find? "").getD .null

/-- Required lists of what is required twice. -/
def listed (id : ObjectId) : SchemaType := .nonNull (.list (.nonNull (.nonNull (.object id))))

theorem tellsApart_untitled : drafts.TellsApart (listed untitled) (listed ⟨2⟩) where
  live := by decide
  objects := by decide
  scalars leaf uses := by rcases uses with uses | uses <;> cases uses
  custom name uses := by rcases uses with uses | uses <;> cases uses

end Sample

/-- Two handles without objects are displayed alike, and so are two handles of one object. -/
theorem Sample.drafts_are_displayed_alike :
    drafts.display (listed ⟨0⟩) = "[<dangling>!!]!" ∧
      drafts.display (listed ⟨3⟩) = "[<dangling>!!]!" ∧ listed ⟨0⟩ ≠ listed ⟨3⟩ ∧
      (listed ⟨0⟩).layers = (listed ⟨3⟩).layers ∧
      drafts.leafName (listed ⟨0⟩) = drafts.leafName (listed ⟨3⟩) ∧
      drafts.display (listed untitled) = "[!!]!" ∧ drafts.display (listed ⟨2⟩) = "[!!]!" ∧
      drafts.TellsApart (listed untitled) (listed ⟨2⟩) ∧ listed untitled = listed ⟨2⟩ := by
  obtain ⟨alike, -⟩ := Arena.display_is_unambiguous
  have dangling := alike drafts (listed ⟨0⟩) (listed ⟨3⟩) (by decide) (by decide) (by decide)
  have found := alike drafts (listed untitled) (listed ⟨2⟩) (by decide) (by decide) (by decide)
  exact ⟨by decide, by decide, by decide, dangling.1.1, dangling.1.2, by decide, by decide,
    tellsApart_untitled, found.2 tellsApart_untitled⟩

end RecordSchema
