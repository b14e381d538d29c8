import RecordSchema.Schema.Object

/-!
# The arena of objects

An arena owns the objects of one schema and hands out their handles.  An object is inserted first
and populated later through its handle, so a field may name the object it belongs to.  Objects are
never removed: the handle of the `n`-th object inserted is the number `n`.

`Arena.display` writes a schema type in schema style, with the names of the arena's objects.
-/

namespace RecordSchema

/-- The objects of one schema, first inserted first. -/
structure Arena where
  objects : List ObjectType
  deriving DecidableEq, Repr

namespace Arena

def empty : Arena := ⟨[]⟩

def size (arena : Arena) : Nat := arena.objects.length

def isEmpty (arena : Arena) : Bool := arena.objects.isEmpty

/-- The handle that the next object will have. -/
def nextId (arena : Arena) : ObjectId := ⟨arena.size + 1⟩

/-- Store an object.  Its handle is `nextId`. -/
def insert (arena : Arena) (object : ObjectType) : Arena := ⟨arena.objects ++ [object]⟩

/-- The object behind a handle. -/
def get? (arena : Arena) (id : ObjectId) : Option ObjectType :=
  match id.number with
  | 0 => none
  | position + 1 => arena.objects[position]?

def contains (arena : Arena) (id : ObjectId) : Bool := (arena.get? id).isSome

/-- Change the object behind a handle, if there is one. -/
def modify (arena : Arena) (id : ObjectId) (f : ObjectType → ObjectType) : Arena :=
  match id.number with
  | 0 => arena
  | position + 1 => ⟨arena.objects.modify position f⟩

/-- The handles of all objects, in ascending order. -/
def ids (arena : Arena) : List ObjectId :=
  (List.range arena.size).map fun position => ⟨position + 1⟩

/-- The objects with their handles. -/
def entries (arena : Arena) : List (ObjectId × ObjectType) := arena.ids.zip arena.objects

/-- The first object of a name. -/
def find? (arena : Arena) (name : String) : Option ObjectId :=
  (arena.entries.find? fun entry => entry.2.name == name).map Prod.fst

/-- A schema type in schema style: `[User!]`.  A handle without object shows as `<dangling>`. -/
def display (arena : Arena) : SchemaType → String
  | .scalar leaf => leaf.name
  | .list inner => "[" ++ arena.display inner ++ "]"
  | .nonNull inner => arena.display inner ++ "!"
  | .object id =>
    match arena.get? id with
    | some object => object.name
    | none => "<dangling>"

/-! ## Lookups after a change -/

theorem get?_insert_nextId (arena : Arena) (object : ObjectType) :
    (arena.insert object).get? arena.nextId = some object := by
  simp [insert, get?, nextId, size]

theorem get?_insert_of_contains {arena : Arena} {id : ObjectId} (object : ObjectType)
    (h : arena.contains id) : (arena.insert object).get? id = arena.get? id := by
  obtain ⟨_ | position⟩ := id
  · rfl
  · have inside : position < arena.objects.length := by simpa [contains, get?] using h
    simp [insert, get?, List.getElem?_append_left inside]

theorem get?_modify_self (arena : Arena) (id : ObjectId) (f : ObjectType → ObjectType) :
    (arena.modify id f).get? id = (arena.get? id).map f := by
  obtain ⟨_ | position⟩ := id
  · rfl
  · simp [modify, get?]

theorem get?_modify_of_ne (arena : Arena) {id other : ObjectId} (f : ObjectType → ObjectType)
    (h : id ≠ other) : (arena.modify id f).get? other = arena.get? other := by
  obtain ⟨_ | position⟩ := id
  · rfl
  · obtain ⟨_ | place⟩ := other
    · rfl
    · have : position ≠ place := fun eq => h (by rw [eq])
      simp [modify, get?, this]

end Arena

end RecordSchema
