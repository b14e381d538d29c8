import RecordSchema.Dictionary
import RecordSchema.Text.Inspect

/-!
# Ordered maps

An ordered map keeps values under names and lists them in the order in which the names were first
inserted.  Beside the entries it stores an index from names to positions, and every lookup goes
through the index.  Inserting under a present name replaces the value at the name's old position.

`Indexed` states that the index and the entries agree; `indexed_empty` and `indexed_insert` say
that every map built by insertions has this property.
-/

namespace RecordSchema

/-- Values under names, in the order of first insertion. -/
structure OrderedMap (α : Type) where
  /-- The names with their values, oldest name first. -/
  entries : List (String × α)
  /-- The position of each name among the entries. -/
  index : Dictionary String Nat
  deriving DecidableEq, Repr

namespace OrderedMap

variable {α : Type}

def empty : OrderedMap α := ⟨[], .empty⟩

instance : Inhabited (OrderedMap α) := ⟨empty⟩

instance : EmptyCollection (OrderedMap α) := ⟨empty⟩

def size (m : OrderedMap α) : Nat := m.entries.length

def isEmpty (m : OrderedMap α) : Bool := m.entries.isEmpty

/-- The names in the order of first insertion. -/
def names (m : OrderedMap α) : List String := m.entries.map Prod.fst

/-- The values in the order of their names. -/
def values (m : OrderedMap α) : List α := m.entries.map Prod.snd

/-- The value that the index finds for a name. -/
def get? (m : OrderedMap α) (name : String) : Option α :=
  (m.index.get? name).bind fun position => (m.entries[position]?).map Prod.snd

def contains (m : OrderedMap α) (name : String) : Bool := m.index.contains name

/-- Store a value under a name.  The first component is the value that it replaces. -/
def insert (m : OrderedMap α) (name : String) (value : α) : Option α × OrderedMap α :=
  match m.index.get? name with
  | some position =>
    ((m.entries[position]?).map Prod.snd,
      { m with entries := m.entries.modify position fun entry => (entry.1, value) })
  | none => (none, ⟨m.entries ++ [(name, value)], m.index.insert name m.entries.length⟩)

/-- Change the value under a name, if there is one. -/
def modify (m : OrderedMap α) (name : String) (f : α → α) : OrderedMap α :=
  match m.index.get? name with
  | some position =>
    { m with entries := m.entries.modify position fun entry => (entry.1, f entry.2) }
  | none => m

/-- Insert pairs from left to right. -/
def ofList (pairs : List (String × α)) : OrderedMap α :=
  pairs.foldl (fun m pair => (m.insert pair.1 pair.2).2) empty

/-- The map as inspection text, given how a value is shown. -/
def inspect (shown : α → String) (m : OrderedMap α) : String :=
  Inspect.map (m.entries.map fun entry => (entry.1, shown entry.2))

/-! ## The index -/

/-- The index knows exactly the names of the entries, each at the position of its only entry. -/
def Indexed (m : OrderedMap α) : Prop :=
  ∀ name position, m.index.get? name = some position ↔ m.names[position]? = some name

theorem indexed_empty : (empty : OrderedMap α).Indexed := by
  intro name position
  simp [empty, names]

theorem names_modify (entries : List (String × α)) (position : Nat) (f : α → α) :
    (entries.modify position fun entry => (entry.1, f entry.2)).map Prod.fst =
      entries.map Prod.fst := by
  induction entries generalizing position with
  | nil => simp
  | cons entry rest ih => cases position <;> simp [List.modify_succ_cons, ih]

theorem indexed_insert {m : OrderedMap α} (h : m.Indexed) (name : String) (value : α) :
    (m.insert name value).2.Indexed := by
  unfold insert
  cases hi : m.index.get? name with
  | some position =>
    intro other place
    simpa [names, names_modify m.entries position fun _ => value] using h other place
  | none =>
    intro other place
    have fresh : ∀ p, m.names[p]? ≠ some name := fun p hp => by
      have := (h name p).2 hp
      simp [hi] at this
    have hl : m.names.length = m.entries.length := by simp [names]
    by_cases hn : name = other
    · subst hn
      simp only [Dictionary.get?_insert_self, names, List.map_append, List.map_cons, List.map_nil]
      constructor
      · rintro ⟨⟩
        simp
      · intro hp
        rcases Nat.lt_trichotomy place m.entries.length with lt | eq | gt
        · rw [List.getElem?_append_left (by simpa using lt)] at hp
          exact absurd hp (fresh place)
        · rw [eq]
        · rw [List.getElem?_eq_none (by simp; omega)] at hp
          cases hp
    · rw [Dictionary.get?_insert_of_ne _ _ hn]
      simp only [names, List.map_append, List.map_cons, List.map_nil]
      rw [h other place]
      rcases Nat.lt_trichotomy place m.entries.length with lt | eq | gt
      · rw [List.getElem?_append_left (by simpa using lt)]; rfl
      · rw [List.getElem?_append_right (by simp [eq])]
        simp [eq, names, hn]
      · have short : (m.entries.map Prod.fst)[place]? = none := by simp; omega
        have long : (m.entries.map Prod.fst ++ [name])[place]? = none := by simp; omega
        simp [names, short, long]

end OrderedMap

end RecordSchema
