/-!
# Dictionaries

A dictionary is an association list that remembers the order in which its keys came.  Inserting
under a present key replaces the value in place, so every key stands in it once.  Lookups are
stated by `get?`; each operation has one law about it.
-/

namespace RecordSchema

/-- A finite map from `κ` to `α` in the order of first insertion. -/
structure Dictionary (κ α : Type) where
  /-- The keys with their values, oldest key first. -/
  entries : List (κ × α)
  deriving DecidableEq, Repr

namespace Dictionary

variable {κ α : Type}

def empty : Dictionary κ α := ⟨[]⟩

instance : Inhabited (Dictionary κ α) := ⟨empty⟩

instance : EmptyCollection (Dictionary κ α) := ⟨empty⟩

def size (d : Dictionary κ α) : Nat := d.entries.length

def isEmpty (d : Dictionary κ α) : Bool := d.entries.isEmpty

def keys (d : Dictionary κ α) : List κ := d.entries.map Prod.fst

def values (d : Dictionary κ α) : List α := d.entries.map Prod.snd

variable [DecidableEq κ]

/-- The value of a key in an association list. -/
def lookup (key : κ) : List (κ × α) → Option α
  | [] => none
  | (k, a) :: rest => if k = key then some a else lookup key rest

/-- Replace the value of a key, or append the key. -/
def put (key : κ) (value : α) : List (κ × α) → List (κ × α)
  | [] => [(key, value)]
  | (k, a) :: rest => if k = key then (key, value) :: rest else (k, a) :: put key value rest

/-- The value stored under a key. -/
def get? (d : Dictionary κ α) (key : κ) : Option α := lookup key d.entries

def contains (d : Dictionary κ α) (key : κ) : Bool := (d.get? key).isSome

/-- Store a value under a key, in the key's old place if it has one. -/
def insert (d : Dictionary κ α) (key : κ) (value : α) : Dictionary κ α :=
  ⟨put key value d.entries⟩

/-- Store a value under a key that has none; a present value is kept. -/
def insertNew (d : Dictionary κ α) (key : κ) (value : α) : Dictionary κ α :=
  if d.contains key then d else d.insert key value

/-- Forget a key. -/
def erase (d : Dictionary κ α) (key : κ) : Dictionary κ α :=
  ⟨d.entries.filter fun entry => entry.1 ≠ key⟩

/-- Change the value of a key if it has one. -/
def modify (d : Dictionary κ α) (key : κ) (f : α → α) : Dictionary κ α :=
  match d.get? key with
  | some value => d.insert key (f value)
  | none => d

/-! ## Lookups after a change -/

@[simp] theorem get?_empty (key : κ) : (empty : Dictionary κ α).get? key = none := rfl

theorem lookup_put (key other : κ) (value : α) (entries : List (κ × α)) :
    lookup other (put key value entries) = if key = other then some value
      else lookup other entries := by
  induction entries with
  | nil => simp [put, lookup]
  | cons entry rest ih =>
    obtain ⟨k, a⟩ := entry
    by_cases hk : k = key <;> by_cases ho : key = other <;> simp_all [put, lookup]

@[simp] theorem get?_insert_self (d : Dictionary κ α) (key : κ) (value : α) :
    (d.insert key value).get? key = some value := by
  simp [insert, get?, lookup_put]

theorem get?_insert (d : Dictionary κ α) (key other : κ) (value : α) :
    (d.insert key value).get? other = if key = other then some value else d.get? other := by
  simp [insert, get?, lookup_put]

theorem get?_insert_of_ne (d : Dictionary κ α) {key other : κ} (value : α) (h : key ≠ other) :
    (d.insert key value).get? other = d.get? other := by
  simp [get?_insert, h]

theorem get?_insertNew (d : Dictionary κ α) (key other : κ) (value : α) :
    (d.insertNew key value).get? other =
      if key = other then some ((d.get? key).getD value) else d.get? other := by
  unfold insertNew contains
  cases h : d.get? key with
  | none => simp [get?_insert]
  | some present => by_cases ho : key = other <;> simp_all

theorem get?_modify (d : Dictionary κ α) (key other : κ) (f : α → α) :
    (d.modify key f).get? other = if key = other then (d.get? other).map f else d.get? other := by
  unfold modify
  cases h : d.get? key with
  | none => by_cases ho : key = other <;> simp_all
  | some value => by_cases ho : key = other <;> simp_all [get?_insert]

theorem lookup_filter (key other : κ) (entries : List (κ × α)) :
    lookup other (entries.filter fun entry => entry.1 ≠ key) =
      if key = other then none else lookup other entries := by
  induction entries with
  | nil => simp [lookup]
  | cons entry rest ih =>
    obtain ⟨k, a⟩ := entry
    by_cases hk : k = key <;> by_cases ho : key = other <;> simp_all [lookup]

theorem get?_erase (d : Dictionary κ α) (key other : κ) :
    (d.erase key).get? other = if key = other then none else d.get? other := by
  simpa [erase, get?] using lookup_filter key other d.entries

/-! ## Keys after a change -/

theorem lookup_isSome_iff (key : κ) (entries : List (κ × α)) :
    (lookup key entries).isSome ↔ key ∈ entries.map Prod.fst := by
  induction entries with
  | nil => simp [lookup]
  | cons entry rest ih =>
    obtain ⟨k, a⟩ := entry
    by_cases hk : k = key
    · simp [lookup, hk]
    · simp [lookup, hk, ih, Ne.symm hk]

theorem mem_keys_iff (d : Dictionary κ α) (key : κ) : key ∈ d.keys ↔ d.contains key :=
  (lookup_isSome_iff key d.entries).symm

theorem map_fst_put (key : κ) (value : α) (entries : List (κ × α)) :
    (put key value entries).map Prod.fst =
      if (lookup key entries).isSome then entries.map Prod.fst
      else entries.map Prod.fst ++ [key] := by
  induction entries with
  | nil => simp [put, lookup]
  | cons entry rest ih =>
    obtain ⟨k, a⟩ := entry
    by_cases hk : k = key
    · simp [put, lookup, hk]
    · simp only [put, lookup, hk, if_false, List.map_cons, ih]
      split <;> simp

/-- A new key comes last; a present key stays where it is. -/
theorem keys_insert (d : Dictionary κ α) (key : κ) (value : α) :
    (d.insert key value).keys = if d.contains key then d.keys else d.keys ++ [key] :=
  map_fst_put key value d.entries

@[simp] theorem keys_modify (d : Dictionary κ α) (key : κ) (f : α → α) :
    (d.modify key f).keys = d.keys := by
  unfold modify
  cases h : d.get? key with
  | none => rfl
  | some value => simp [keys_insert, contains, h]

end Dictionary

end RecordSchema
