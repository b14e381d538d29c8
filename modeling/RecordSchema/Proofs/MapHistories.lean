import Mathlib.Data.List.Forall2
import Mathlib.Data.List.Induction
import Mathlib.Data.List.Nodup
import RecordSchema.Proofs.Exposure

/-!
# Ordered maps follow their histories

An ordered map stores its names twice, as entries and in an index, and finds every value through the
index.  Its history is the list of the insertions and updates that were made to it.  This module
says what a map is in terms of its history alone (`OrderedMap.Follows`): the names stand in the
order in which they were first inserted, each with the value that was last written to it, and the
index leads to just these places.

A program holds several maps, some of them copied from others.  `OrderedMap.Step` is what it can do
with them, and `OrderedMap.histories` records what was written to which map.  A copy starts with the
history of the map that it was copied from, and from then on each has its own; so that every map
follows its history says that a copy and its original do not affect each other.
-/

namespace RecordSchema

namespace OrderedMap

variable {α : Type}

/-! ## Histories -/

/-- A change of one map. -/
inductive Write (α : Type) where
  | insert (name : String) (value : α)
  /-- The value under a name is changed in place, if there is one. -/
  | update (name : String) (f : α → α)

/-- The map after a change. -/
def write (m : OrderedMap α) : Write α → OrderedMap α
  | .insert name value => (m.insert name value).2
  | .update name f => m.modify name f

/-- The name that a change inserts. -/
def Write.inserted? : Write α → Option String
  | .insert name _ => some name
  | .update _ _ => none

/-- What a name holds after a change, given what it held before. -/
def Write.held (name : String) (before : Option α) : Write α → Option α
  | .insert other value => if other = name then some value else before
  | .update other f => if other = name then before.map f else before

/-- The inserted names, in the order of the insertions. -/
def insertedNames (history : List (Write α)) : List String := history.filterMap Write.inserted?

/-- The value that was last written to a name, none if the name was never inserted. -/
def lastWritten? (history : List (Write α)) (name : String) : Option α :=
  history.foldl (Write.held name) none

/-- What a map is after the changes of a history. -/
structure Follows (history : List (Write α)) (m : OrderedMap α) : Prop where
  indexed : m.Indexed
  keys : m.index.keys = m.names
  names : m.names = (insertedNames history).eraseDups
  get? : ∀ name, m.get? name = lastWritten? history name

/-! ## Several maps -/

/-- What is done with several maps, which are numbered from zero in the order in which they came. -/
inductive Step (α : Type) where
  /-- A new map is made of pairs. -/
  | collect (pairs : List (String × α))
  /-- A new map is made as a copy of another. -/
  | copy (source : Nat)
  | write (target : Nat) (change : Write α)

/-- The maps after a step. -/
def Step.run (maps : List (OrderedMap α)) : Step α → List (OrderedMap α)
  | .collect pairs => maps ++ [ofList pairs]
  | .copy source => maps ++ maps[source]?.toList
  | .write target change => maps.modify target (·.write change)

/-- The maps after several steps. -/
def runAll (maps : List (OrderedMap α)) (steps : List (Step α)) : List (OrderedMap α) :=
  steps.foldl Step.run maps

/-- The histories of the maps after a step. -/
def Step.record (histories : List (List (Write α))) : Step α → List (List (Write α))
  | .collect pairs => histories ++ [pairs.map fun pair => .insert pair.1 pair.2]
  | .copy source => histories ++ histories[source]?.toList
  | .write target change => histories.modify target (· ++ [change])

/-- The histories of the maps that several steps lead to. -/
def histories (steps : List (Step α)) : List (List (Write α)) := steps.foldl Step.record []

/-- The map that a step changes.  To make a new one changes none. -/
def Step.target? : Step α → Option Nat
  | .write target _ => some target
  | .collect _ | .copy _ => none

/-! ## The index -/

section Index

variable {m : OrderedMap α}

/-- A position of the index is that of an entry, and so inside the entries. -/
theorem index_iff (h : m.Indexed) (name : String) (position : Nat) :
    m.index.get? name = some position ↔ ∃ value, m.entries[position]? = some (name, value) := by
  rw [h name position, names, List.getElem?_map, Option.map_eq_some_iff]
  constructor
  · rintro ⟨⟨_, value⟩, stored, rfl⟩
    exact ⟨value, stored⟩
  · rintro ⟨value, stored⟩
    exact ⟨(name, value), stored, rfl⟩

/-- No two entries have one name, for the index knows one position of it. -/
theorem nodup_names (h : m.Indexed) : m.names.Nodup := by
  rw [List.nodup_iff_getElem?_ne_getElem?]
  intro first second before inside same
  have known := (h _ second).2 (List.getElem?_eq_getElem inside)
  rw [List.getElem?_eq_getElem inside] at same
  have known' := (h _ first).2 same
  rw [known] at known'
  exact absurd (Option.some.inj known') (Nat.ne_of_gt before)

theorem isSome_get?_iff (h : m.Indexed) (name : String) :
    (m.get? name).isSome ↔ name ∈ m.names := by
  rw [mem_names_iff h]
  unfold get?
  cases found : m.index.get? name with
  | none => simp
  | some position =>
    obtain ⟨value, stored⟩ := (index_iff h name position).1 found
    simp [stored]

end Index

/-! ## One change of a map -/

theorem insertedNames_append (history later : List (Write α)) :
    insertedNames (history ++ later) = insertedNames history ++ insertedNames later :=
  List.filterMap_append

theorem lastWritten?_concat (history : List (Write α)) (change : Write α) (name : String) :
    lastWritten? (history ++ [change]) name = change.held name (lastWritten? history name) := by
  unfold lastWritten?
  rw [List.foldl_append]
  rfl

namespace Follows

variable {history : List (Write α)} {m : OrderedMap α}

theorem mem_names (follows : Follows history m) (name : String) :
    name ∈ m.names ↔ name ∈ insertedNames history := by
  rw [follows.names, List.mem_eraseDups]

theorem contains_iff (follows : Follows history m) (name : String) :
    m.contains name ↔ name ∈ insertedNames history := by
  unfold contains
  rw [← follows.mem_names, ← follows.keys, Dictionary.mem_keys_iff]

/-- What an insertion replaces is what was last written. -/
theorem insert_fst (follows : Follows history m) (name : String) (value : α) :
    (m.insert name value).1 = lastWritten? history name := by
  rw [← follows.get? name]
  unfold insert OrderedMap.get?
  cases m.index.get? name <;> rfl

theorem insert (follows : Follows history m) (name : String) (value : α) :
    Follows (history ++ [.insert name value]) (m.insert name value).2 where
  indexed := indexed_insert follows.indexed name value
  keys := by
    rw [names_insert follows.indexed]
    unfold OrderedMap.insert
    cases found : m.index.get? name with
    | some position =>
      have present := (mem_names_iff follows.indexed name).2 ⟨position, found⟩
      rw [if_pos present]
      exact follows.keys
    | none =>
      have absent : name ∉ m.names := by
        rw [mem_names_iff follows.indexed, found]
        rintro ⟨position, ⟨⟩⟩
      rw [if_neg absent, Dictionary.keys_insert, Dictionary.contains, found, follows.keys]
      rfl
  names := by
    rw [names_insert follows.indexed, insertedNames_append, follows.names]
    exact (eraseDups_append_singleton _ name).symm
  get? other := by
    rw [get?_insert follows.indexed, lastWritten?_concat, follows.get?]
    rfl

theorem modify (follows : Follows history m) (name : String) (f : α → α) :
    Follows (history ++ [.update name f]) (m.modify name f) := by
  have inserted : insertedNames (history ++ [.update name f]) = insertedNames history := by
    rw [insertedNames_append]
    exact List.append_nil _
  have index : (m.modify name f).index = m.index := by
    unfold OrderedMap.modify
    cases m.index.get? name <;> rfl
  have named : (m.modify name f).names = m.names := by
    unfold OrderedMap.modify
    cases m.index.get? name with
    | none => rfl
    | some position => exact names_modify m.entries position f
  refine ⟨fun other position => ?_, ?_, ?_, fun other => ?_⟩
  · rw [index, named]
    exact follows.indexed other position
  · rw [index, named, follows.keys]
  · rw [inserted, named, follows.names]
  · rw [lastWritten?_concat, ← follows.get?, Write.held]
    unfold OrderedMap.get?
    rw [index]
    unfold OrderedMap.modify
    cases found : m.index.get? name with
    | none =>
      by_cases same : name = other
      · subst same
        simp [found]
      · simp [same]
    | some position =>
      by_cases same : name = other
      · subst same
        simp [found, Function.comp_def]
      · -- Two names have two positions.
        rw [if_neg same]
        cases found' : m.index.get? other with
        | none => rfl
        | some position' =>
          have apart : position ≠ position' := fun equal => by
            have named := (follows.indexed name position).1 found
            rw [equal, (follows.indexed other position').1 found'] at named
            exact same (Option.some.inj named).symm
          simp [apart]

theorem write (follows : Follows history m) (change : Write α) :
    Follows (history ++ [change]) (m.write change) := by
  cases change with
  | insert name value => exact follows.insert name value
  | update name f => exact follows.modify name f

end Follows

theorem follows_empty : Follows ([] : List (Write α)) .empty where
  indexed := indexed_empty
  keys := rfl
  names := rfl
  get? _ := rfl

theorem follows_ofList (pairs : List (String × α)) :
    Follows (pairs.map fun pair => .insert pair.1 pair.2) (ofList pairs) := by
  induction pairs using List.reverseRecOn with
  | nil => exact follows_empty
  | append_singleton pairs pair ih =>
    have folded : ofList (pairs ++ [pair]) = ((ofList pairs).insert pair.1 pair.2).2 := by
      unfold ofList
      rw [List.foldl_append]
      rfl
    rw [folded, List.map_append]
    exact ih.insert pair.1 pair.2

/-! ## Steps with several maps -/

/-- A step keeps every map with its history. -/
theorem Step.follows {known : List (List (Write α))} {maps : List (OrderedMap α)}
    (follow : List.Forall₂ Follows known maps) (step : Step α) :
    List.Forall₂ Follows (step.record known) (step.run maps) := by
  cases step with
  | collect pairs => exact List.rel_append follow (.cons (follows_ofList pairs) .nil)
  | copy source =>
    refine List.rel_append follow ?_
    induction follow generalizing source with
    | nil => exact .nil
    | cons first rest ih =>
      cases source with
      | zero => exact .cons first .nil
      | succ source => exact ih source
  | write target change =>
    simp only [record, run]
    induction follow generalizing target with
    | nil =>
      rw [List.modify_nil, List.modify_nil]
      exact .nil
    | cons first rest ih =>
      cases target with
      | zero => exact .cons (first.write change) rest
      | succ target => exact .cons first (ih target)

/-- The steps that change another map leave a map as it is. -/
theorem getElem?_runAll {maps : List (OrderedMap α)} {number : Nat} {m : OrderedMap α}
    (found : maps[number]? = some m) (steps : List (Step α))
    (others : ∀ step ∈ steps, step.target? ≠ some number) :
    (runAll maps steps)[number]? = some m := by
  induction steps generalizing maps with
  | nil => exact found
  | cons step rest ih =>
    rw [List.forall_mem_cons] at others
    refine ih ?_ others.2
    have inside := (List.getElem?_eq_some_iff.1 found).1
    cases step with
    | collect | copy => exact (List.getElem?_append_left inside).trans found
    | write target change =>
      have apart : target ≠ number := fun same => others.1 (congrArg some same)
      simpa [Step.run, apart] using found

/-- Every map that steps lead to follows its history. -/
theorem runAll_follow (steps : List (Step α)) :
    List.Forall₂ Follows (histories steps) (runAll [] steps) := by
  unfold histories runAll
  induction steps using List.reverseRecOn with
  | nil => exact .nil
  | append_singleton steps step ih =>
    rw [List.foldl_append, List.foldl_append]
    exact step.follows ih

/-- **Ordered maps refine lists of names with values.**  Whatever is done with several maps, with
any names, there is one history for each of them.  The index of a map lists exactly the names of the
entries, each with the position of the only entry that has it, so no lookup leaves the entries.  The
names are those that were inserted into this map or into its originals, in the order of their first
insertions; a name holds what was last written to it, and is there just if it was inserted.  An
insertion returns what the name held.  The map and the three lists of its contents are as long as
there are names.  Steps with other maps, such as a copy or the original, change nothing about it. -/
theorem maps_follow_histories (steps : List (Step α)) :
    (histories steps).length = (runAll [] steps).length ∧
    ∀ number history m, (histories steps)[number]? = some history →
      (runAll [] steps)[number]? = some m →
        (m.index.keys = m.names ∧ m.names.Nodup ∧
          ∀ name position, m.index.get? name = some position ↔
            ∃ value, m.entries[position]? = some (name, value)) ∧
        m.names = (insertedNames history).eraseDups ∧
        (∀ name, m.get? name = lastWritten? history name ∧
          (m.contains name ↔ name ∈ insertedNames history) ∧
          ((m.get? name).isSome ↔ name ∈ insertedNames history)) ∧
        (∀ name value, (m.insert name value).1 = lastWritten? history name ∧
          ((m.insert name value).1.isSome ↔ name ∈ insertedNames history)) ∧
        (m.size = (insertedNames history).eraseDups.length ∧ m.names.length = m.size ∧
          m.values.length = m.size ∧ m.entries.length = m.size) ∧
        ∀ later, (∀ step ∈ later, step.target? ≠ some number) →
          (runAll [] (steps ++ later))[number]? = some m := by
  have follow := runAll_follow steps
  refine ⟨follow.length_eq, fun number history m recorded found => ?_⟩
  have follows : Follows history m := by
    obtain ⟨inside, rfl⟩ := List.getElem?_eq_some_iff.1 recorded
    obtain ⟨inside', rfl⟩ := List.getElem?_eq_some_iff.1 found
    exact follow.get inside inside'
  have held : ∀ name, (lastWritten? history name).isSome ↔ name ∈ insertedNames history := by
    intro name
    rw [← follows.get?, isSome_get?_iff follows.indexed, follows.mem_names]
  have length : m.names.length = m.entries.length := List.length_map _
  refine ⟨⟨follows.keys, nodup_names follows.indexed, index_iff follows.indexed⟩, follows.names,
    fun name => ⟨follows.get? name, follows.contains_iff name, ?_⟩, fun name value => ?_,
    ⟨?_, length, List.length_map _, rfl⟩, ?_⟩
  · rw [follows.get?, held]
  · rw [follows.insert_fst name value]
    exact ⟨rfl, held name⟩
  · rw [← follows.names, length]
    rfl
  · intro later others
    unfold runAll
    rw [List.foldl_append]
    exact getElem?_runAll found later others

/-- A copy keeps the value that its original gives up, and both keep the order of the names. -/
example : (runAll [] [.collect [("b", 1), ("a", 2)], .copy 0, .write 0 (.insert "b" 3),
    .write 1 (.update "a" (· + 5))]).map OrderedMap.entries =
      [[("b", 3), ("a", 2)], [("b", 1), ("a", 7)]] := by
  decide

end OrderedMap

end RecordSchema
