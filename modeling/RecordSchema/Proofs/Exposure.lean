import RecordSchema.Encoder.Session

/-!
# What fields are exposed as

Fields and arguments are stored in ordered maps under the names that their tags carry.  This module
says what an insertion does to the names and values of a map, and which names the fields of a struct
are exposed under.
-/

namespace RecordSchema

variable {n : Nat}

/-! ## Ordered maps after an insertion -/

namespace OrderedMap

variable {α : Type}

theorem mem_names_iff {m : OrderedMap α} (h : m.Indexed) (name : String) :
    name ∈ m.names ↔ ∃ position, m.index.get? name = some position := by
  rw [List.mem_iff_getElem?]
  constructor
  · rintro ⟨position, found⟩
    exact ⟨position, (h name position).2 found⟩
  · rintro ⟨position, found⟩
    exact ⟨position, (h name position).1 found⟩

/-- A new name comes last; a present one keeps its place. -/
theorem names_insert {m : OrderedMap α} (h : m.Indexed) (name : String) (value : α) :
    (m.insert name value).2.names = if name ∈ m.names then m.names else m.names ++ [name] := by
  have present := mem_names_iff h name
  unfold insert
  cases found : m.index.get? name with
  | some position =>
    rw [if_pos (present.2 ⟨position, found⟩)]
    exact names_modify m.entries position fun _ => value
  | none =>
    have absent : name ∉ m.names := by
      rw [present, found]
      rintro ⟨position, ⟨⟩⟩
    rw [if_neg absent]
    simp [names]

/-- The inserted value is found under its name, and the other values where they were. -/
theorem get?_insert {m : OrderedMap α} (h : m.Indexed) (name other : String) (value : α) :
    (m.insert name value).2.get? other = if name = other then some value else m.get? other := by
  unfold insert
  cases found : m.index.get? name with
  | some position =>
    have named := (h name position).1 found
    unfold names at named
    rw [List.getElem?_map, Option.map_eq_some_iff] at named
    obtain ⟨entry, stored, -⟩ := named
    simp only [get?]
    by_cases same : name = other
    · subst same
      simp [found, stored]
    · rw [if_neg same]
      cases place : m.index.get? other with
      | none => rfl
      | some position' =>
        have apart : position ≠ position' := fun equal => by
          have named := (h name position).1 found
          rw [equal, (h other position').1 place] at named
          exact same (Option.some.inj named).symm
        simp [apart]
  | none =>
    simp only [get?]
    by_cases same : name = other
    · subst same
      simp
    · rw [if_neg same, Dictionary.get?_insert_of_ne _ _ same]
      cases place : m.index.get? other with
      | none => rfl
      | some position =>
        have named := (h other position).1 place
        unfold names at named
        have inside : position < m.entries.length := by
          have bound := (List.getElem?_eq_some_iff.1 named).1
          rwa [List.length_map] at bound
        simp [List.getElem?_append_left inside]

/-- An insertion replaces a value exactly where the name is there. -/
theorem isSome_insert_iff {m : OrderedMap α} (h : m.Indexed) (name : String) (value : α) :
    (m.insert name value).1.isSome ↔ name ∈ m.names := by
  rw [mem_names_iff h]
  unfold insert
  cases found : m.index.get? name with
  | some position =>
    have named := (h name position).1 found
    unfold names at named
    rw [List.getElem?_map, Option.map_eq_some_iff] at named
    obtain ⟨entry, stored, -⟩ := named
    simp [stored]
  | none => simp

theorem get?_eq_none_of_not_mem {m : OrderedMap α} (h : m.Indexed) {name : String}
    (absent : name ∉ m.names) : m.get? name = none := by
  rw [mem_names_iff h, not_exists] at absent
  unfold get?
  cases found : m.index.get? name with
  | none => rfl
  | some position => exact absurd found (absent position)

theorem mem_modify {entries : List (String × α)} {position : Nat} {value : α}
    {entry : String × α} (h : entry ∈ entries.modify position fun old => (old.1, value)) :
    entry.2 = value ∨ entry ∈ entries := by
  rw [List.mem_iff_getElem?] at h
  obtain ⟨place, found⟩ := h
  rw [List.getElem?_modify, Option.map_eq_map, Option.map_eq_some_iff] at found
  obtain ⟨old, stored, same⟩ := found
  have kept := List.mem_of_getElem? stored
  split at same
  · exact .inl (by rw [← same])
  · exact .inr (same ▸ kept)

/-- An insertion adds no other value than the given one. -/
theorem mem_values_insert {m : OrderedMap α} {name : String} {value other : α}
    (h : other ∈ (m.insert name value).2.values) : other = value ∨ other ∈ m.values := by
  unfold values at h ⊢
  unfold insert at h
  obtain ⟨entry, stored, rfl⟩ := List.mem_map.1 h
  cases found : m.index.get? name with
  | some position =>
    simp only [found] at stored
    rcases mem_modify stored with new | old
    · exact .inl new
    · exact .inr (List.mem_map_of_mem old)
  | none =>
    simp only [found] at stored
    rcases List.mem_append.1 stored with old | new
    · exact .inr (List.mem_map_of_mem old)
    · exact .inl (by rw [List.mem_singleton.1 new])

end OrderedMap

/-! ## Exposed names -/

/-- The names that the tags of fields carry, in the order of declaration. -/
def tagNames (fields : List (RecordField n)) : List String :=
  (fields.filterMap FieldTag.of?).map FieldTag.name

/-- The names that fields are exposed under, each in the place of its first tag. -/
def exposedNames (fields : List (RecordField n)) : List String := (tagNames fields).eraseDups

theorem tagNames_cons_of_untagged {field : RecordField n} (untagged : field.tag? = none)
    (rest : List (RecordField n)) : tagNames (field :: rest) = tagNames rest := by
  have absent : FieldTag.of? field = none := by
    unfold FieldTag.of?
    rw [untagged]
    rfl
  unfold tagNames
  rw [List.filterMap_cons_none absent]

theorem tagNames_cons_of_tagged {field : RecordField n} {text : String} {type : TypeExpr n}
    (content : field.content = .tagged text type) (rest : List (RecordField n)) :
    tagNames (field :: rest) = (FieldTag.parse text).name :: tagNames rest := by
  have present : FieldTag.of? field = some (FieldTag.parse text) := by
    unfold FieldTag.of? RecordField.tag?
    rw [content]
    rfl
  unfold tagNames
  rw [List.filterMap_cons_some present, List.map_cons]

theorem tagNames_append (before after : List (RecordField n)) :
    tagNames (before ++ after) = tagNames before ++ tagNames after := by
  unfold tagNames
  rw [List.filterMap_append, List.map_append]

/-- A name that tags carry is carried by a last tag. -/
theorem exists_last_of_mem_tagNames {fields : List (RecordField n)} {name : String}
    (carried : name ∈ tagNames fields) :
    ∃ before field after text content, fields = before ++ field :: after ∧
      field.content = .tagged text content ∧ (FieldTag.parse text).name = name ∧
        name ∉ tagNames after := by
  induction fields with
  | nil => cases carried
  | cons field rest ih =>
    by_cases later : name ∈ tagNames rest
    · obtain ⟨before, last, after, text, content, rfl, tagged, named, final⟩ := ih later
      exact ⟨field :: before, last, after, text, content, rfl, tagged, named, final⟩
    · cases content : field.content with
      | hidden | untagged =>
        have untagged : field.tag? = none := by simp [RecordField.tag?, content]
        rw [tagNames_cons_of_untagged untagged] at carried
        exact absurd carried later
      | tagged text type =>
        rw [tagNames_cons_of_tagged content] at carried
        rcases List.mem_cons.1 carried with rfl | carried
        · exact ⟨[], field, rest, text, type, rfl, content, rfl, later⟩
        · exact absurd carried later

/-- One more name is listed last, unless it is there. -/
theorem eraseDups_append_singleton (names : List String) (name : String) :
    (names ++ [name]).eraseDups =
      if name ∈ names.eraseDups then names.eraseDups else names.eraseDups ++ [name] := by
  rw [List.eraseDups_append]
  by_cases present : name ∈ names
  · have erased : name ∈ names.eraseDups := List.mem_eraseDups.2 present
    rw [if_pos erased]
    simp [List.removeAll, present]
  · have erased : name ∉ names.eraseDups := fun h => present (List.mem_eraseDups.1 h)
    have left : [name].removeAll names = [name] := by simp [List.removeAll, present]
    rw [if_neg erased, left]
    rfl

theorem tagNames_append_of_untagged {field : RecordField n} (untagged : field.tag? = none)
    (before : List (RecordField n)) : tagNames (before ++ [field]) = tagNames before := by
  rw [tagNames_append, tagNames_cons_of_untagged untagged]
  exact List.append_nil _

theorem tagNames_append_of_tagged {field : RecordField n} {text : String} {type : TypeExpr n}
    (content : field.content = .tagged text type) (before : List (RecordField n)) :
    tagNames (before ++ [field]) = tagNames before ++ [(FieldTag.parse text).name] := by
  rw [tagNames_append, tagNames_cons_of_tagged content]
  rfl

theorem exposedNames_append_of_untagged {field : RecordField n} (untagged : field.tag? = none)
    (before : List (RecordField n)) : exposedNames (before ++ [field]) = exposedNames before := by
  unfold exposedNames
  rw [tagNames_append_of_untagged untagged]

theorem exposedNames_append_of_tagged {field : RecordField n} {text : String} {type : TypeExpr n}
    (content : field.content = .tagged text type) (before : List (RecordField n)) :
    exposedNames (before ++ [field]) =
      if (FieldTag.parse text).name ∈ exposedNames before then exposedNames before
      else exposedNames before ++ [(FieldTag.parse text).name] := by
  unfold exposedNames
  rw [tagNames_append_of_tagged content]
  exact eraseDups_append_singleton _ _

/-- The fields whose tags carry a name that is taken already, each with this name. -/
def retaken : List String → List (RecordField n) → List (String × String)
  | _, [] => []
  | taken, field :: rest =>
    match FieldTag.of? field with
    | none => retaken taken rest
    | some tag =>
      (if tag.name ∈ taken then [(field.name, tag.name)] else []) ++
        retaken (taken ++ [tag.name]) rest

theorem retaken_cons_of_untagged {field : RecordField n} (untagged : field.tag? = none)
    (taken : List String) (rest : List (RecordField n)) :
    retaken taken (field :: rest) = retaken taken rest := by
  have absent : FieldTag.of? field = none := by
    unfold FieldTag.of?
    rw [untagged]
    rfl
  rw [retaken, absent]

theorem retaken_cons_of_tagged {field : RecordField n} {text : String} {type : TypeExpr n}
    (content : field.content = .tagged text type) (taken : List String)
    (rest : List (RecordField n)) :
    retaken taken (field :: rest) =
      (if (FieldTag.parse text).name ∈ taken then [(field.name, (FieldTag.parse text).name)]
        else []) ++ retaken (taken ++ [(FieldTag.parse text).name]) rest := by
  have present : FieldTag.of? field = some (FieldTag.parse text) := by
    unfold FieldTag.of? RecordField.tag?
    rw [content]
    rfl
  rw [retaken, present]

/-- Each further tag carries a new name or one that is taken already. -/
theorem length_exposedNames_append (before rest : List (RecordField n)) :
    (exposedNames (before ++ rest)).length + (retaken (tagNames before) rest).length =
      (exposedNames before).length + (tagNames rest).length := by
  induction rest generalizing before with
  | nil => simp [retaken, tagNames]
  | cons field rest ih =>
    have step := ih (before ++ [field])
    rw [List.append_assoc, List.singleton_append] at step
    cases content : field.content with
    | hidden | untagged =>
      have untagged : field.tag? = none := by simp [RecordField.tag?, content]
      rwa [tagNames_append_of_untagged untagged, exposedNames_append_of_untagged untagged,
        ← retaken_cons_of_untagged untagged, ← tagNames_cons_of_untagged untagged rest] at step
    | tagged text type =>
      rw [tagNames_append_of_tagged content, exposedNames_append_of_tagged content] at step
      rw [retaken_cons_of_tagged content, tagNames_cons_of_tagged content, List.length_append,
        List.length_cons]
      have taken : (FieldTag.parse text).name ∈ exposedNames before ↔
          (FieldTag.parse text).name ∈ tagNames before := List.mem_eraseDups
      by_cases present : (FieldTag.parse text).name ∈ tagNames before
      · rw [if_pos (taken.2 present)] at step
        rw [if_pos present, List.length_singleton]
        omega
      · rw [if_neg (fun listed => present (taken.1 listed)), List.length_append,
          List.length_singleton] at step
        rw [if_neg present, List.length_nil]
        omega

/-! ## Maps of fields -/

/-- A map has an entry for each name that tags of fields carry, in the place where the name occurs
first, and the entry is one that the last field with this name gives after the fields before it. -/
structure Gathers {α : Type} (gives : List (RecordField n) → FieldTag → TypeExpr n → α → Prop)
    (fields : List (RecordField n)) (m : OrderedMap α) : Prop where
  names : m.names = exposedNames fields
  last : ∀ before field after text content, fields = before ++ field :: after →
    field.content = .tagged text content → (FieldTag.parse text).name ∉ tagNames after →
      ∃ value, m.get? (FieldTag.parse text).name = some value ∧
        gives before (.parse text) content value
  indexed : m.Indexed

/-- A field of a list is the one that was added last, or is followed by it. -/
theorem split_append_singleton {fields before after : List (RecordField n)}
    {field other : RecordField n} (split : fields ++ [field] = before ++ other :: after) :
    (after = [] ∧ fields = before ∧ field = other) ∨
      ∃ rest, after = rest ++ [field] ∧ fields = before ++ other :: rest := by
  rcases List.eq_nil_or_concat after with rfl | ⟨rest, final, rfl⟩
  · obtain ⟨same, last⟩ := List.append_inj' split rfl
    exact .inl ⟨rfl, same, (List.cons.inj last).1⟩
  · have split' : fields ++ [field] = (before ++ other :: rest) ++ [final] := by
      rw [split, List.concat_eq_append, List.append_assoc, List.cons_append]
    obtain ⟨same, last⟩ := List.append_inj' split' rfl
    cases last
    exact .inr ⟨rest, List.concat_eq_append, same⟩

namespace Gathers

variable {α : Type} {gives : List (RecordField n) → FieldTag → TypeExpr n → α → Prop}
  {fields : List (RecordField n)} {field : RecordField n} {m : OrderedMap α}

theorem nil : Gathers gives [] .empty where
  names := rfl
  last before field after text content split := by
    have impossible := congrArg List.length split
    simp at impossible
  indexed := OrderedMap.indexed_empty

theorem untagged (gathers : Gathers gives fields m) (untagged : field.tag? = none) :
    Gathers gives (fields ++ [field]) m where
  names := by rw [gathers.names, exposedNames_append_of_untagged untagged]
  last before other after text content split tagged free := by
    rcases split_append_singleton split with ⟨-, -, rfl⟩ | ⟨rest, rfl, split'⟩
    · simp [RecordField.tag?, tagged] at untagged
    · rw [tagNames_append_of_untagged untagged] at free
      exact gathers.last before other rest text content split' tagged free
  indexed := gathers.indexed

/-- One more tagged field replaces the entry of its name. -/
theorem tagged (gathers : Gathers gives fields m) {text : String} {content : TypeExpr n}
    (tagged : field.content = .tagged text content) {value : α}
    (given : gives fields (.parse text) content value) :
    Gathers gives (fields ++ [field]) (m.insert (FieldTag.parse text).name value).2 where
  names := by
    rw [OrderedMap.names_insert gathers.indexed, gathers.names,
      exposedNames_append_of_tagged tagged]
  last before other after text' content' split tagged' free := by
    rw [OrderedMap.get?_insert gathers.indexed]
    rcases split_append_singleton split with ⟨rfl, rfl, rfl⟩ | ⟨rest, rfl, split'⟩
    · rw [tagged] at tagged'
      cases tagged'
      exact ⟨value, if_pos rfl, given⟩
    · rw [tagNames_append_of_tagged tagged, List.mem_append, not_or] at free
      have apart : (FieldTag.parse text).name ≠ (FieldTag.parse text').name := fun same =>
        free.2 (List.mem_singleton.2 same.symm)
      rw [if_neg apart]
      exact gathers.last before other rest text' content' split' tagged' free.1
  indexed := OrderedMap.indexed_insert gathers.indexed _ _

/-- There is no other entry. -/
theorem get?_eq_none (gathers : Gathers gives fields m) {name : String}
    (unnamed : name ∉ tagNames fields) : m.get? name = none := by
  refine OrderedMap.get?_eq_none_of_not_mem gathers.indexed ?_
  rw [gathers.names]
  exact fun named => unnamed (List.mem_eraseDups.1 named)

end Gathers

end RecordSchema
