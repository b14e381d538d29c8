import RecordSchema.Proofs.Words
import RecordSchema.Source.Manifest

/-!
# Paths to members of the library

A package finds a member `gs_x` of the library by rules, of which the first that applies counts: by
its own name if the dependencies list it, as module `x` of the facade if they list the facade, then
likewise for the development dependencies, and otherwise by its own name (`Manifest.rulePath`).  The
rules ask what a table lists, not how it is written.

A table written inline is not looked into, however, so the rules hold of what is left without such
tables (`Manifest.visible`).  Where neither table is written inline they hold as they stand;
otherwise a member can get the path of a package that the manifest does not list.
-/

namespace RecordSchema

/-- A path from the root through modules, as it is written. -/
def Path.absolute (names : List String) : List Token :=
  names.flatMap fun name => Token.operator "::" ++ [.word name]

namespace Manifest

/-! ## The rules -/

/-- Whether a table, if there is one, lists a package. -/
def isListed (table? : Option DependencyTable) (name : String) : Bool :=
  table?.any fun table => table.names.contains name

/-- The path to the member `gs_x` by the rules. -/
def rulePath (manifest : Manifest) (x : String) : List Token :=
  let own := memberPrefix ++ x
  if isListed manifest.dependencies own then Path.absolute [own]
  else if isListed manifest.dependencies facadeName then Path.absolute [facadeName, x]
  else if isListed manifest.devDependencies own then Path.absolute [own]
  else if isListed manifest.devDependencies facadeName then Path.absolute [facadeName, x]
  else Path.absolute [own]

/-- The manifest without tables that are written inline. -/
def visible (manifest : Manifest) : Manifest :=
  { manifest with
    dependencies := manifest.dependencies.filter (·.form ≠ .inline)
    devDependencies := manifest.devDependencies.filter (·.form ≠ .inline) }

/-! ## Names of members -/

section Names

variable {x : String}

/-- The name of a member is the prefix with the name of its module. -/
theorem moduleOf?_member (x : String) : moduleOf? (memberPrefix ++ x) = some x := by
  have begins : memberPrefix.toList.isPrefixOf (memberPrefix ++ x).toList := by
    rw [String.toList_append, List.isPrefixOf_iff_prefix]
    exact List.prefix_append _ _
  have rest : (memberPrefix ++ x).toList.drop memberPrefix.length = x.toList := by
    rw [String.toList_append, ← String.length_toList, List.drop_left]
  rw [moduleOf?, if_pos begins, rest, String.ofList_toList]

/-- No keyword begins like the name of a member. -/
theorem isIdentifier_member (identifier : Token.IsIdentifier x) :
    Token.IsIdentifier (memberPrefix ++ x) where
  starts := by
    have letter : isIdentifierStart 'g' := by decide +kernel
    simpa [memberPrefix] using letter
  goesOn c inside := by
    have word : Token.IsWord memberPrefix.toList := by decide +kernel
    rw [String.toList_append, List.mem_append] at inside
    rcases inside with inside | inside
    · exact word.goesOn c inside
    · exact identifier.goesOn c inside
  free reserved := by
    have others : ∀ word ∈ Token.reservedWords,
        memberPrefix.toList.isPrefixOf word.toList = false := by decide +kernel
    have other := others _ reserved
    rw [String.toList_append, ← Bool.not_eq_true, List.isPrefixOf_iff_prefix] at other
    exact other (List.prefix_append _ _)

theorem isIdentifier_facadeName : Token.IsIdentifier facadeName := by decide +kernel

end Names

/-! ## The way to a member -/

section Routes

variable {x : String}

theorem path?_direct (identifier : Token.IsIdentifier x) :
    (MemberRoute.direct (memberPrefix ++ x)).path? = some (Path.absolute [memberPrefix ++ x]) :=
  Path.ofText?_absolute (isIdentifier_member identifier)

theorem path?_facade (identifier : Token.IsIdentifier x) :
    (MemberRoute.facade x).path? = some (Path.absolute [facadeName, x]) := by
  rw [MemberRoute.path?, Path.ofText?_absolute isIdentifier_facadeName,
    Path.segmentOfText?_word identifier]
  rfl

/-- A table is looked into if it is not written inline. -/
theorem isListed_filter (table? : Option DependencyTable) (name : String) :
    isListed (table?.filter (·.form ≠ .inline)) name = table?.any (·.lists name) := by
  cases table? with
  | none => rfl
  | some table =>
    obtain ⟨form, names⟩ := table
    cases form <;> rfl

/-- Within one table the name of the member comes before the facade. -/
theorem bind_routeIn? (table? : Option DependencyTable) (x : String) :
    (table?.bind fun table => routeIn? table (memberPrefix ++ x)) =
      if table?.any (·.lists (memberPrefix ++ x)) then some (.direct (memberPrefix ++ x))
      else if table?.any (·.lists facadeName) then some (.facade x)
      else none := by
  cases table? with
  | none => rfl
  | some table => simp only [Option.bind_some, routeIn?, moduleOf?_member, Option.any_some]

/-- The path to a member is that of the rules for the tables that are looked into. -/
theorem memberPath?_member (manifest : Manifest) (identifier : Token.IsIdentifier x) :
    manifest.memberPath? (memberPrefix ++ x) = some (manifest.visible.rulePath x) := by
  have direct := path?_direct identifier
  have facade := path?_facade identifier
  simp only [memberPath?, route, bind_routeIn?, rulePath, visible, isListed_filter]
  split_ifs <;> assumption

/-- A manifest without inline tables is looked into as it is. -/
theorem visible_eq_self {manifest : Manifest}
    (dependencies : ∀ table ∈ manifest.dependencies, table.form ≠ .inline)
    (devDependencies : ∀ table ∈ manifest.devDependencies, table.form ≠ .inline) :
    manifest.visible = manifest := by
  have kept : ∀ table? : Option DependencyTable, (∀ table ∈ table?, table.form ≠ .inline) →
      table?.filter (·.form ≠ .inline) = table? := by
    intro table? others
    cases table? with
    | none => rfl
    | some table => simp [Option.filter, others table rfl]
  rw [visible, kept _ dependencies, kept _ devDependencies]

end Routes

end Manifest

/-- **The path to a member follows the rules, but for tables written inline.**  In any manifest the
path to a member `gs_x` is that of the rules for what is left without inline tables.  So wherever
neither of the two tables is written inline, it is the path of the rules, however the tables are
written and whatever else they list. -/
theorem Manifest.member_paths_follow_rules (manifest : Manifest) {x : String}
    (identifier : Token.IsIdentifier x) :
    manifest.memberPath? (memberPrefix ++ x) = some (manifest.visible.rulePath x) ∧
    ((∀ table ∈ manifest.dependencies, table.form ≠ .inline) →
      (∀ table ∈ manifest.devDependencies, table.form ≠ .inline) →
        manifest.memberPath? (memberPrefix ++ x) = some (manifest.rulePath x)) := by
  have path := memberPath?_member manifest identifier
  refine ⟨path, fun dependencies devDependencies => ?_⟩
  rw [path, visible_eq_self dependencies devDependencies]

namespace Sample

/-- A package that depends on the facade, and for development on a member. -/
def application : Manifest where
  dependencies := some ⟨.subtables, ["serde", "gql_struct"]⟩
  devDependencies := some ⟨.dotted, ["gs_encoder"]⟩

/-- A package that depends on the facade, as it says inline. -/
def plugin : Manifest where
  dependencies := some ⟨.inline, ["gql_struct"]⟩

theorem isIdentifier_encoder : Token.IsIdentifier "encoder" := by decide +kernel

end Sample

/-- The facade among the dependencies comes before the member among those for development. -/
theorem Sample.application_reaches_encoder :
    Token.IsIdentifier "encoder" ∧
    (∀ table ∈ application.dependencies, table.form ≠ .inline) ∧
    (∀ table ∈ application.devDependencies, table.form ≠ .inline) ∧
    application.memberPath? ("gs_" ++ "encoder") =
      some (Path.absolute ["gql_struct", "encoder"]) := by
  have dependencies : ∀ table ∈ application.dependencies, table.form ≠ .inline := by
    rintro _ ⟨⟩
    decide
  have devDependencies : ∀ table ∈ application.devDependencies, table.form ≠ .inline := by
    rintro _ ⟨⟩
    decide
  obtain ⟨-, rules⟩ := application.member_paths_follow_rules isIdentifier_encoder
  exact ⟨isIdentifier_encoder, dependencies, devDependencies, rules dependencies devDependencies⟩

/-- A facade that is listed inline is overlooked, and the path is that of a package which is not
listed. -/
theorem Sample.plugin_misses_encoder :
    Token.IsIdentifier "encoder" ∧
    plugin.rulePath "encoder" = Path.absolute ["gql_struct", "encoder"] ∧
    plugin.memberPath? ("gs_" ++ "encoder") = some (Path.absolute ["gs_encoder"]) ∧
    plugin.memberPath? ("gs_" ++ "encoder") ≠ some (plugin.rulePath "encoder") := by
  have path : plugin.memberPath? ("gs_" ++ "encoder") = some (Path.absolute ["gs_encoder"]) :=
    plugin.memberPath?_member isIdentifier_encoder
  refine ⟨isIdentifier_encoder, by decide +kernel, path, ?_⟩
  rw [path]
  decide +kernel

end RecordSchema
