import RecordSchema.Source.Path

/-!
# Manifests

Generated code refers to the library by absolute paths, which must be right for the package that
asks for the code.  Its manifest lists what it depends on.  A member of the library is reached by
its own name where it is listed; a member whose name begins with `gs_` is reached through the
facade where that is listed.  Dependencies come before development dependencies, and where neither
leads anywhere the member's own name is taken.

A dependency table written inline is not looked into.
-/

namespace RecordSchema

/-- The ways to write a table of dependencies. -/
inductive TableForm where
  /-- Under a header, a line for each package. -/
  | header
  /-- A header for each package. -/
  | subtables
  /-- A dotted key for each package. -/
  | dotted
  /-- As a value between braces. -/
  | inline
  deriving DecidableEq, Repr

/-- A table of dependencies by the names it lists. -/
structure DependencyTable where
  form : TableForm
  names : List String
  deriving DecidableEq, Repr

/-- Whether a table lists a package where it is looked for. -/
def DependencyTable.lists (table : DependencyTable) (name : String) : Bool :=
  table.form != .inline && table.names.contains name

/-- The dependency tables of a package. -/
structure Manifest where
  dependencies : Option DependencyTable := none
  devDependencies : Option DependencyTable := none
  /-- Build dependencies are of no use to generated code. -/
  buildDependencies : Option DependencyTable := none
  deriving DecidableEq, Repr

/-- How a package reaches a member of the library. -/
inductive MemberRoute where
  /-- By its own name. -/
  | direct (name : String)
  /-- As a module of the facade. -/
  | facade (module : String)
  deriving DecidableEq, Repr

namespace Manifest

def facadeName : String := "gql_struct"

def memberPrefix : String := "gs_"

/-- The module of the facade that re-exports a member. -/
def moduleOf? (name : String) : Option String :=
  if memberPrefix.toList.isPrefixOf name.toList then
    some (String.ofList (name.toList.drop memberPrefix.length))
  else none

/-- The way to a member that a table opens. -/
def routeIn? (table : DependencyTable) (name : String) : Option MemberRoute :=
  if table.lists name then some (.direct name)
  else
    match moduleOf? name with
    | some module => if table.lists facadeName then some (.facade module) else none
    | none => none

/-- The way to a member. -/
def route (manifest : Manifest) (name : String) : MemberRoute :=
  match manifest.dependencies.bind fun table => routeIn? table name with
  | some found => found
  | none =>
    match manifest.devDependencies.bind fun table => routeIn? table name with
    | some found => found
    | none => .direct name

end Manifest

/-- The path that a route gives, none if a name in it cannot stand in a path. -/
def MemberRoute.path? : MemberRoute → Option (List Token)
  | .direct name => Path.ofText? ("::" ++ name)
  | .facade module => do
    let root ← Path.ofText? ("::" ++ Manifest.facadeName)
    return root ++ Token.operator "::" ++ (← Path.segmentOfText? module)

/-- The path by which generated code refers to a member, none if it would be no path. -/
def Manifest.memberPath? (manifest : Manifest) (name : String) : Option (List Token) :=
  (manifest.route name).path?

end RecordSchema
