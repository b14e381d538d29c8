import RecordSchema.Source.Manifest
import RecordSchema.Source.Record

/-!
# Generated code

The code derived for a record implements three traits: `TypePath` gives the path and the name of
the type, `Typed` its description, and `GetTypeMeta` its hooks and dependencies.  Code is made of
tokens.  A template is written as text and read into tokens, and what varies is put between
templates as tokens.
-/

namespace RecordSchema

/-- A piece of code. -/
abbrev Code := List Token

namespace Code

/-- The tokens of a template.  Groups may stay open in it.  A blank stands between marks that are
not one operator. -/
def template (text : String) : Code := (Token.lexChars text.toList).getD []

def grouped (delimiter : Delimiter) (inside : Code) : Code :=
  .opening delimiter :: inside ++ [.closing delimiter]

def parens (inside : Code) : Code := grouped .parenthesis inside

def brackets (inside : Code) : Code := grouped .bracket inside

def braces (inside : Code) : Code := grouped .brace inside

def angles (inside : Code) : Code := .mark '<' false :: inside ++ [.mark '>' false]

/-- Pieces with a comma between two. -/
def separated (pieces : List Code) : Code := (pieces.intersperse (template ",")).flatten

/-- Pieces with a comma after each. -/
def terminated (pieces : List Code) : Code := (pieces.map (· ++ template ",")).flatten

/-- A string literal. -/
def string (text : String) : Code := [.ofText text]

end Code

/-- The paths of the library that generated code uses. -/
structure LibraryPaths where
  /-- The member that describes types. -/
  reflect : Code
  /-- The member that builds schemas. -/
  encoder : Code

/-- The library as a package sees it. -/
def LibraryPaths.ofManifest? (manifest : Manifest) : Option LibraryPaths := do
  return ⟨← manifest.memberPath? "gs_reflect", ← manifest.memberPath? "gs_encoder"⟩

namespace LibraryPaths

/-- An item of the describing member. -/
def item (paths : LibraryPaths) (path : String) : Code := paths.reflect ++ Code.template path

def typePath (paths : LibraryPaths) : Code := paths.item "::info::TypePath"

def typeInfo (paths : LibraryPaths) : Code := paths.item "::info::TypeInfo"

def typeMeta (paths : LibraryPaths) : Code := paths.item "::registry::TypeMeta"

def getTypeMeta (paths : LibraryPaths) : Code := paths.item "::registry::GetTypeMeta"

end LibraryPaths

namespace Record

open Code

variable (paths : LibraryPaths) (record : Record)

/-- The path of the type without its parameters, as an expression. -/
def basePath : Code :=
  match record.options.typePath with
  | some literal => [.string literal]
  | none =>
    template "::core::concat!" ++
      parens (separated [paths.item "::__macro_exports::module_path!" ++ parens [],
        string "::", string record.typeName])

/-! ## Generic parameters -/

/-- Parameters in angle brackets, with a comma after the last if the declaration has one there. -/
def paramList (params : List Code) : Code :=
  if params.isEmpty then []
  else angles (separated params ++ if record.item.openGenerics then template "," else [])

/-- The parameters after `impl`, with their bounds. -/
def implGenerics : Code :=
  record.paramList (record.item.generics.filterMap paramCode)
where
  /-- A type parameter without its default. -/
  paramCode : GenericParam → Option Code
    | .type attributes name bounds _ => some (GenericParam.withBounds attributes name bounds)
    | _ => none

/-- The parameters after the name of the type. -/
def typeGenerics : Code :=
  record.paramList (record.item.typeParams.map fun name => [.word name])

/-- The `where` clause in which every type parameter has a bound, after the item's own
predicates. -/
def whereClause (bound : Code) : Code :=
  match record.item.predicates ++
      record.item.typeParams.map fun name => .word name :: template ":" ++ bound with
  | [] => []
  | predicates => template "where" ++ terminated predicates

/-- The implementation of a trait whose parameters have a bound. -/
def implementation (traitPath bound body : Code) : Code :=
  template "impl" ++ record.implGenerics ++ traitPath ++ template "for" ++
    [.word record.item.name] ++ record.typeGenerics ++ record.whereClause bound ++ braces body

/-! ## The path and the name -/

/-- A cell filled once for each instance of the type. -/
def instanceCell (cell content : Code) : Code :=
  template "static CELL:" ++ cell ++ template "=" ++ cell ++ template "::new();" ++
    template "CELL.get_or_insert:: <Self>" ++ parens (template "||" ++ content)

/-- What a type is called by `method`: `base`, followed by what its parameters are called. -/
def calledBy (method : String) (base : Code) : Code :=
  let parameter (name : String) : Code :=
    angles (.word name :: template "as" ++ paths.typePath) ++ template "::" ++
      [.word method] ++ parens []
  let parameters := brackets (separated (record.item.typeParams.map parameter)) ++
    template ".join" ++ parens (string ", ")
  instanceCell (paths.item "::impls::GenericTypePathCell")
    (braces (paths.item "::__macro_exports::concat" ++
      parens (template "&" ++ brackets (separated
        [base, string "<", template "&" ++ parameters, string ">"]))))

/-- One method of `TypePath`. -/
def pathMethod (method : String) (base : Code) : Code :=
  let signature := template "fn" ++ [.word method] ++ template "() -> & 'static str"
  if record.item.isGeneric then signature ++ braces (record.calledBy paths method base)
  else template "#[inline]" ++ signature ++ braces base

/-- The implementation of `TypePath`. -/
def typePathCode : Code :=
  record.implementation paths.typePath paths.typePath
    (record.pathMethod paths "type_path" (record.basePath paths) ++
      record.pathMethod paths "type_name" (string record.typeName))

/-! ## The description -/

/-- The description of one field. -/
def fieldCode (field : DerivedField) : Code :=
  let call (method : String) : Code := paths.item ("::info::NamedField::" ++ method)
  match field.tag with
  | some tag =>
    call "tagged" ++ template "::" ++ angles field.type ++
      parens (separated [string field.name, [.string tag]])
  | none => call "hidden" ++ parens (string field.name)

/-- The description of the type. -/
def infoCode : Code :=
  match record.fields with
  | some fields =>
    paths.typeInfo ++ template "::Struct" ++ parens
      (paths.item "::info::StructInfo::new:: <Self>" ++ parens
        (template "&" ++ brackets (terminated (fields.map (fieldCode paths)))))
  | none =>
    paths.typeInfo ++ template "::Opaque" ++ parens
      (paths.item "::info::OpaqueInfo::new:: <Self>" ++ parens [])

/-- The implementation of `Typed`. -/
def typedCode : Code :=
  let info := record.infoCode paths
  let cell := paths.item "::impls::NonGenericTypeInfoCell"
  let body :=
    if record.item.isGeneric then instanceCell (paths.item "::impls::GenericTypeInfoCell") info
    else
      template "static CELL:" ++ cell ++ template "=" ++ cell ++ template "::new();" ++
        template "CELL.get_or_init" ++ parens (template "||" ++ info)
  record.implementation (paths.item "::info::Typed") paths.getTypeMeta
    (template "fn type_info() -> & 'static" ++ paths.typeInfo ++ braces body)

/-! ## Hooks and dependencies -/

/-- The traits whose hooks the type is given. -/
def hookTraits : List Code :=
  (if record.options.typeProvider then
    [paths.encoder ++ template "::hooks::TypeTraitTypeProvider"] else []) ++
  (if record.options.resolverProvider then
    [paths.encoder ++ template "::hooks::TypeTraitResolver"] else []) ++
  record.options.typeTraits

/-- The attachment of one hook. -/
def insertCode (hook : Code) : Code :=
  paths.typeMeta ++ template "::insert_trait::" ++ angles hook ++
    parens (terminated [template "&mut __outer",
      angles (hook ++ template "as" ++ paths.item "::registry::FromType<Self>") ++
        template "::from_type()"]) ++ template ";"

/-- The types of the tagged fields. -/
def dependencyTypes : List Code :=
  (record.fields.getD []).filterMap fun field => field.tag.map fun _ => field.type

/-- The method that registers the types of the tagged fields, left out where there are none. -/
def dependenciesCode : Code :=
  match record.dependencyTypes with
  | [] => []
  | types =>
    template "fn register_dependencies" ++
      parens (template "__registry: &mut" ++ paths.item "::registry::TypeRegistry") ++
      braces (types.map fun type =>
        template "__registry.register::" ++ angles type ++ template "();").flatten

/-- The implementation of `GetTypeMeta`. -/
def getTypeMetaCode : Code :=
  let capacity : Token := .literal (toString record.options.hookCount ++ "usize")
  let body :=
    template "#[allow(unused_mut)] let mut __outer =" ++ paths.typeMeta ++
      template "::with_capacity:: <Self>" ++ parens [capacity] ++ template ";" ++
      ((record.hookTraits paths).map (insertCode paths)).flatten ++ template "__outer"
  record.implementation paths.getTypeMeta paths.getTypeMeta
    (template "fn get_type_meta() ->" ++ paths.typeMeta ++ braces body ++
      record.dependenciesCode paths)

/-- The code derived for a record. -/
def code : Code :=
  record.typePathCode paths ++ record.typedCode paths ++ record.getTypeMetaCode paths

end Record

end RecordSchema
