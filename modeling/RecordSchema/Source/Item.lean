import RecordSchema.Source.RecordOptions

/-!
# Record declarations

An item is a declaration as it stands in the source: its name, its generic parameters, its
attributes, and its fields if it has any.  Types and bounds stay token sequences, for nothing but
their spelling is used.
-/

namespace RecordSchema

/-- A declared field. -/
structure ItemField where
  type : List Token
  attributes : List Attribute
  deriving DecidableEq, Repr

/-- A declared field with a name. -/
structure NamedField extends ItemField where
  name : String
  deriving DecidableEq, Repr

/-- The forms of items. -/
inductive ItemBody where
  | named (fields : List NamedField)
  | tuple (fields : List ItemField)
  | unit
  | enumeration
  | union
  deriving DecidableEq, Repr

/-- The fields that a form has, with or without names. -/
def ItemBody.fields : ItemBody → List ItemField
  | .named fields => fields.map NamedField.toItemField
  | .tuple fields => fields
  | .unit | .enumeration | .union => []

/-- A declaration in the source. -/
structure Item where
  name : String
  generics : List GenericParam
  /-- A comma follows the last generic parameter. -/
  openGenerics : Bool
  /-- The predicates of the `where` clause. -/
  predicates : List (List Token)
  attributes : List Attribute
  body : ItemBody
  deriving DecidableEq, Repr

namespace Item

/-- The names of the type parameters, in the order of declaration. -/
def typeParams (item : Item) : List String := item.generics.filterMap GenericParam.typeName?

/-- Whether the item has type parameters. -/
def isGeneric (item : Item) : Bool := !item.typeParams.isEmpty

end Item

namespace Phrases

open Reader

variable (inner : Phrases)

/-- The predicates of a `where` clause without the commas between them. -/
def readPredicateTokens : Reader (List (List Token)) := do
  return (← inner.readPredicates).map Prod.fst

/-! ## Fields -/

/-- A field without a name. -/
def readField : Reader ItemField := do
  let attributes ← inner.readAttributes
  let _ ← readVisibility
  return { type := ← inner.typeTokens true, attributes }

/-- A field with a name. -/
def readNamedField : Reader NamedField := do
  let attributes ← inner.readAttributes
  let _ ← readVisibility
  let name ← nameOrBlank
  let _ ← mark ":"
  return { name := Token.spaced name, type := ← inner.fieldType name, attributes }

/-! ## Items -/

/-- The predicates and the fields of a structure. -/
def readStructure : Reader (List (List Token) × ItemBody) := do
  let early ← inner.readPredicateTokens
  let tokens := (← cursor).tokens
  if Token.startsGroup .parenthesis tokens then
    let fields ← enter .parenthesis (commaSeparated inner.readField)
    let late ← inner.readPredicateTokens
    let _ ← mark ";"
    return (early ++ late, .tuple fields)
  if Token.startsGroup .brace tokens then
    return (early, .named (← enter .brace (commaSeparated inner.readNamedField)))
  let _ ← mark ";"
  return (early, .unit)

/-- The predicates of an enumeration or a union, the inside of which does not matter. -/
def readClosed (body : ItemBody) : Reader (List (List Token) × ItemBody) := do
  let predicates ← inner.readPredicateTokens
  let _ ← group .brace takeAll
  return (predicates, body)

/-- An item. -/
def readItem : Reader Item := do
  let attributes ← inner.readAttributes
  let _ ← readVisibility
  if !(← sees (Token.startsWordOf ["struct", "enum", "union"])) then
    fail [.keyword "struct", .keyword "enum", .keyword "union"]
  let form ← anyWord
  let name ← identifier
  let (generics, openGenerics) ← inner.readGenericParams
  let (predicates, body) ←
    if Token.startsWord "struct" form then inner.readStructure
    else inner.readClosed (if Token.startsWord "enum" form then .enumeration else .union)
  return { name := Token.spaced name, generics, openGenerics, predicates, attributes, body }

end Phrases

namespace Item

/-- The item that a text declares. -/
def ofText? (text : String) : Option Item :=
  (Token.lex text).bind fun tokens => ((withPhrases Phrases.readItem).run tokens).toOption

end Item

end RecordSchema
