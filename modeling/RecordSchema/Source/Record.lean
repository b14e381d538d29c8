import RecordSchema.Source.Item

/-!
# Deriving a record

`Record.derive` accepts an item as a record or refuses it with the first rule that it breaks.  The
rules are looked at in this order: the `record` attributes, a tag on the type, the form of the
item, its generic parameters, and its fields.
-/

namespace RecordSchema

/-- A described field of a record. -/
structure DerivedField where
  name : String
  type : List Token
  tag : Option StringLiteral
  deriving DecidableEq, Repr

/-- An item accepted as a record. -/
structure Record where
  item : Item
  options : RecordOptions
  /-- The fields in the order of declaration, none if they are not described. -/
  fields : Option (List DerivedField)
  deriving DecidableEq, Repr

namespace Record

/-- Refuse tags where they have no meaning. -/
def forbidTags (attributes : List Attribute) (error : DeriveError) : Except DeriveError Unit :=
  if attributes.any Attribute.isTag then .error error else .ok ()

/-- Records have type parameters only. -/
def checkGenerics : List GenericParam → Except DeriveError Unit
  | [] => .ok ()
  | .lifetime _ :: _ => .error .lifetimeParameter
  | .const _ :: _ => .error .constParameter
  | .type _ _ _ _ :: rest => checkGenerics rest

/-- Records are structs. -/
def checkForm : ItemBody → Except DeriveError Unit
  | .named _ | .tuple _ | .unit => .ok ()
  | .enumeration => .error .enumeration
  | .union => .error .union

/-- Describe a named field. -/
def deriveField (field : NamedField) : Except DeriveError DerivedField := do
  let tag ← tagOf field.attributes
  return { name := field.name, type := field.type, tag }

/-- The described fields of a struct: those with names, unless the type is closed. -/
def deriveFields (options : RecordOptions) (body : ItemBody) :
    Except DeriveError (Option (List DerivedField)) :=
  match options.closed, body with
  | false, .named fields => some <$> fields.mapM deriveField
  | _, _ => do
    body.fields.forM fun field => forbidTags field.attributes .tagOnClosed
    return none

/-- Accept an item as a record. -/
def derive (item : Item) : Except DeriveError Record := do
  let options ← RecordOptions.ofAttributes item.attributes
  forbidTags item.attributes .tagOnType
  checkForm item.body
  checkGenerics item.generics
  let fields ← deriveFields options item.body
  return { item, options, fields }

/-- What follows the last `::`, if there is one.  Of three colons in a row the last two count. -/
def afterLastSeparator? : List Char → Option (List Char)
  | [] => none
  | c :: rest =>
    afterLastSeparator? rest <|>
      if c = ':' ∧ rest.head? = some ':' then some rest.tail else none

/-- The last segment of a path, all of it if it has no `::`. -/
def lastSegment (path : String) : String :=
  ((afterLastSeparator? path.toList).map String.ofList).getD path

/-- The short name of a record: the last segment of its type path, or else its own name. -/
def typeName (record : Record) : String :=
  match record.options.typePath with
  | some path => lastSegment path.value
  | none => record.item.name

end Record

end RecordSchema
