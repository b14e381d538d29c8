import RecordSchema.Source.DeriveError
import RecordSchema.Source.Path

/-!
# Attributes of record declarations

Two names of attributes matter.  A `record` attribute lists keys that say how a type is described;
all `record` attributes of a type add up to one `RecordOptions`.  A `graphql` attribute holds one
string literal, the tag of a field.
-/

namespace RecordSchema

namespace Attribute

def recordName : String := "record"

def tagName : String := "graphql"

def isRecord (a : Attribute) : Bool := a.name? == some recordName

def isTag (a : Attribute) : Bool := a.name? == some tagName

/-! ## Tags -/

/-- The tag of a `graphql` attribute. -/
def tag (a : Attribute) : Except DeriveError StringLiteral :=
  match a.body with
  | .arguments _ [.string tag] => .ok tag
  | _ => .error .malformedTag

end Attribute

/-- The tag among the attributes of a field, which may be tagged once. -/
def tagOf (attributes : List Attribute) : Except DeriveError (Option StringLiteral) :=
  (attributes.filter Attribute.isTag).foldlM (fun found a =>
    match found with
    | some _ => .error .repeatedTag
    | none => a.tag.map some) none

/-! ## Record options -/

/-- What the `record` attributes of a type say. -/
structure RecordOptions where
  typeProvider : Bool := false
  resolverProvider : Bool := false
  /-- The further hooks to attach, each by a path. -/
  typeTraits : List (List Token) := []
  typePath : Option StringLiteral := none
  /-- The fields are not described. -/
  closed : Bool := false
  deriving DecidableEq, Repr

/-- The number of hooks that a type is given. -/
def RecordOptions.hookCount (options : RecordOptions) : Nat :=
  (if options.typeProvider then 1 else 0) + (if options.resolverProvider then 1 else 0) +
    options.typeTraits.length

/-- The key of a name. -/
def RecordKey.named? (name : Option String) : Option RecordKey :=
  all.find? fun key => name == some key.name

namespace RecordOptions

open Reader

/-! ## Keys and values -/

/-- The first word of a key. -/
def firstWord : ReaderOf DeriveError (List Token) := do
  let tokens := (← cursor).tokens
  if Token.startsAnyWord tokens then anyWord
  else if tokens.isEmpty then fail (α := List Token) [.nestedAttribute]
  else if Token.startsLiteral tokens then throw .literalKey
  else throw .tokenKey

/-- The further words of a key. -/
def furtherWords : Reader (List Token) :=
  whileSees (Token.startsWith "::") do return (← mark "::") ++ (← anyWord)

/-- The name of a key, unless it is a path of several words or absolute. -/
def readName : ReaderOf DeriveError (Option String) := do
  let colons ← mark? "::"
  match colons ++ (← firstWord) ++ (← furtherWords) with
  | [.word name] => return some name
  | _ => return none

/-- A string literal. -/
def readString : Reader StringLiteral := do
  match (← cursor).tokens with
  | .string content :: _ => do
    let _ ← take 1
    return content
  | _ => fail [.stringLiteral]

/-- The paths of a `type_trait` key: one, or several in parentheses. -/
def readPaths : Reader (List (List Token)) := do
  if ← sees (Token.startsGroup .parenthesis) then
    enter .parenthesis (commaSeparated Path.read)
  else return [← Path.read]

/-! ## Taking keys in -/

/-- Set a mark that may be set once. -/
def setOnce (isSet : Bool) (key : RecordKey) (options : RecordOptions) :
    Except DeriveError RecordOptions :=
  if isSet then .error (.duplicateKey key) else .ok options

/-- Take in one key with its value, given that its name was read. -/
def take (options : RecordOptions) (key : RecordKey) : ReaderOf DeriveError RecordOptions :=
  match key with
  | .typeProvider => setOnce options.typeProvider key { options with typeProvider := true }
  | .resolverProvider =>
    setOnce options.resolverProvider key { options with resolverProvider := true }
  | .closed => setOnce options.closed key { options with closed := true }
  | .typePath => do
    if options.typePath.isSome then throw (.duplicateKey key)
    let _ ← mark "="
    return { options with typePath := some (← readString) }
  | .typeTrait => do
    let _ ← mark "="
    return { options with typeTraits := options.typeTraits ++ (← readPaths) }

/-- Take in one key with its name. -/
def takeKey (options : RecordOptions) : ReaderOf DeriveError RecordOptions := do
  let some key := RecordKey.named? (← readName) | throw .unknownKey
  options.take key

/-- Take in one `record` attribute. -/
def takeAttribute (options : RecordOptions) (a : Attribute) :
    Except DeriveError RecordOptions :=
  match a.body with
  | .bare => .error .argumentsMissing
  | .value _ => .error .argumentsNotGrouped
  | .arguments _ tokens =>
    (do
      let options ← takeIn (mark ",") takeKey options
      finish
      return options : ReaderOf DeriveError RecordOptions).result { tokens }

/-- The path of a type must have an inside and no generic arguments. -/
def check (options : RecordOptions) : Except DeriveError Unit :=
  match options.typePath with
  | none => .ok ()
  | some path =>
    if path.value.isEmpty || path.value.startsWith "::" || path.value.endsWith "::" then
      .error .malformedTypePath
    else if path.value.contains '<' then .error .genericTypePath
    else .ok ()

/-- What the `record` attributes among some attributes say. -/
def ofAttributes (attributes : List Attribute) : Except DeriveError RecordOptions := do
  let options ← (attributes.filter Attribute.isRecord).foldlM takeAttribute {}
  check options
  return options

end RecordOptions

end RecordSchema
