import RecordSchema.Source.Syntax.Reader

/-!
# Errors in record declarations

Each rule that a declaration can break is a constructor, and `DeriveError.message` words them all.
What stands in a `record` attribute may also break a rule of syntax.
-/

namespace RecordSchema

/-- The keys of a `record` attribute. -/
inductive RecordKey where
  | typeProvider
  | resolverProvider
  | typeTrait
  | typePath
  | closed
  deriving DecidableEq, Repr

def RecordKey.all : List RecordKey :=
  [.typeProvider, .resolverProvider, .typeTrait, .typePath, .closed]

/-- The word of a key. -/
def RecordKey.name : RecordKey → String
  | .typeProvider => "TypeProvider"
  | .resolverProvider => "ResolverProvider"
  | .typeTrait => "type_trait"
  | .typePath => "type_path"
  | .closed => "opaque"

/-- Why a declaration was refused. -/
inductive DeriveError where
  /-- A `record` attribute without arguments. -/
  | argumentsMissing
  /-- A `record` attribute with a value in place of arguments. -/
  | argumentsNotGrouped
  /-- What stands in a `record` attribute cannot be read. -/
  | malformed (error : SyntaxError)
  /-- A literal stands for a key. -/
  | literalKey
  /-- A mark or a group stands for a key. -/
  | tokenKey
  | unknownKey
  | duplicateKey (key : RecordKey)
  /-- The type path is empty, or `::` stands at one of its ends. -/
  | malformedTypePath
  /-- The type path holds `<`. -/
  | genericTypePath
  /-- A tag on the type. -/
  | tagOnType
  | enumeration
  | union
  | lifetimeParameter
  | constParameter
  | repeatedTag
  | malformedTag
  /-- A tag on a field of a type whose fields are not described. -/
  | tagOnClosed
  deriving DecidableEq, Repr

namespace DeriveError

/-- The wording of an error. -/
def message : DeriveError → String
  | .argumentsMissing => "expected attribute arguments in parentheses: #[record(...)]"
  | .argumentsNotGrouped => "expected parentheses: #[record(...)]"
  | .malformed error => error.message
  | .literalKey => "unexpected literal in nested attribute, expected ident"
  | .tokenKey => "unexpected token in nested attribute, expected ident"
  | .unknownKey =>
    "unknown record attribute, expected one of: `TypeProvider`, `ResolverProvider`, " ++
      "`type_trait`, `type_path`, `opaque`"
  | .duplicateKey key => "duplicate `" ++ key.name ++ "`"
  | .malformedTypePath =>
    "`type_path` must be a path like `my_crate::model::User`, without leading `::`"
  | .genericTypePath => "`type_path` must not contain generics, they are appended automatically"
  | .tagOnType => "`#[graphql(...)]` tags belong on fields"
  | .enumeration => "`Record` cannot be derived for enums"
  | .union => "`Record` cannot be derived for unions"
  | .lifetimeParameter =>
    "`Record` types must be `'static`, lifetime parameters are not supported"
  | .constParameter => "const parameters are not supported by `Record`"
  | .repeatedTag => "a field accepts a single `#[graphql(...)]` tag"
  | .malformedTag => "expected a string tag: `#[graphql(\"name\")]`"
  | .tagOnClosed =>
    "`#[graphql(...)]` tags need a struct with named fields that is not `opaque`"

end DeriveError

/-- Reading the syntax in a declaration is part of a larger task, in which an error of syntax is one
among others. -/
instance : MonadLift Reader (ReaderOf DeriveError) where
  monadLift reader := fun cursor => (reader cursor).mapError .malformed

end RecordSchema
