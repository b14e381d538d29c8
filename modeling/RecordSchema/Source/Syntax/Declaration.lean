import RecordSchema.Source.Syntax.Block

/-!
# Declarations

A block may declare functions, types, constants and more before it goes on, and modules, traits and
implementations hold declarations in turn.  A declaration is written as it stands, but lifetimes
come first among its generic parameters, and empty lists of parameters, bounds and predicates are
left out together with the marks that announce them.
-/

namespace RecordSchema

namespace GenericParam

def isLifetime : GenericParam → Bool
  | .lifetime _ => true
  | _ => false

/-- Parameters with a comma between two, and after the last if `comma`. -/
def listed (comma : Bool) : List GenericParam → List GenericArgument
  | [] => []
  | [last] => [⟨last.tokens, last.isLifetime, comma⟩]
  | first :: rest => ⟨first.tokens, first.isLifetime, true⟩ :: listed comma rest

/-- Parameters in angle brackets, lifetimes first. -/
def written (comma : Bool) (params : List GenericParam) : List Token :=
  if params.isEmpty then [] else
    Token.operator "<" ++ GenericArgument.written (listed comma params) ++ Token.operator ">"

end GenericParam

namespace Phrases

open Reader

variable (inner : Phrases)

/-! ## Visibility -/

/-- The place within which something is visible, given by the inside of parentheses after `pub`. -/
def isPlace (inside : List Token) : Bool :=
  Token.startsWordOf ["crate", "self", "super"] inside && inside.length == 1 ||
    Token.startsWord "in" inside

/-- Where a declaration or a field is visible. -/
def readVisibility : Reader (List Token) := do
  let word ← keyword? "pub"
  match word, (← cursor).tokens with
  | _ :: _, .opening .parenthesis :: rest =>
    if isPlace (Token.groupInside 0 rest).1 then return word ++ (← anyGroup) else return word
  | _, _ => return word

/-! ## Parameters and predicates -/

/-- Generic parameters as they are written. -/
def genericTokens : Reader (List Token) := do
  let (params, comma) ← inner.readGenericParams
  return GenericParam.written comma params

/-- Whether the bounds of a predicate end here. -/
def endsPredicate (tokens : List Token) : Bool :=
  tokens.isEmpty || Token.startsGroup .brace tokens || Token.startsWithAny [",", ";", "="] tokens ||
    Token.startsWith ":" tokens && !Token.startsWith "::" tokens

/-- A predicate: a lifetime or a type with its bounds. -/
def readPredicate : Reader (List Token) := do
  let tokens := (← cursor).tokens
  if Token.startsLifetime tokens && Token.startsWith ":" (tokens.drop 1) then
    return (← lifetime) ++ (← mark ":") ++ (← plusListUntil endsPredicate lifetime)
  let binder ← inner.readBinder
  let type ← inner.typeTokens true
  return binder ++ type ++ (← mark ":") ++ (← plusListUntil endsPredicate inner.parameterBound)

/-- Predicates, each with the comma after it, at most `bound` of them. -/
def predicatesAtMost : (bound : Nat) → Reader (List (List Token × List Token))
  | 0 => return []
  | bound + 1 => do
    if ← sees endsPredicate then return []
    let first ← inner.readPredicate
    let comma ← mark? ","
    if comma.isEmpty then return [(first, comma)]
    return (first, comma) :: (← predicatesAtMost bound)

/-- The predicates of a `where` clause, if one stands here, each with the comma after it. -/
def readPredicates : Reader (List (List Token × List Token)) := do
  if (← keyword? "where").isEmpty then return []
  inner.predicatesAtMost ((← cursor).tokens.length + 1)

/-- A `where` clause as it is written. -/
def clauseTokens : Reader (List Token) := do
  match ← inner.readPredicates with
  | [] => return []
  | predicates => return .word "where" :: predicates.flatMap fun (tokens, comma) => tokens ++ comma

/-- Bounds after a colon, up to where a test is passed. -/
def boundTokens (ends : List Token → Bool) : Reader (List Token) := do
  let bounds ← boundsAfterColon ends inner.parameterBound
  return if bounds.isEmpty then [] else Token.operator ":" ++ bounds

/-! ## Functions -/

/-- What follows a word that may stand here. -/
def afterWord (word : String) (tokens : List Token) : List Token :=
  if Token.startsWord word tokens then tokens.drop 1 else tokens

/-- Whether a function is declared here. -/
def startsFunction (tokens : List Token) : Bool :=
  let tokens := afterWord "unsafe" (afterWord "safe" (afterWord "async" (afterWord "const" tokens)))
  Token.startsWord "fn" <| match tokens with
    | .word "extern" :: .string _ :: rest | .word "extern" :: rest => rest
    | rest => rest

/-- Whether a method names what it is called on here. -/
def startsReceiver (tokens : List Token) : Bool :=
  let tokens := if Token.startsWith "&" tokens then
      if Token.startsLifetime (tokens.drop 1) then tokens.drop 2 else tokens.drop 1
    else tokens
  let tokens := afterWord "mut" tokens
  Token.startsWord "self" tokens && !Token.startsWith "::" (tokens.drop 1)

/-- What a method is called on. -/
def readReceiver : Reader (List Token) := do
  let ampersand ← mark? "&"
  let lifetime ← if ampersand.isEmpty then pure [] else lifetime?
  let name := (← keyword? "mut") ++ (← keyword "self")
  let colon ← if ampersand.isEmpty then mark? ":" else pure []
  let type ← if colon.isEmpty then pure [] else inner.typeTokens true
  return ampersand ++ lifetime ++ name ++ colon ++ type

/-- A parameter of a function.  One that is a type alone has no name. -/
def readParam : Reader (List Token) := do
  let attributes ← inner.attributeTokens
  let tokens := (← cursor).tokens
  if Token.startsWith "..." tokens then return attributes ++ (← mark "...")
  if startsReceiver tokens then return attributes ++ (← inner.readReceiver)
  let name ← if Token.startsIdentifier tokens && Token.startsWith "<" (tokens.drop 1) then
      pure (.word "_" :: Token.operator ":")
    else pure ((← inner.pattern false) ++ (← mark ":"))
  if ← sees (Token.startsWith "...") then return attributes ++ name ++ (← mark "...")
  return attributes ++ name ++ (← inner.typeTokens true)

/-- A function, with its body or a semicolon. -/
def readFunction : Reader (List Token) := do
  let words := (← keyword? "const") ++ (← keyword? "async") ++ (← keyword? "safe") ++
    (← keyword? "unsafe") ++ (← readConvention)
  let name := (← keyword "fn") ++ (← identifier) ++ (← inner.genericTokens)
  let params ← group .parenthesis (commaList inner.readParam)
  let result ← inner.readResult true
  let clause ← inner.clauseTokens
  let body ← if ← sees (Token.startsWith ";") then mark ";" else inner.block
  return words ++ name ++ params ++ result.tokens ++ clause ++ body

/-! ## Values and types -/

/-- The tokens from a point on that have been read since. -/
def readSince (start : List Token) : Reader (List Token) := do
  return start.take (start.length - (← cursor).tokens.length)

/-- A word, or `_` in its place. -/
def nameOrBlank : Reader (List Token) := do
  if ← sees (Token.startsWord "_") then anyWord else identifier

/-- A value after `=`, if one stands here. -/
def valueTokens : Reader (List Token) := do
  let equals ← mark? "="
  if equals.isEmpty then return [] else return equals ++ (← inner.expressionTokens true)

/-- A constant.  One with generic parameters or predicates is written just as it stands. -/
def readConstantDeclaration : Reader (List Token) := do
  let start := (← cursor).tokens
  let name := (← keyword "const") ++ (← nameOrBlank)
  let isGeneric ← sees (Token.startsWith "<")
  let _ ← inner.genericTokens
  let type := (← mark ":") ++ (← inner.typeTokens true)
  let value ← inner.valueTokens
  let isConditional ← sees (Token.startsWord "where")
  let _ ← inner.clauseTokens
  let semicolon ← mark ";"
  if isGeneric || isConditional then readSince start
  else return name ++ type ++ value ++ semicolon

/-- A variable that lives as long as the program. -/
def readStatic : Reader (List Token) := do
  let name := (← keyword "static") ++ (← keyword? "mut") ++ (← identifier)
  let colon ← mark? ":"
  let type ← if colon.isEmpty then pure [] else inner.typeTokens true
  return name ++ colon ++ type ++ (← inner.valueTokens) ++ (← mark ";")

/-- A name for a type, with its bounds or the type that it stands for. -/
def readAlias : Reader (List Token) := do
  let name := (← keyword "type") ++ (← identifier) ++ (← inner.genericTokens)
  let bounds ← inner.boundTokens fun tokens =>
    Token.startsWord "where" tokens || Token.startsWithAny ["=", ";"] tokens
  let early ← inner.clauseTokens
  let equals ← mark? "="
  let type ← if equals.isEmpty then pure [] else inner.typeTokens true
  let late ← inner.clauseTokens
  return name ++ bounds ++ early ++ equals ++ type ++ late ++ (← mark ";")

/-- The type of a field.  That of a field without a name may be its parts in braces. -/
def fieldType (name : List Token) : Reader (List Token) := do
  if Token.startsWord "_" name && (← sees fun tokens => Token.startsWord "struct" tokens ||
      Token.startsWord "union" tokens && Token.startsGroup .brace (tokens.drop 1)) then
    return (← anyWord) ++ (← group .brace takeAll)
  inner.typeTokens true

/-- A field. -/
def fieldTokens (named : Bool) : Reader (List Token) := do
  let lead := (← inner.attributeTokens) ++ (← readVisibility)
  if !named then return lead ++ (← inner.typeTokens true)
  let name ← nameOrBlank
  let colon ← mark ":"
  return lead ++ name ++ colon ++ (← inner.fieldType name)

/-- The fields of a type in their brackets. -/
def fieldGroup : Reader (List Token) := do
  if ← sees (Token.startsGroup .parenthesis) then
    group .parenthesis (commaList (inner.fieldTokens false))
  else group .brace (commaList (inner.fieldTokens true))

/-- A structure or a union. -/
def readStructureDeclaration : Reader (List Token) := do
  let name := (← anyWord) ++ (← identifier) ++ (← inner.genericTokens)
  let early ← inner.clauseTokens
  if ← sees (Token.startsWith ";") then return name ++ early ++ (← mark ";")
  if ← sees (Token.startsGroup .brace) then return name ++ early ++ (← inner.fieldGroup)
  let fields ← inner.fieldGroup
  return name ++ early ++ fields ++ (← inner.clauseTokens) ++ (← mark ";")

/-- A variant of an enumeration. -/
def readVariant : Reader (List Token) := do
  let attributes ← inner.attributeTokens
  let _ ← readVisibility
  let name ← identifier
  let fields ← if ← sees fun tokens => Token.startsGroup .parenthesis tokens ||
    Token.startsGroup .brace tokens then inner.fieldGroup else pure []
  return attributes ++ name ++ fields ++ (← inner.valueTokens)

/-- An enumeration. -/
def readEnumeration : Reader (List Token) := do
  let name := (← keyword "enum") ++ (← identifier) ++ (← inner.genericTokens)
  let clause ← inner.clauseTokens
  return name ++ clause ++ (← group .brace (commaList inner.readVariant))

/-! ## Groups of declarations -/

/-- The declarations in braces. -/
def declarationGroup : Reader (List Token) :=
  group .brace do
    let attributes ← inner.innerAttributeTokens
    return attributes ++ (← whileSees (fun tokens => !tokens.isEmpty) do
      return (← inner.attributeTokens) ++ (← inner.declaration))

/-- A module. -/
def readModule : Reader (List Token) := do
  let name := (← keyword? "unsafe") ++ (← keyword "mod") ++ (← identifier)
  if ← sees (Token.startsWith ";") then return name ++ (← mark ";")
  return name ++ (← inner.declarationGroup)

/-- Declarations of what is defined elsewhere. -/
def readForeign : Reader (List Token) := do
  return (← keyword? "unsafe") ++ (← readConvention) ++ (← inner.declarationGroup)

/-- A trait, or a name for bounds. -/
def readTraitDeclaration : Reader (List Token) := do
  let name := (← keyword? "unsafe") ++ (← keyword? "auto") ++ (← keyword "trait") ++
    (← identifier) ++ (← inner.genericTokens)
  let equals ← mark? "="
  if !equals.isEmpty then
    let bounds ← plusListUntil
      (fun tokens => Token.startsWord "where" tokens || Token.startsWith ";" tokens)
      inner.parameterBound
    return name ++ equals ++ bounds ++ (← inner.clauseTokens) ++ (← mark ";")
  let bounds ← inner.boundTokens fun tokens =>
    Token.startsWord "where" tokens || Token.startsGroup .brace tokens
  let clause ← inner.clauseTokens
  return name ++ bounds ++ clause ++ (← inner.declarationGroup)

/-- Whether the angle bracket after `impl` opens generic parameters, and not a type. -/
def startsGenerics (tokens : List Token) : Bool :=
  let next := tokens.drop 1
  let afterName := next.drop 1
  Token.startsWith "<" tokens &&
    (Token.startsWithAny [">", "#"] next || Token.startsWord "const" next ||
      (Token.startsLifetime next || Token.startsIdentifier next) &&
        (Token.startsWithAny [">", ",", "="] afterName ||
          Token.startsWith ":" afterName && !Token.startsWith "::" afterName))

/-- An implementation of a trait for a type, or of methods for a type.  One that is constant is
written just as it stands. -/
def readImplementation : Reader (List Token) := do
  let start := (← cursor).tokens
  let words := (← keyword? "default") ++ (← keyword? "unsafe") ++ (← keyword "impl")
  let generics ← if ← sees startsGenerics then inner.genericTokens else pure []
  let optional ← if ← sees fun tokens =>
    Token.startsWith "?" tokens && Token.startsWord "const" (tokens.drop 1) then mark "?" else
      pure []
  let const ← keyword? "const"
  let polarity ← if ← sees fun tokens =>
    Token.startsWith "!" tokens && !Token.startsGroup .brace (tokens.drop 1) then mark "!" else
      pure []
  let first ← inner.typeTokens true
  let for_ ← keyword? "for"
  let self ← if for_.isEmpty then pure [] else inner.typeTokens true
  let clause ← inner.clauseTokens
  let body ← inner.declarationGroup
  if !(optional ++ const).isEmpty then readSince start
  else return words ++ generics ++ polarity ++ first ++ for_ ++ self ++ clause ++ body

/-! ## Macros and imports -/

/-- A macro call that declares something, perhaps with a name for it. -/
def readMacroCall : Reader (List Token) := do
  let path ← readWordPath
  let bang ← mark "!"
  let name ← if ← sees fun tokens =>
    Token.startsIdentifier tokens || Token.startsWord "try" tokens then anyWord else pure []
  let braced ← sees (Token.startsGroup .brace)
  let arguments ← anyGroup
  return path.tokens ++ bang ++ name ++ arguments ++ (← if braced then pure [] else mark ";")

/-- A macro with its rules. -/
def readMacroDeclaration : Reader (List Token) := do
  let name := (← keyword "macro") ++ (← identifier)
  let params ← if ← sees (Token.startsGroup .parenthesis) then anyGroup else pure []
  return name ++ params ++ (← group .brace takeAll)

/-- Tokens and groups as they stand, up to a semicolon. -/
def throughSemicolon : Reader (List Token) := do
  let inside ← whileSees (fun tokens => !tokens.isEmpty && !Token.startsWith ";" tokens) do
    match (← cursor).tokens with
    | .opening _ :: _ => anyGroup
    | _ => take 1
  return inside ++ (← mark ";")

/-! ## All declarations -/

/-- A declaration without what precedes its first own word. -/
def declarationBody : Reader (List Token) := do
  let tokens := (← cursor).tokens
  let afterSafety := afterWord "unsafe" tokens
  if startsFunction tokens then inner.readFunction
  else if Token.startsWord "use" tokens ||
      Token.startsWord "extern" tokens && Token.startsWord "crate" (tokens.drop 1) then
    throughSemicolon
  else if Token.startsWord "extern" afterSafety then inner.readForeign
  else if Token.startsWord "static" tokens then inner.readStatic
  else if Token.startsWord "const" tokens then inner.readConstantDeclaration
  else if Token.startsWord "type" tokens then inner.readAlias
  else if Token.startsWord "mod" afterSafety then inner.readModule
  else if Token.startsWord "enum" tokens then inner.readEnumeration
  else if Token.startsWord "struct" tokens ||
      Token.startsWord "union" tokens && Token.startsIdentifier (tokens.drop 1) then
    inner.readStructureDeclaration
  else if Token.startsWord "trait" (afterWord "auto" afterSafety) then inner.readTraitDeclaration
  else if Token.startsWord "impl" (afterWord "unsafe" (afterWord "default" tokens)) then
    inner.readImplementation
  else if Token.startsWord "macro" tokens then readMacroDeclaration
  else readMacroCall

/-- A declaration without its attributes. -/
def readDeclaration : Reader (List Token) := do
  let visibility ← readVisibility
  let isDefault ← sees fun tokens => Token.startsWord "default" tokens &&
    (startsFunction (tokens.drop 1) || Token.startsWordOf ["const", "type"] (tokens.drop 1))
  let default ← if isDefault then anyWord else pure []
  return visibility ++ default ++ (← inner.declarationBody)

end Phrases

end RecordSchema
