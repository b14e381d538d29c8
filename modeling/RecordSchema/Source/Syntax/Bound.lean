import RecordSchema.Source.Syntax.Attribute

/-!
# Bounds and generic parameters

A bound is a lifetime, a trait, or a list of captured parameters.  A trait may be optional (`?`),
constant, in parentheses, and may bind lifetimes of its own, which are generic parameters.
-/

namespace RecordSchema

/-- A generic parameter. -/
inductive GenericParam where
  | lifetime (tokens : List Token)
  | const (tokens : List Token)
  /-- A type parameter with the attributes before its name, the bounds after it and its default with
  the `=`. -/
  | type (attributes : List Token) (name : String) (bounds default : List Token)
  deriving DecidableEq, Repr

namespace GenericParam

/-- The tokens of a parameter with its bounds, without its default.  A colon without bounds is left
out. -/
def withBounds (attributes : List Token) (name : String) (bounds : List Token) : List Token :=
  attributes ++ .word name :: if bounds.isEmpty then [] else Token.operator ":" ++ bounds

/-- A parameter as it is written. -/
def tokens : GenericParam → List Token
  | .lifetime tokens | .const tokens => tokens
  | .type attributes name bounds default => withBounds attributes name bounds ++ default

/-- The name of a type parameter. -/
def typeName? : GenericParam → Option String
  | .type _ name _ _ => some name
  | _ => none

end GenericParam

namespace Phrases

open Reader

variable (inner : Phrases)

/-! ## Generic parameters -/

/-- The bounds after a colon, up to where a test is passed; none without a colon. -/
def boundsAfterColon (ends : List Token → Bool) (bound : Reader (List Token)) :
    Reader (List Token) := do
  if (← mark? ":").isEmpty then return []
  plusListUntil (fun tokens => tokens.isEmpty || ends tokens) bound

/-- The default of a constant parameter. -/
def readConstantDefault : Reader (List Token) := do
  let equals ← mark? "="
  if equals.isEmpty then return []
  if ← sees startsConstant then return equals ++ (← inner.readConstant)
  return equals ++ (← identifier)

/-- A generic parameter.  A type parameter without a name is written `_`. -/
def readGenericParam : Reader GenericParam := do
  let attributes ← inner.attributeTokens
  match (← cursor).tokens with
  | .lifetime name :: _ =>
    let _ ← lifetime
    let bounds ← boundsAfterColon (Token.startsWithAny [",", ">"]) lifetime
    let bounds := if bounds.isEmpty then [] else Token.operator ":" ++ bounds
    return .lifetime (attributes ++ .lifetime name :: bounds)
  | .word "const" :: _ =>
    let const ← anyWord
    let name ← identifier
    let colon ← mark ":"
    let type ← inner.typeTokens true
    let default ← inner.readConstantDefault
    return .const (attributes ++ const ++ name ++ colon ++ type ++ default)
  | .word name :: _ =>
    let _ ← if name = "_" then anyWord else
      if Token.reservedWords.contains name then expected else anyWord
    let bounds ← boundsAfterColon (Token.startsWithAny [",", ">", "="]) inner.parameterBound
    let equals ← mark? "="
    let default ← if equals.isEmpty then pure [] else inner.typeTokens true
    return .type attributes name bounds (equals ++ default)
  | _ => expected
where
  /-- Nothing that stands here is a parameter. -/
  expected {α : Type} : Reader α := fail [.identifier, .lifetime, .keyword "const"]

/-- Generic parameters up to a closing angle bracket, at most `bound` of them, and whether a comma
follows the last. -/
def genericParamsAtMost : (bound : Nat) → Reader (List GenericParam × Bool)
  | 0 => return ([], false)
  | bound + 1 => do
    if ← sees (Token.startsWith ">") then return ([], true)
    let first ← inner.readGenericParam
    if ← sees (Token.startsWith ">") then return ([first], false)
    let _ ← mark ","
    let (rest, comma) ← genericParamsAtMost bound
    return (first :: rest, comma)

/-- Generic parameters in angle brackets, and whether a comma follows the last; none without the
brackets. -/
def readGenericParams : Reader (List GenericParam × Bool) := do
  if (← mark? "<").isEmpty then return ([], false)
  let (params, comma) ← inner.genericParamsAtMost ((← cursor).tokens.length + 1)
  let _ ← mark ">"
  return (params, comma && !params.isEmpty)

/-! ## Bounds -/

/-- The lifetimes that a phrase binds for itself, if it binds any. -/
def readBinder : Reader (List Token) := do
  let for_ ← keyword? "for"
  if for_.isEmpty then return []
  let opening ← mark "<"
  let params ← commaListUntil (Token.startsWith ">") do return (← inner.readGenericParam).tokens
  let closing ← mark ">"
  return for_ ++ opening ++ params ++ closing

/-- A trait with what modifies it. -/
def readTrait (constant : Bool) : Reader (List Token) := do
  let binder ← inner.readBinder
  let const ← if ← sees (Token.startsGroup .bracket) then group .bracket (keyword "const") else
    keyword? "const"
  if !const.isEmpty && !constant then
    throw (.notAllowed (if const.length = 1 then "`const`" else "`[const]`"))
  let optional ← mark? "?"
  let binder' ← if binder.isEmpty && !optional.isEmpty then inner.readBinder else pure []
  let path ← inner.readTraitPath
  if !optional.isEmpty && !(binder ++ binder').isEmpty then
    throw .boundOptional
  return binder ++ const ++ optional ++ path.tokens

/-- The parameters that a type captures. -/
def readCaptures : Reader (List Token) := do
  let use ← keyword "use"
  let opening ← mark "<"
  let params ← capturesAtMost ((← cursor).tokens.length + 1)
  let closing ← mark ">"
  return use ++ opening ++ GenericArgument.written params ++ closing
where
  /-- Captured parameters up to a closing angle bracket, at most `bound` of them. -/
  capturesAtMost : (bound : Nat) → Reader (List GenericArgument)
    | 0 => return []
    | bound + 1 => do
      if ← sees (Token.startsWith ">") then return []
      let isLifetime ← sees Token.startsLifetime
      let isName ← sees fun tokens =>
        Token.startsIdentifier tokens || Token.startsWord "Self" tokens
      if !isLifetime && !isName then fail [.lifetime, .identifier, .mark ">"]
      let name ← take 1
      if ← sees (Token.startsWith ">") then return [⟨name, isLifetime, false⟩]
      if !(← sees (Token.startsWith ",")) then fail [.mark ",", .mark ">"]
      let _ ← mark ","
      return ⟨name, isLifetime, true⟩ :: (← capturesAtMost bound)

/-- A bound. -/
def readBound (captures constant : Bool) : Reader BoundPhrase := do
  let tokens := (← cursor).tokens
  if Token.startsLifetime tokens then return ⟨← lifetime, false⟩
  if Token.startsWord "use" tokens then
    let found ← readCaptures
    if captures then return ⟨found, false⟩
    throw (.notAllowed "`use<...>` precise capturing syntax")
  if Token.startsGroup .parenthesis tokens then
    return ⟨← group .parenthesis (inner.readTrait constant), true⟩
  return ⟨← inner.readTrait constant, true⟩

/-- Bounds as a type has them, one after the other by `+`. -/
structure BoundList where
  tokens : List Token
  count : Nat
  /-- A `+` follows the last bound. -/
  openEnd : Bool
  hasTrait : Bool

/-- Whether another bound begins here. -/
def startsBound (constant : Bool) (tokens : List Token) : Bool :=
  Token.startsAnyWord tokens || Token.startsWithAny ["::", "?"] tokens ||
    Token.startsLifetime tokens || Token.startsGroup .parenthesis tokens ||
    constant && Token.startsGroup .bracket tokens

/-- Further bounds after those of `found`, at most `bound` of them. -/
def boundsAfter (captures constant : Bool) (found : BoundList) : (bound : Nat) → Reader BoundList
  | 0 => return found
  | bound + 1 => do
    if !(← sees (Token.startsWith "+")) then return found
    let plus ← mark "+"
    if !(← sees (startsBound constant)) then
      return { found with tokens := found.tokens ++ plus, openEnd := true }
    let next ← inner.bound captures constant
    boundsAfter captures constant
      { tokens := found.tokens ++ plus ++ next.tokens, count := found.count + 1, openEnd := false
        hasTrait := found.hasTrait || next.isTrait } bound

/-- The bounds of a type.  More than one is read only if `plus`. -/
def readBounds (plus captures constant : Bool) : Reader BoundList := do
  let first ← inner.bound captures constant
  let found : BoundList :=
    { tokens := first.tokens, count := 1, openEnd := false, hasTrait := first.isTrait }
  if plus then inner.boundsAfter captures constant found ((← cursor).tokens.length + 1)
  else return found

end Phrases

end RecordSchema
