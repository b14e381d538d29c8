import RecordSchema.Source.Syntax.Bound

/-!
# Types

A type is a path, a group of types, a slice or an array, a pointer or a reference, a function, a
trait object, or one of a few marks that stand for a type.  Where a type ends at a `+`, as the
target of a reference does, no bounds are added to it.
-/

namespace RecordSchema.Phrases

open Reader

variable (inner : Phrases)

/-! ## Trait objects -/

/-- The bounds of a type that needs a trait among them. -/
def boundsWithTrait (plus captures constant : Bool) (wording : String) : Reader BoundList := do
  let bounds ← inner.readBounds plus captures constant
  if bounds.hasTrait then return bounds else throw (.traitMissing wording)

/-- The bounds of a trait object. -/
def objectBounds (plus : Bool) : Reader BoundList :=
  inner.boundsWithTrait plus false false "at least one trait is required for an object type"

/-- The form of a type that is nothing but bounds. -/
def BoundList.form (bounds : BoundList) : TypeForm :=
  if bounds.count = 1 && !bounds.openEnd then .soleBound else .other

/-- Bounds after a first one in parentheses, each with its `+`, at most `bound` of them. -/
def plusBounds : (bound : Nat) → Reader (List Token)
  | 0 => return []
  | bound + 1 => do
    if ← sees (Token.startsWith "+") then
      let plus ← mark "+"
      let next ← inner.bound false false
      return plus ++ next.tokens ++ (← plusBounds bound)
    else return []

/-! ## Groups -/

/-- What stands in parentheses where a type may stand, and the form of the whole. -/
def parenthesisInside : Reader (List Token × TypeForm × Bool) := do
  let tokens := (← cursor).tokens
  if tokens.isEmpty then return ([], .other, false)
  if Token.startsLifetime tokens then
    return ((← inner.objectBounds true).tokens, .parenthesized, false)
  if Token.startsWith "?" tokens then return (← inner.readTrait false, .soleBound, true)
  let first ← inner.type true
  if ← sees (Token.startsWith ",") then
    let comma ← mark ","
    return (first.tokens ++ comma ++ (← commaList (inner.typeTokens true)), .other, false)
  return (first.tokens, .parenthesized, first.form matches .name | .path | .soleBound)

/-- A type in parentheses, a tuple, or a trait object whose first bound is in parentheses. -/
def parenthesisType (plus : Bool) : Reader TypePhrase := do
  let (inside, form, bound) ← enter .parenthesis inner.parenthesisInside
  let tokens := .opening .parenthesis :: inside ++ [.closing .parenthesis]
  if bound && (plus || form == .soleBound) && (← sees (Token.startsWith "+")) then
    return { tokens := tokens ++ (← inner.plusBounds (← cursor).tokens.length) }
  return { tokens, form }

/-- A slice or an array. -/
def bracketType : Reader TypePhrase := do
  let tokens ← group .bracket do
    let element ← inner.typeTokens true
    let semicolon ← mark? ";"
    if semicolon.isEmpty then return element
    return element ++ semicolon ++ (← inner.expressionTokens true)
  return { tokens }

/-! ## Functions -/

/-- The parameters of a function type, at most `bound` of them.  The first may be `self`; dots stand
for any further ones. -/
def functionParamsAtMost (first : Bool) : (bound : Nat) → Reader (List Token)
  | 0 => return []
  | bound + 1 => do
    if ← atEnd then return []
    let attributes ← inner.attributeTokens
    let mutability ← if ← sees (startsMutableSelf first) then anyWord else pure []
    let name ← if ← sees (startsParamName first) then pure ((← anyWord) ++ (← mark ":")) else
      pure []
    if ← sees (Token.startsWith "...") then
      return attributes ++ mutability ++ name ++ (← mark "...") ++ (← mark? ",")
    let type ← if !mutability.isEmpty && name.isEmpty then keyword "self" else
      inner.typeTokens true
    let param := attributes ++ mutability ++ name ++ type
    if ← atEnd then return param
    let comma ← mark ","
    return param ++ comma ++ (← functionParamsAtMost false bound)
where
  /-- Whether `mut self` stands here. -/
  startsMutableSelf (first : Bool) (tokens : List Token) : Bool :=
    first && Token.startsWord "mut" tokens && Token.startsWord "self" (tokens.drop 1)
  /-- Whether a name with a colon stands here. -/
  startsParamName (first : Bool) (tokens : List Token) : Bool :=
    (Token.startsIdentifier tokens || Token.startsWord "_" tokens ||
        first && Token.startsWord "self" tokens) &&
      Token.startsWith ":" (tokens.drop 1) && !Token.startsWith "::" (tokens.drop 1)

/-- How functions of a type are called, as far as it is said. -/
def readConvention : Reader (List Token) := do
  let word ← keyword? "extern"
  if word.isEmpty then return []
  match (← cursor).tokens with
  | .string _ :: _ => return word ++ (← take 1)
  | _ => return word

/-- A function type. -/
def functionType : Reader TypePhrase := do
  let safety ← keyword? "unsafe"
  let convention ← readConvention
  let word ← keyword "fn"
  let params ← group .parenthesis do
    inner.functionParamsAtMost true ((← cursor).tokens.length + 1)
  let result ← inner.readResult false
  return { tokens := safety ++ convention ++ word ++ params ++ result.tokens }

/-! ## Paths and marks -/

/-- Whether a path or the macro call of a path may begin here. -/
def startsPath (tokens : List Token) : Bool :=
  Token.startsIdentifier tokens || Token.startsWordOf ["super", "self", "Self", "crate"] tokens ||
    Token.startsWithAny ["::", "<"] tokens

/-- Whether the mark of a macro call stands here. -/
def startsMacroMark (tokens : List Token) : Bool :=
  Token.startsWith "!" tokens && !Token.startsWith "!=" tokens

/-- A type that begins with a path: the path itself, a macro call, or the first of some bounds. -/
def pathType (binder : List Token) (plus : Bool) : Reader TypePhrase := do
  let (path, qualified) ← inner.readTypePath
  if qualified then return { tokens := binder ++ path.tokens }
  if path.plain && (← sees startsMacroMark) then
    let bang ← mark "!"
    return { tokens := binder ++ path.tokens ++ bang ++ (← anyGroup) }
  let more ← sees (Token.startsWith "+")
  if binder.isEmpty && !(plus && more) then
    return { tokens := path.tokens, form := if path.isName then .name else .path }
  let first : BoundList :=
    { tokens := binder ++ path.tokens, count := 1, openEnd := false, hasTrait := true }
  let bounds ← if plus then inner.boundsAfter false false first ((← cursor).tokens.length + 1) else
    pure first
  return { tokens := bounds.tokens, form := bounds.form }

/-- A pointer. -/
def pointerType : Reader TypePhrase := do
  let star ← mark "*"
  if !(← sees (Token.startsWordOf ["const", "mut"])) then
    fail [.keyword "const", .keyword "mut"]
  let access ← anyWord
  return { tokens := star ++ access ++ (← inner.typeTokens false) }

/-- A reference. -/
def referenceType : Reader TypePhrase := do
  let ampersand ← mark "&"
  let lifetime ← lifetime?
  let access ← keyword? "mut"
  return { tokens := ampersand ++ lifetime ++ access ++ (← inner.typeTokens false) }

/-- What may begin a type. -/
def typeBeginnings : List Expectation :=
  [.keyword "for", .group .parenthesis, .keyword "fn", .keyword "unsafe", .keyword "extern",
   .identifier, .mark "::", .mark "<", .keyword "dyn", .group .bracket, .mark "*", .mark "&",
   .mark "!", .keyword "impl", .keyword "_", .lifetime]

/-- What may follow the lifetimes that a type binds. -/
def boundTypeBeginnings : List Expectation :=
  [.identifier, .keyword "fn", .keyword "unsafe", .keyword "extern", .keyword "super",
   .keyword "self", .keyword "Self", .keyword "crate"]

/-- A type. -/
def readType (plus : Bool) : Reader TypePhrase := do
  let binder ← inner.readBinder
  let tokens := (← cursor).tokens
  let function := Token.startsWordOf ["fn", "unsafe", "extern"] tokens
  if !binder.isEmpty && !function && (!startsPath tokens || Token.startsWithAny ["::", "<"] tokens)
    then fail boundTypeBeginnings
  if Token.startsGroup .parenthesis tokens then inner.parenthesisType plus
  else if function then
    let type ← inner.functionType
    return { type with tokens := binder ++ type.tokens }
  else if startsPath tokens then inner.pathType binder plus
  else if Token.startsWord "dyn" tokens then
    let dyn ← anyWord
    let star ← mark? "*"
    return { tokens := dyn ++ star ++ (← inner.objectBounds plus).tokens }
  else if Token.startsGroup .bracket tokens then inner.bracketType
  else if Token.startsWith "*" tokens then inner.pointerType
  else if Token.startsWith "&" tokens then inner.referenceType
  else if Token.startsWith "!" tokens then return { tokens := ← mark "!" }
  else if Token.startsWord "impl" tokens then
    let impl ← anyWord
    let bounds ← inner.boundsWithTrait plus true true "at least one trait must be specified"
    return { tokens := impl ++ bounds.tokens }
  else if Token.startsWord "_" tokens then return { tokens := ← anyWord }
  else if Token.startsLifetime tokens then
    let bounds ← inner.objectBounds true
    return { tokens := bounds.tokens, form := bounds.form }
  else fail typeBeginnings

end RecordSchema.Phrases
