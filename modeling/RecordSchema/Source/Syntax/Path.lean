import RecordSchema.Source.Syntax.Phrase

/-!
# Paths

A path is a sequence of segments joined by `::`, with a `::` before it if it is absolute.  A segment
is an identifier or one of the words that stand for a place in the module tree, and may have generic
arguments between angle brackets.  Among the arguments lifetimes are written first.
-/

namespace RecordSchema

/-- A generic argument, and whether a comma follows it. -/
structure GenericArgument where
  tokens : List Token
  isLifetime : Bool
  comma : Bool := false

namespace GenericArgument

/-- Arguments one after the other.  The comma of one is left out only at the end. -/
def separated : List GenericArgument → List Token
  | [] => []
  | [last] => last.tokens ++ if last.comma then Token.operator "," else []
  | first :: rest => first.tokens ++ Token.operator "," ++ separated rest

/-- Arguments as they are written, lifetimes before the others. -/
def written (arguments : List GenericArgument) : List Token :=
  separated (arguments.filter isLifetime ++ arguments.filter fun a => !a.isLifetime)

end GenericArgument

namespace Phrases

open Reader

variable (inner : Phrases)

/-! ## Arguments -/

/-- Items with a `+` between two and perhaps after the last, up to where a test is passed; at most
`bound` of them. -/
def plusListAtMost (ends : List Token → Bool) (item : Reader (List Token)) :
    (bound : Nat) → Reader (List Token)
  | 0 => return []
  | bound + 1 => do
    if ← sees ends then return []
    let first ← item
    if ← sees (Token.startsWith "+") then
      let plus ← mark "+"
      return first ++ plus ++ (← plusListAtMost ends item bound)
    else return first

/-- Items with a `+` between two and perhaps after the last, up to where a test is passed. -/
def plusListUntil (ends : List Token → Bool) (item : Reader (List Token)) :
    Reader (List Token) := do
  plusListAtMost ends item ((← cursor).tokens.length + 1)

/-- A trait as it may stand among the bounds of a parameter, or a lifetime. -/
def parameterBound : Reader (List Token) := do return (← inner.bound false true).tokens

/-- Whether a constant that stands for itself begins here: a literal or a block. -/
def startsConstant (tokens : List Token) : Bool :=
  Token.startsLiteral tokens || Token.startsGroup .brace tokens

/-- A literal or a block. -/
def readConstant : Reader (List Token) := do
  if ← sees Token.startsLiteral then literal else inner.block

/-- A generic argument: a lifetime, a constant, a type, or something associated with its value or
its bounds. -/
def readArgument : Reader GenericArgument := do
  let tokens := (← cursor).tokens
  if Token.startsLifetime tokens && !Token.startsWith "+" (tokens.drop 1) then
    return ⟨← lifetime, true, false⟩
  if startsConstant tokens then return ⟨← inner.readConstant, false, false⟩
  let type ← inner.type true
  if type.form = .name then
    if ← sees (Token.startsWith "=") then
      let equals ← mark "="
      let value ← if ← sees startsConstant then inner.readConstant else inner.typeTokens true
      return ⟨type.tokens ++ equals ++ value, false, false⟩
    if ← sees (Token.startsWith ":") then
      let colon ← mark ":"
      let bounds ← plusListUntil (Token.startsWithAny [",", ">"]) inner.parameterBound
      return ⟨type.tokens ++ colon ++ bounds, false, false⟩
  return ⟨type.tokens, false, false⟩

/-- Arguments up to a closing angle bracket, at most `bound` of them. -/
def argumentsAtMost : (bound : Nat) → Reader (List GenericArgument)
  | 0 => return []
  | bound + 1 => do
    if ← sees (Token.startsWith ">") then return []
    let first ← inner.readArgument
    if ← sees (Token.startsWith ">") then return [first]
    let _ ← mark ","
    return { first with comma := true } :: (← argumentsAtMost bound)

/-- Arguments in angle brackets, and whether there are none. -/
def angleArguments : Reader (List Token × Bool) := do
  let opening ← mark "<"
  let arguments ← inner.argumentsAtMost ((← cursor).tokens.length + 1)
  let closing ← mark ">"
  return (opening ++ GenericArgument.written arguments ++ closing, arguments.isEmpty)

/-- Arguments in angle brackets after `::`. -/
def turbofish : Reader (List Token) := do
  let colons ← mark "::"
  return colons ++ (← inner.angleArguments).1

/-! ## Segments -/

/-- The words for places in the module tree, which take no arguments. -/
def placeWords : List String := ["super", "self", "crate", "try"]

/-- Whether arguments of a segment begin here.  In an expression an angle bracket is a comparison
unless `::` stands before it. -/
def startsArguments (expression : Bool) (tokens : List Token) : Bool :=
  !expression && Token.startsWith "<" tokens && !Token.startsWithAny ["<=", "<<="] tokens ||
    Token.startsWith "::" tokens && Token.startsWith "<" (tokens.drop 2)

/-- One segment. -/
def readSegment (expression : Bool) : Reader PathPhrase := do
  if ← sees (Token.startsWordOf placeWords) then return { stem := ← anyWord }
  let word ← if ← sees (Token.startsWord "Self") then anyWord else identifier
  if ← sees (startsArguments expression) then
    let colons ← mark? "::"
    let (arguments, bare) ← inner.angleArguments
    return { stem := word, arguments := colons ++ arguments, bare, plain := false }
  else return { stem := word }

/-- Whether another segment follows a path.  What `::` joins to parentheses is no segment. -/
def startsNextSegment (tokens : List Token) : Bool :=
  Token.startsWith "::" tokens && !Token.startsGroup .parenthesis (tokens.drop 2)

/-- The further segments of a path, at most `bound` of them. -/
def segmentsAtMost (expression : Bool) (path : PathPhrase) : (bound : Nat) → Reader PathPhrase
  | 0 => return path
  | bound + 1 => do
    if ← sees startsNextSegment then
      let colons ← mark "::"
      let segment ← inner.readSegment expression
      segmentsAtMost expression (path.push colons segment) bound
    else return path

/-- A path with all segments that follow. -/
def furtherSegments (expression : Bool) (path : PathPhrase) : Reader PathPhrase := do
  inner.segmentsAtMost expression path (← cursor).tokens.length

/-- A path, absolute or not. -/
def readPath (expression : Bool) : Reader PathPhrase := do
  let colons ← mark? "::"
  let first ← inner.readSegment expression
  inner.furtherSegments expression
    { first with stem := colons ++ first.stem, absolute := !colons.isEmpty }

/-- A path of words only, as attributes and visibilities have it. -/
def readWordPath : Reader PathPhrase := do
  let colons ← mark? "::"
  let first ← word
  further { stem := colons ++ first, absolute := !colons.isEmpty } (← cursor).tokens.length
where
  /-- A word that may stand in such a path. -/
  word : Reader (List Token) := do
    if ← sees (Token.startsWordOf ["super", "self", "Self", "crate"]) then anyWord else identifier
  /-- The further words, at most `bound` of them. -/
  further (path : PathPhrase) : (bound : Nat) → Reader PathPhrase
    | 0 => return path
    | bound + 1 => do
      if ← sees (Token.startsWith "::") then
        let colons ← mark "::"
        further (path.push colons { stem := ← word }) bound
      else return path

/-! ## Qualified paths -/

/-- A path, or one that begins with a type in angle brackets; whether it does comes with it. -/
def readQualifiedPath (expression : Bool) : Reader (PathPhrase × Bool) := do
  if !(← sees (Token.startsWith "<")) then return (← inner.readPath expression, false)
  let opening ← mark "<"
  let self ← inner.typeTokens true
  let as ← keyword? "as"
  let trait ← if as.isEmpty then pure [] else PathPhrase.tokens <$> inner.readPath false
  let closing ← mark ">"
  let colons ← mark "::"
  let first ← inner.readSegment expression
  let type := opening ++ self ++ as ++ trait ++ closing
  let path := { first with stem := type ++ colons ++ first.stem }
  return (← further path (← cursor).tokens.length, true)
where
  /-- The further segments, at most `bound` of them. -/
  further (path : PathPhrase) : (bound : Nat) → Reader PathPhrase
    | 0 => return path
    | bound + 1 => do
      if ← sees (Token.startsWith "::") then
        let colons ← mark "::"
        let segment ← inner.readSegment expression
        further (path.push colons segment) bound
      else return path

/-! ## Signatures -/

/-- The type after an arrow, if one stands here. -/
def readResult (plus : Bool) : Reader TypePhrase := do
  if ← sees (Token.startsWith "->") then
    let arrow ← mark "->"
    let type ← inner.type plus
    return { type with tokens := arrow ++ type.tokens }
  else return { tokens := [] }

/-- Parameters and result of a segment that is written like a function, and whether another segment
may follow them. -/
def readSignature : Reader (List Token × Bool) := do
  let _ ← mark? "::"
  let parameters ← group .parenthesis (commaList (inner.typeTokens true))
  let result ← inner.readResult false
  return (parameters ++ result.tokens, result.tokens.isEmpty || result.form = .parenthesized)

/-- Whether a signature follows a path. -/
def startsSignature (tokens : List Token) : Bool :=
  Token.startsGroup .parenthesis tokens ||
    Token.startsWith "::" tokens && Token.startsGroup .parenthesis (tokens.drop 2)

/-- The path of a trait with its signature, if it has one. -/
def readTraitPath : Reader PathPhrase := do
  let path ← inner.readPath false
  if path.bare && (← sees startsSignature) then
    return path.withSignature (← inner.readSignature).1
  else return path

/-- The path of a type with its signatures, and whether it begins with a type in angle brackets. -/
def readTypePath : Reader (PathPhrase × Bool) := do
  let (path, qualified) ← inner.readQualifiedPath false
  return (← signatures path ((← cursor).tokens.length + 1), qualified)
where
  /-- Signatures, and segments after them, at most `bound` times. -/
  signatures (path : PathPhrase) : (bound : Nat) → Reader PathPhrase
    | 0 => return path
    | bound + 1 => do
      if path.bare && (← sees startsSignature) then
        let (signature, goesOn) ← inner.readSignature
        let path := path.withSignature signature
        signatures (← if goesOn then inner.furtherSegments false path else pure path) bound
      else return path

end Phrases

end RecordSchema
