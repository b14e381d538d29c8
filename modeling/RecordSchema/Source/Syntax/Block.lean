import RecordSchema.Source.Syntax.Expression

/-!
# Blocks

A block holds statements: bindings, expressions, macro calls and declarations.  An expression needs
a semicolon after it unless it ends in a block or stands last.
-/

namespace RecordSchema.Phrases

open Reader

variable (inner : Phrases)

/-! ## Declarations -/

/-- The words that always begin a declaration. -/
def declarationWords : List String :=
  ["pub", "use", "type", "fn", "mod", "struct", "enum", "trait", "impl", "extern", "macro"]

/-- Whether a block or a function value goes on after `const`, and not a declaration. -/
def startsConstantValue (tokens : List Token) : Bool :=
  Token.startsWordOf ["static", "move"] tokens || Token.startsWith "|" tokens ||
    Token.startsGroup .brace tokens ||
    Token.startsWord "async" tokens &&
      !Token.startsWordOf ["unsafe", "extern", "fn"] (tokens.drop 1)

/-- Whether a declaration stands here. -/
def startsDeclaration (tokens : List Token) : Bool :=
  let next := tokens.drop 1
  Token.startsWordOf declarationWords tokens ||
    Token.startsWord "crate" tokens && !Token.startsWith "::" next ||
    Token.startsWord "const" tokens && !startsConstantValue next ||
    Token.startsWord "static" tokens &&
      (Token.startsWord "mut" next || Token.startsIdentifier next) ||
    Token.startsWord "unsafe" tokens && !Token.startsGroup .brace next ||
    Token.startsWord "async" tokens && Token.startsWordOf ["unsafe", "extern", "fn"] next ||
    Token.startsWord "union" tokens && Token.startsIdentifier next ||
    Token.startsWord "auto" tokens && Token.startsWord "trait" next ||
    Token.startsWord "default" tokens && Token.startsWordOf ["unsafe", "impl"] next

/-! ## Statements -/

/-- What follows a path of words at the head, if one stands there. -/
def afterWordPath? : List Token → Option (List Token)
  | .word word :: .mark ':' true :: .mark ':' _ :: rest =>
    if isPathWord word then afterWordPath? rest else none
  | .word word :: rest => if isPathWord word then some rest else none
  | _ => none
where
  /-- A word that may stand in such a path. -/
  isPathWord (word : String) : Bool :=
    !Token.reservedWords.contains word || ["super", "self", "Self", "crate"].contains word

/-- What follows the mark of a macro call at the head, if one stands there. -/
def afterMacroMark? (tokens : List Token) : Option (List Token) :=
  match afterWordPath? (if Token.startsWith "::" tokens then tokens.drop 2 else tokens) with
  | some (.mark '!' _ :: rest) => some rest
  | _ => Option.none

/-- Whether a macro call in braces stands here as a statement. -/
def startsBracedMacro (tokens : List Token) : Bool :=
  match afterMacroMark? tokens with
  | some rest =>
    let next := Token.afterFirst rest
    Token.startsGroup .brace rest && !Token.startsWith "?" next &&
      (!Token.startsWith "." next || Token.startsWith ".." next)
  | Option.none => false

/-- Whether a macro call that names what it declares stands here. -/
def startsNamedMacro (tokens : List Token) : Bool :=
  (afterMacroMark? tokens).any fun rest => Token.startsIdentifier rest ||
    Token.startsWord "try" rest

/-- A binding. -/
def readBinding : Reader (List Token) := do
  let lead := (← keyword "let") ++ (← inner.pattern false)
  let colon ← mark? ":"
  let type ← if colon.isEmpty then pure [] else inner.typeTokens true
  let equals ← mark? "="
  let value ← if equals.isEmpty then pure [] else inner.expressionTokens true
  let else_ ← if equals.isEmpty || value.getLast? == some (.closing .brace) then pure [] else
    keyword? "else"
  let otherwise ← if else_.isEmpty then pure [] else inner.block
  let semicolon ← mark ";"
  return lead ++ colon ++ type ++ equals ++ value ++ else_ ++ otherwise ++ semicolon

/-- A statement, and whether a semicolon is missing unless it stands last. -/
def readStatement : Reader (List Token × Bool) := do
  let attributes ← inner.attributeTokens
  let tokens := (← cursor).tokens
  if startsBracedMacro tokens then
    let path ← readWordPath
    return (attributes ++ path.tokens ++ (← mark "!") ++ (← anyGroup) ++ (← mark? ";"), false)
  if Token.startsWord "let" tokens then return (attributes ++ (← inner.readBinding), false)
  if startsDeclaration tokens || startsNamedMacro tokens then
    return (attributes ++ (← inner.declaration), false)
  let expression ← inner.statement
  let semicolon ← mark? ";"
  let complete := !semicolon.isEmpty || expression.form matches .block | .bracedMacro
  return (attributes ++ expression.tokens ++ semicolon, !complete)

/-- Statements up to the end of a block, at most `bound` of them. -/
def statementsAtMost : (bound : Nat) → Reader (List Token)
  | 0 => return []
  | bound + 1 => do
    if ← atEnd then return []
    if ← sees (Token.startsWith ";") then return (← mark ";") ++ (← statementsAtMost bound)
    let (first, incomplete) ← inner.readStatement
    if incomplete && !(← atEnd) then throw .semicolonMissing
    return first ++ (← statementsAtMost bound)

/-- A block. -/
def readBlock : Reader (List Token) :=
  group .brace do
    let attributes ← inner.innerAttributeTokens
    return attributes ++ (← inner.statementsAtMost ((← cursor).tokens.length + 1))

end RecordSchema.Phrases
