import RecordSchema.Source.Literal
import RecordSchema.Source.Syntax.Type

/-!
# Patterns

A pattern is a name, a literal, a path with or without parts in brackets, a range, or a group of
patterns.  Alternatives stand between `|`.
-/

namespace RecordSchema.Phrases

open Reader

variable (inner : Phrases)

/-! ## Ranges -/

/-- The marks of a range.  Three points are an old way to write `..=`. -/
def rangeMark : Reader (List Token) := do
  if ← sees (Token.startsWith "..=") then mark "..="
  else if ← sees (Token.startsWith "...") then
    let _ ← mark "..."
    return Token.operator "..="
  else mark ".."

/-- Whether the end of a range is left out here. -/
def startsAfterRange (tokens : List Token) : Bool :=
  tokens.isEmpty || Token.startsWithAny ["|", "=", ",", ";"] tokens ||
    Token.startsWith ":" tokens && !Token.startsWith "::" tokens || Token.startsWord "if" tokens

/-- An end of a range: a literal, a path or a constant block. -/
def rangeEnd : Reader (List Token) := do
  let tokens := (← cursor).tokens
  if startsAfterRange tokens then return []
  if Token.startsLiteral tokens then literal
  else if startsPath tokens then return (← inner.readQualifiedPath true).1.tokens
  else if Token.startsWord "const" tokens then return (← anyWord) ++ (← inner.block)
  else fail [.literal, .identifier, .mark "::", .mark "<", .keyword "self", .keyword "Self",
    .keyword "super", .keyword "crate", .keyword "const"]

/-- The marks of a range and its end, which may be left out after `..` only. -/
def patternRangeTail : Reader (List Token) := do
  let marks ← rangeMark
  let upper ← inner.rangeEnd
  if upper.isEmpty && marks.length = 3 then fail [.rangeEnd] else return marks ++ upper

/-- A literal or a constant block, or a range that begins with one. -/
def literalPattern : Reader (List Token) := do
  let first ← inner.rangeEnd
  if ← sees (Token.startsWith "..") then return first ++ (← inner.patternRangeTail)
  else return first

/-! ## Patterns with parts -/

/-- A name with what modifies it and the pattern that it stands for. -/
def namePattern : Reader (List Token) := do
  let reference ← keyword? "ref"
  let mutability ← keyword? "mut"
  let name ← if ← sees (Token.startsWord "self") then anyWord else identifier
  let at_ ← mark? "@"
  let part ← if at_.isEmpty then pure [] else inner.pattern false
  return reference ++ mutability ++ name ++ at_ ++ part

/-- The index that a number without a suffix writes, in decimal digits. -/
def index? (written : String) : Option String :=
  let (base, digits) := match written.toList with
    | '0' :: 'x' :: rest => (16, rest)
    | '0' :: 'o' :: rest => (8, rest)
    | '0' :: 'b' :: rest => (2, rest)
    | cs => (10, cs)
  let digits := digits.filter (· ≠ '_')
  if digits.isEmpty then none
  else
    toString <$> digits.foldlM (fun value c => do
      let digit ← Literal.hexDigit? c
      if digit < base then some (base * value + digit) else none) 0

/-- The name or the index of a part. -/
def readMember : Reader (List Token) := do
  match (← cursor).tokens with
  | .literal written :: _ =>
    match index? written with
    | some index => do
      let _ ← take 1
      return [.literal index]
    | none => fail [.identifierOrIndex]
  | tokens => if Token.startsIdentifier tokens then take 1 else fail [.identifierOrIndex]

/-- A part of a structure pattern. -/
def fieldPattern : Reader (List Token) := do
  let attributes ← inner.attributeTokens
  if ← sees (Token.startsWith "..") then return attributes ++ (← mark "..")
  let boxed ← keyword? "box"
  let reference ← keyword? "ref"
  let mutability ← keyword? "mut"
  let modified := boxed ++ reference ++ mutability
  let indexed := !(← sees Token.startsIdentifier)
  let name ← if modified.isEmpty then readMember else identifier
  if modified.isEmpty && (indexed || (← sees (Token.startsWith ":"))) then
    let colon ← mark ":"
    return attributes ++ name ++ colon ++ (← inner.pattern true)
  return attributes ++ modified ++ name

/-- A pattern that begins with a path. -/
def pathPattern : Reader (List Token) := do
  let (path, qualified) ← inner.readQualifiedPath true
  if !qualified && path.plain && (← sees startsMacroMark) then
    return path.tokens ++ (← mark "!") ++ (← anyGroup)
  if ← sees (Token.startsGroup .brace) then
    return path.tokens ++ (← group .brace (commaList inner.fieldPattern))
  if ← sees (Token.startsGroup .parenthesis) then
    return path.tokens ++ (← group .parenthesis (commaList (inner.pattern true)))
  if ← sees (Token.startsWith "..") then
    return path.tokens ++ (← inner.patternRangeTail)
  return path.tokens

/-- Whether a path stands here that is more than a name. -/
def startsPathPattern (tokens : List Token) : Bool :=
  let next := tokens.drop 1
  Token.startsIdentifier tokens &&
      (Token.startsWithAny ["::", "!", ".."] next || Token.startsGroup .brace next ||
        Token.startsGroup .parenthesis next) ||
    Token.startsWord "self" tokens && Token.startsWith "::" next ||
    Token.startsWithAny ["::", "<"] tokens ||
    Token.startsWordOf ["Self", "super", "crate"] tokens

/-- A pattern without alternatives. -/
def readSinglePattern : Reader (List Token) := do
  let tokens := (← cursor).tokens
  if startsPathPattern tokens then inner.pathPattern
  else if Token.startsWord "_" tokens then anyWord
  else if Token.startsWord "box" tokens then return (← anyWord) ++ (← inner.pattern false)
  else if Token.startsWith "-" tokens || Token.startsLiteral tokens ||
      Token.startsWord "const" tokens then
    inner.literalPattern
  else if Token.startsIdentifier tokens || Token.startsWordOf ["ref", "mut", "self"] tokens then
    inner.namePattern
  else if Token.startsWith "&" tokens then
    return (← mark "&") ++ (← keyword? "mut") ++ (← inner.pattern false)
  else if Token.startsGroup .parenthesis tokens then
    group .parenthesis (commaList (inner.pattern true))
  else if Token.startsGroup .bracket tokens then
    group .bracket (commaList (inner.pattern true))
  else if Token.startsWith ".." tokens && !Token.startsWith "..." tokens then inner.patternRangeTail
  else fail [.identifier, .mark "::", .mark "<", .keyword "_", .literal, .keyword "ref",
    .keyword "mut", .mark "&", .group .parenthesis, .group .bracket, .mark "..",
    .keyword "const"]

/-- Whether another alternative follows. -/
def startsAlternative (tokens : List Token) : Bool :=
  Token.startsWith "|" tokens && !Token.startsWithAny ["||", "|="] tokens

/-- A pattern, with alternatives if `alternatives`. -/
def readPattern (alternatives : Bool) : Reader (List Token) := do
  if !alternatives then return (← inner.readSinglePattern)
  let leading ← mark? "|"
  let first ← inner.readSinglePattern
  let others ← whileSees startsAlternative do return (← mark "|") ++ (← inner.readSinglePattern)
  return leading ++ first ++ others

end RecordSchema.Phrases
