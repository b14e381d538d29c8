import RecordSchema.Source.Syntax.Pattern

/-!
# Expressions

An expression is a row of operands with binary operators between them.  How tightly the operators
bind does not show in what is written, so the row is read from left to right, in three layers that
differ in what they may hold: at most one comparison stands between two logical operators, at most
one range between two assignments, and an assignment takes all that follows.

An operand has prefix operators, an atom, and what is applied to it: calls, members, indices.
-/

namespace RecordSchema.Phrases

open Reader

variable (inner : Phrases)

/-! ## Operators -/

def assignments : List String :=
  ["<<=", ">>=", "+=", "-=", "*=", "/=", "%=", "^=", "&=", "|="]

def logicalOperators : List String := ["&&", "||"]

def comparisons : List String := ["==", "<=", "!=", ">=", "<", ">"]

/-- The operators that bind more tightly than comparisons. -/
def tightOperators : List String := ["<<", ">>", "+", "-", "*", "/", "%", "^", "&", "|"]

/-- The binary operator at the head, if there is one.  Of two that begin alike the longer counts. -/
def operatorAt? (tokens : List Token) : Option String :=
  (assignments ++ logicalOperators ++ ["<<", ">>"] ++ comparisons ++ tightOperators).find? fun o =>
    Token.startsWith o tokens

/-- Whether an assignment stands here. -/
def startsAssignment (tokens : List Token) : Bool :=
  (operatorAt? tokens).any assignments.contains ||
    Token.startsWith "=" tokens && !Token.startsWithAny ["==", "=>"] tokens

/-- What follows a cast that cannot be applied to one. -/
def castFollower? (tokens : List Token) : Option String :=
  if Token.startsWith "." tokens && !Token.startsWith ".." tokens then
    let next := tokens.drop 1
    if Token.startsWord "await" next then some "`.await`"
    else if Token.startsIdentifier next && (Token.startsGroup .parenthesis (next.drop 1) ||
        Token.startsWith "::" (next.drop 1)) then
      some "a method call"
    else some "a field access"
  else if Token.startsWith "?" tokens then some "`?`"
  else if Token.startsGroup .bracket tokens then some "indexing"
  else if Token.startsGroup .parenthesis tokens then some "a function call"
  else none

/-- Further operands after `found`, at most `bound` of them.  Logical operators are taken only if
`logical`; `compared` if a comparison was read since the last of them. -/
def operandsAfter (structures logical compared : Bool) (found : ExpressionPhrase) :
    (bound : Nat) → Reader ExpressionPhrase
  | 0 => return found
  | bound + 1 => do
    let tokens := (← cursor).tokens
    if Token.startsWord "as" tokens then
      let as ← anyWord
      let type ← inner.typeTokens false
      if let some follower := castFollower? (← cursor).tokens then throw (.castFollowedBy follower)
      return ← operandsAfter structures logical compared
        { tokens := found.tokens ++ as ++ type } bound
    let some operator := operatorAt? tokens | return found
    let compares := comparisons.contains operator
    let isLogical := logicalOperators.contains operator
    if assignments.contains operator || isLogical && !logical then return found
    if compares && compared then throw .comparisonChained
    let written ← mark operator
    let next ← inner.operand structures
    let together := found.tokens ++ written ++ next.tokens
    if next.form == .range then return { tokens := together, form := .range }
    operandsAfter structures logical (compares || compared && !isLogical) { tokens := together }
      bound

/-- An operand and the further ones that stand with it between two ranges or assignments. -/
def readOperands (structures logical : Bool) : Reader ExpressionPhrase := do
  let first ← inner.operand structures
  if first.form == .range then return first
  inner.operandsAfter structures logical false first ((← cursor).tokens.length + 1)

/-- Whether the end of a range is left out here. -/
def rangeEndsHere (structures : Bool) (tokens : List Token) : Bool :=
  tokens.isEmpty ||
    Token.startsWithAny [",", ";", "?", "=>", "=", "+", "/", "%", "^", ">", "<=", "!=", "-=", "*=",
      "&=", "|=", "<<="] tokens ||
    Token.startsWith "." tokens && !Token.startsWith ".." tokens ||
    !structures && Token.startsGroup .brace tokens || Token.startsWord "as" tokens

/-- The marks of a range and its end, if it has one. -/
def rangeTail (structures : Bool) : Reader (List Token) := do
  if ← sees (Token.startsWith "..=") then
    return (← mark "..=") ++ (← inner.readOperands structures true).tokens
  if ← sees (Token.startsWith "...") then fail [.mark "..", .mark "..="]
  let marks ← mark ".."
  if ← sees (rangeEndsHere structures) then return marks
  return marks ++ (← inner.readOperands structures true).tokens

/-- What follows the first operand of an expression. -/
def readAfterOperand (structures : Bool) (first : ExpressionPhrase) : Reader ExpressionPhrase := do
  if first.form == .range then return first
  let left ← inner.operandsAfter structures true false first ((← cursor).tokens.length + 1)
  if left.form == .range then return left
  if ← sees (Token.startsWith "..") then
    return { tokens := left.tokens ++ (← inner.rangeTail structures), form := .range }
  if ← sees startsAssignment then
    let operator ← mark ((operatorAt? (← cursor).tokens).getD "=")
    return { tokens := left.tokens ++ operator ++ (← inner.expressionTokens structures) }
  return left

/-- An expression. -/
def readExpression (structures : Bool) : Reader ExpressionPhrase := do
  inner.readAfterOperand structures (← inner.operand structures)

/-! ## Groups -/

/-- Expressions with commas, to the end of a group. -/
def expressionList : Reader (List Token) := commaList (inner.expressionTokens true)

/-- An array: its elements, or one element and how often it is repeated. -/
def arrayInside : Reader (List Token) := do
  if ← atEnd then return []
  let first ← inner.expressionTokens true
  if ← atEnd then return first
  if ← sees (Token.startsWith ";") then
    return first ++ (← mark ";") ++ (← inner.expressionTokens true)
  if ← sees (Token.startsWith ",") then
    return first ++ (← mark ",") ++ (← inner.expressionList)
  fail [.mark ",", .mark ";"]

/-- The parts of a structure with their values, at most `bound` of them; `..` gives the rest. -/
def structureInsideAtMost : (bound : Nat) → Reader (List Token)
  | 0 => return []
  | bound + 1 => do
    if ← atEnd then return []
    if ← sees (Token.startsWith "..") then
      let marks ← mark ".."
      if ← atEnd then return marks
      return marks ++ (← inner.expressionTokens true)
    let attributes ← inner.attributeTokens
    let indexed := !(← sees Token.startsIdentifier)
    let name ← readMember
    let value ← if indexed || (← sees (Token.startsWith ":")) then do
        pure ((← mark ":") ++ (← inner.expressionTokens true))
      else pure []
    let part := attributes ++ name ++ value
    if ← atEnd then return part
    let comma ← mark ","
    return part ++ comma ++ (← structureInsideAtMost bound)

/-! ## What is applied to an atom -/

/-- What follows the point before a member, with the arguments if the member is called. -/
def afterPoint : Reader (List Token) := do
  if ← sees (Token.startsWord "await") then return ← anyWord
  let named ← sees Token.startsIdentifier
  let name ← readMember
  let arguments ← if named && (← sees (Token.startsWith "::")) then inner.turbofish else pure []
  if named && (!arguments.isEmpty || (← sees (Token.startsGroup .parenthesis))) then
    return name ++ arguments ++ (← group .parenthesis inner.expressionList)
  return name

/-- A member of what is written before.  Two indices with a point between are read as one number,
and so are an index and the point after it. -/
def readMemberUse : Reader (List Token) := do
  let point ← mark "."
  match (← cursor).tokens with
  | .literal written :: _ =>
    let [first, second] := written.splitOn "." | return point ++ (← inner.afterPoint)
    let some first := index? first | return point ++ (← inner.afterPoint)
    let lead := point ++ .literal first :: Token.operator "."
    if second.isEmpty then
      let _ ← take 1
      return lead ++ (← inner.afterPoint)
    let some second := index? second | return point ++ (← inner.afterPoint)
    let _ ← take 1
    return lead ++ [.literal second]
  | _ => return point ++ (← inner.afterPoint)

/-- Whether something applied to what is written before stands here. -/
def startsTrailer (tokens : List Token) : Bool :=
  Token.startsGroup .parenthesis tokens || Token.startsGroup .bracket tokens ||
    Token.startsWith "?" tokens || Token.startsWith "." tokens && !Token.startsWith ".." tokens

/-- All that is applied to what is written before. -/
def readTrailers : Reader (List Token) :=
  whileSees startsTrailer do
    let tokens := (← cursor).tokens
    if Token.startsGroup .parenthesis tokens then group .parenthesis inner.expressionList
    else if Token.startsGroup .bracket tokens then
      group .bracket (inner.expressionTokens true)
    else if Token.startsWith "?" tokens then mark "?"
    else inner.readMemberUse

/-! ## Atoms -/

/-- Whether an expression begins here. -/
def startsExpression (tokens : List Token) : Bool :=
  Token.startsAnyWord tokens && !Token.startsWord "as" tokens ||
    (tokens matches .opening _ :: _) || Token.startsLiteral tokens ||
    Token.startsWith "!" tokens && !Token.startsWith "!=" tokens ||
    Token.startsWith "-" tokens && !Token.startsWithAny ["-=", "->"] tokens ||
    Token.startsWith "*" tokens && !Token.startsWith "*=" tokens ||
    Token.startsWith "|" tokens && !Token.startsWith "|=" tokens ||
    Token.startsWith "&" tokens && !Token.startsWith "&=" tokens ||
    Token.startsWithAny ["..", "::", "#"] tokens ||
    Token.startsWith "<" tokens && !Token.startsWithAny ["<=", "<<="] tokens ||
    Token.startsLifetime tokens

/-- Whether the lifetimes of a function value stand here. -/
def startsClosureBinder (tokens : List Token) : Bool :=
  Token.startsWord "for" tokens && Token.startsWith "<" (tokens.drop 1) &&
    (Token.startsLifetime (tokens.drop 2) || Token.startsWith ">" (tokens.drop 2))

/-- Whether a function value stands here. -/
def startsClosure (tokens : List Token) : Bool :=
  let next := tokens.drop 1
  Token.startsWith "|" tokens || Token.startsWordOf ["move", "static"] tokens ||
    startsClosureBinder tokens ||
    Token.startsWord "const" tokens && !Token.startsGroup .brace next ||
    Token.startsWord "async" tokens &&
      (Token.startsWith "|" next || Token.startsWord "move" next)

/-- A parameter of a function value. -/
def closureParam : Reader (List Token) := do
  let attributes ← inner.attributeTokens
  let pattern ← inner.pattern false
  if ← sees (Token.startsWith ":") then
    return attributes ++ pattern ++ (← mark ":") ++ (← inner.typeTokens true)
  return attributes ++ pattern

/-- A function value. -/
def readClosure (structures : Bool) : Reader (List Token) := do
  let binder ← inner.readBinder
  let words := (← keyword? "const") ++ (← keyword? "static") ++ (← keyword? "async") ++
    (← keyword? "move")
  let opening ← mark "|"
  let params ← commaListUntil (Token.startsWith "|") inner.closureParam
  let closing ← mark "|"
  let lead := binder ++ words ++ opening ++ params ++ closing
  if ← sees (Token.startsWith "->") then
    return lead ++ (← inner.readResult true).tokens ++ (← inner.block)
  return lead ++ (← inner.expressionTokens structures)

/-- A macro call, a structure or a path. -/
def pathExpression (structures : Bool) : Reader ExpressionPhrase := do
  let (path, qualified) ← inner.readQualifiedPath true
  if !qualified && path.plain && (← sees startsMacroMark) then
    let bang ← mark "!"
    let braced ← sees (Token.startsGroup .brace)
    return { tokens := path.tokens ++ bang ++ (← anyGroup)
             form := if braced then .bracedMacro else .other }
  if structures && (← sees (Token.startsGroup .brace)) then
    let parts ← group .brace do
      inner.structureInsideAtMost ((← cursor).tokens.length + 1)
    return { tokens := path.tokens ++ parts }
  return { tokens := path.tokens }

/-- The conditions and blocks of `if`, at most `bound` of them. -/
def conditionsAtMost : (bound : Nat) → Reader (List Token)
  | 0 => return []
  | bound + 1 => do
    let if_ ← keyword "if"
    let condition ← inner.expressionTokens false
    let then_ ← inner.block
    let else_ ← keyword? "else"
    let lead := if_ ++ condition ++ then_ ++ else_
    if else_.isEmpty then return lead
    if ← sees (Token.startsWord "if") then return lead ++ (← conditionsAtMost bound)
    if ← sees (Token.startsGroup .brace) then return lead ++ (← inner.block)
    fail [.keyword "if", .group .brace]

/-- A case of `match`. -/
def matchCase : Reader (List Token) := do
  let attributes ← inner.attributeTokens
  let pattern ← inner.pattern true
  let if_ ← keyword? "if"
  let guard ← if if_.isEmpty then pure [] else inner.expressionTokens true
  let arrow ← mark "=>"
  let body ← inner.statement
  let comma ← if body.form == .block || (← atEnd) then mark? "," else mark ","
  return attributes ++ pattern ++ if_ ++ guard ++ arrow ++ body.tokens ++ comma

/-- The inside of `match`. -/
def matchInside : Reader (List Token) := do
  return (← inner.innerAttributeTokens) ++
    (← whileSees (fun tokens => !tokens.isEmpty) inner.matchCase)

/-- A loop or a block with its words. -/
def blockExpression? : Reader (Option (List Token)) := do
  match (← cursor).tokens with
  | .opening .brace :: _ => return some (← inner.block)
  | .word "if" :: _ => return some (← inner.conditionsAtMost (← cursor).tokens.length)
  | .word "while" :: _ =>
    return some ((← anyWord) ++ (← inner.expressionTokens false) ++ (← inner.block))
  | .word "loop" :: _ => return some ((← anyWord) ++ (← inner.block))
  | .word "match" :: _ =>
    return some ((← anyWord) ++ (← inner.expressionTokens false) ++
      (← group .brace inner.matchInside))
  | .word "unsafe" :: _ => return some ((← anyWord) ++ (← inner.block))
  | .word "try" :: .opening .brace :: _ | .word "const" :: .opening .brace :: _ =>
    return some ((← anyWord) ++ (← inner.block))
  | .word "for" :: rest =>
    if startsClosureBinder (.word "for" :: rest) then return none
    return some ((← anyWord) ++ (← inner.pattern true) ++ (← keyword "in") ++
      (← inner.expressionTokens false) ++ (← inner.block))
  | _ => return none

/-- A loop or a block with a label. -/
def labeledExpression : Reader (List Token) := do
  let label := (← lifetime) ++ (← mark ":")
  if ← sees fun tokens => Token.startsWordOf ["while", "for", "loop"] tokens ||
      Token.startsGroup .brace tokens then
    return label ++ ((← inner.blockExpression?).getD [])
  fail [.loopOrBlock]

/-- A word with an expression that may be left out. -/
def jumpExpression (structures : Bool) : Reader (List Token) := do
  let word ← anyWord
  let label ← if Token.startsWord "break" word then lifetime? else pure []
  if ← sees fun tokens => startsExpression tokens &&
      (structures || !Token.startsGroup .brace tokens) then
    return word ++ label ++ (← inner.expressionTokens structures)
  return word ++ label

/-- The part of an operand to which all else is applied. -/
def readAtom (structures : Bool) : Reader ExpressionPhrase := do
  let tokens := (← cursor).tokens
  let next := tokens.drop 1
  if Token.startsLiteral tokens then return { tokens := ← literal }
  if Token.startsWord "async" tokens && (Token.startsGroup .brace next ||
      Token.startsWord "move" next && Token.startsGroup .brace (next.drop 1)) then
    return { tokens := (← anyWord) ++ (← keyword? "move") ++ (← inner.block) }
  if startsClosure tokens then return { tokens := ← inner.readClosure structures }
  if Token.startsWord "builtin" tokens && Token.startsWith "#" next then
    return { tokens := (← anyWord) ++ (← mark "#") ++ (← identifier) ++
               (← group .parenthesis takeAll) }
  if startsPath tokens ||
      Token.startsWord "try" tokens && Token.startsWithAny ["!", "::"] next then
    return ← inner.pathExpression structures
  if Token.startsGroup .parenthesis tokens then
    return { tokens := ← group .parenthesis inner.expressionList }
  if Token.startsWordOf ["break", "return", "yield"] tokens then
    return { tokens := ← inner.jumpExpression structures }
  if Token.startsWord "continue" tokens then
    return { tokens := (← anyWord) ++ (← lifetime?) }
  if Token.startsWord "become" tokens then
    return { tokens := (← anyWord) ++ (← inner.expressionTokens true) }
  if Token.startsGroup .bracket tokens then
    return { tokens := ← group .bracket inner.arrayInside }
  if Token.startsWord "let" tokens then
    return { tokens := (← anyWord) ++ (← inner.pattern true) ++ (← mark "=") ++
               (← inner.readOperands structures false).tokens }
  if let some found := ← inner.blockExpression? then return { tokens := found, form := .block }
  if Token.startsWith ".." tokens then
    return { tokens := ← inner.rangeTail structures, form := .range }
  if Token.startsWord "_" tokens then return { tokens := ← anyWord }
  if Token.startsLifetime tokens then
    return { tokens := ← inner.labeledExpression, form := .block }
  fail [.expression]

/-! ## Operands -/

/-- A reference, with what it gives access to. -/
def referenceMarks : Reader (List Token) := do
  let ampersand ← mark "&"
  let raw ← if ← sees fun tokens => Token.startsWord "raw" tokens &&
      Token.startsWordOf ["mut", "const"] (tokens.drop 1) then anyWord else pure []
  let mutability ← keyword? "mut"
  let const ← if !raw.isEmpty && mutability.isEmpty then keyword "const" else pure []
  return ampersand ++ raw ++ mutability ++ const

/-- An expression without binary operators. -/
def readOperand (structures : Bool) : Reader ExpressionPhrase := do
  let attributes ← inner.attributeTokens
  let tokens := (← cursor).tokens
  if Token.startsWith "&" tokens then
    let marks ← referenceMarks
    return { tokens := attributes ++ marks ++ (← inner.operand structures).tokens }
  if Token.startsWithAny ["*", "!", "-"] tokens then
    let sign ← take 1
    return { tokens := attributes ++ unspaced sign ++ (← inner.operand structures).tokens }
  let atom ← inner.readAtom structures
  if atom.form == .range then return { atom with tokens := attributes ++ atom.tokens }
  let trailers ← inner.readTrailers
  return { tokens := attributes ++ atom.tokens ++ trailers
           form := if trailers.isEmpty then atom.form else .other }
where
  /-- A mark that stands alone. -/
  unspaced : List Token → List Token
    | [.mark c _] => [.mark c false]
    | tokens => tokens

/-- An expression as a statement or as the body of a case: what begins with a block ends with it
unless a member of it or its failure is asked for. -/
def readStatementExpression : Reader ExpressionPhrase := do
  let attributes ← inner.attributeTokens
  let labeled ← sees Token.startsLifetime
  let found ← if labeled then some <$> inner.labeledExpression else inner.blockExpression?
  match found with
  | none =>
    let first ← inner.operand true
    inner.readAfterOperand true { first with tokens := attributes ++ first.tokens }
  | some block =>
    let lead := attributes ++ block
    if ← sees fun tokens => Token.startsWith "?" tokens ||
        Token.startsWith "." tokens && !Token.startsWith ".." tokens then
      let trailers ← inner.readTrailers
      return ← inner.readAfterOperand true { tokens := lead ++ trailers }
    return { tokens := lead, form := .block }

end RecordSchema.Phrases
