import RecordSchema.Source.Syntax.Reader

/-!
# Phrases

The phrases of the source are paths, types, bounds, patterns, expressions, blocks and declarations,
and each kind may stand inside the others.  A reader of one kind is therefore given readers of all
kinds, a value of `Phrases`, for what stands inside.  `Phrases.empty` reads nothing at all; the
readers for a text that nests no deeper than `n` are reached from it in `n` steps.

A phrase that was read is the tokens that write it, with what the phrase around it has to know.
-/

namespace RecordSchema

/-- A path: what precedes the arguments of the last segment, and those arguments. -/
structure PathPhrase where
  /-- The tokens up to the word of the last segment. -/
  stem : List Token
  /-- The arguments of the last segment with their brackets. -/
  arguments : List Token := []
  /-- The last segment has no arguments, or brackets with nothing in them. -/
  bare : Bool := true
  /-- The path begins with `::`. -/
  absolute : Bool := false
  segments : Nat := 1
  /-- No segment has brackets for arguments. -/
  plain : Bool := true

namespace PathPhrase

def tokens (path : PathPhrase) : List Token := path.stem ++ path.arguments

/-- A path with one more segment. -/
def push (path : PathPhrase) (colons : List Token) (segment : PathPhrase) : PathPhrase where
  stem := path.tokens ++ colons ++ segment.stem
  arguments := segment.arguments
  bare := segment.bare
  absolute := path.absolute
  segments := path.segments + segment.segments
  plain := path.plain && segment.plain

/-- A path whose last segment has parameters and a result like a function. -/
def withSignature (path : PathPhrase) (signature : List Token) : PathPhrase :=
  { path with arguments := signature, bare := false, plain := false }

/-- Whether a path is the name of something associated: one segment, with arguments in angle
brackets at most. -/
def isName (path : PathPhrase) : Bool :=
  !path.absolute && path.segments == 1 && !Token.startsGroup .parenthesis path.arguments

end PathPhrase

/-- What the phrase around a type has to know. -/
inductive TypeForm where
  /-- A path that names something associated. -/
  | name
  /-- Another path that does not begin with a type in angle brackets. -/
  | path
  /-- A single bound that is no path. -/
  | soleBound
  /-- A type in parentheses. -/
  | parenthesized
  | other
  deriving DecidableEq, Repr

structure TypePhrase where
  tokens : List Token
  form : TypeForm := .other

/-- A bound on a type. -/
structure BoundPhrase where
  tokens : List Token
  /-- Neither a lifetime nor a list of captured parameters. -/
  isTrait : Bool

/-- What the phrase around an expression has to know. -/
inductive ExpressionForm where
  /-- It ends in a block of its own and needs no semicolon after it. -/
  | block
  /-- A macro whose arguments stand in braces. -/
  | bracedMacro
  /-- A range, which takes no further operator. -/
  | range
  | other
  deriving DecidableEq, Repr

structure ExpressionPhrase where
  tokens : List Token
  form : ExpressionForm := .other

/-- Readers of the phrases that stand inside others. -/
structure Phrases where
  /-- A type.  Bounds may be added to it by `+` only if `plus`. -/
  type : (plus : Bool) → Reader TypePhrase
  /-- A bound.  Captured parameters and constant traits may be refused. -/
  bound : (captures constant : Bool) → Reader BoundPhrase
  /-- A pattern, with alternatives if `alternatives`. -/
  pattern : (alternatives : Bool) → Reader (List Token)
  /-- An expression.  A path before a brace begins a structure only if `structures`. -/
  expression : (structures : Bool) → Reader ExpressionPhrase
  /-- An expression without binary operators. -/
  operand : (structures : Bool) → Reader ExpressionPhrase
  /-- An expression that ends with its block if it begins with one. -/
  statement : Reader ExpressionPhrase
  /-- Statements in braces. -/
  block : Reader (List Token)
  /-- A declaration without its attributes. -/
  declaration : Reader (List Token)

/-- Readers that read nothing. -/
def Phrases.empty : Phrases where
  type _ := throw .tooDeep
  bound _ _ := throw .tooDeep
  pattern _ := throw .tooDeep
  expression _ := throw .tooDeep
  operand _ := throw .tooDeep
  statement := throw .tooDeep
  block := throw .tooDeep
  declaration := throw .tooDeep

namespace Phrases

variable (inner : Phrases)

/-- The tokens of a type. -/
def typeTokens (plus : Bool) : Reader (List Token) := do return (← inner.type plus).tokens

/-- The tokens of an expression. -/
def expressionTokens (structures : Bool) : Reader (List Token) := do
  return (← inner.expression structures).tokens

end Phrases

end RecordSchema
