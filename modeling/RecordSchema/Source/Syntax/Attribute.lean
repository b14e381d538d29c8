import RecordSchema.Source.Syntax.Path

/-!
# Attributes

An attribute has a path for its name and stands bare, with a value, or with arguments in a group.
It is written between `#[` and `]`, or between `#![` and `]` where it stands inside what it is
about.
-/

namespace RecordSchema

/-- What follows the name of an attribute. -/
inductive AttributeBody where
  | bare
  | value (tokens : List Token)
  | arguments (delimiter : Delimiter) (tokens : List Token)
  deriving DecidableEq, Repr

structure Attribute where
  path : List Token
  body : AttributeBody
  deriving DecidableEq, Repr

namespace Attribute

/-- The name, if it is one word. -/
def name? (a : Attribute) : Option String :=
  match a.path with
  | [.word word] => some word
  | _ => none

/-- An attribute with its brackets. -/
def tokens (a : Attribute) : List Token :=
  Token.operator "#" ++ .opening .bracket :: a.path ++ body ++ [.closing .bracket]
where
  /-- What is written after the name. -/
  body : List Token :=
    match a.body with
    | .bare => []
    | .value tokens => Token.operator "=" ++ tokens
    | .arguments delimiter tokens => .opening delimiter :: tokens ++ [.closing delimiter]

end Attribute

namespace Phrases

open Reader

variable (inner : Phrases)

/-- What stands between the brackets of an attribute. -/
def readAttributeInside : Reader Attribute := do
  let path ← if ← sees (Token.startsWord "unsafe") then anyWord else
    PathPhrase.tokens <$> readWordPath
  match (← cursor).tokens with
  | .opening delimiter :: _ =>
    return ⟨path, .arguments delimiter (← enter delimiter takeAll)⟩
  | tokens =>
    if Token.startsWith "=" tokens then
      let _ ← mark "="
      return ⟨path, .value (← inner.expressionTokens true)⟩
    else return ⟨path, .bare⟩

/-- The attributes that stand here, at most `bound` of them. -/
def attributesAtMost : (bound : Nat) → Reader (List Attribute)
  | 0 => return []
  | bound + 1 => do
    if ← sees (Token.startsWith "#") then
      let _ ← mark "#"
      let first ← enter .bracket inner.readAttributeInside
      return first :: (← attributesAtMost bound)
    else return []

/-- The attributes that stand here. -/
def readAttributes : Reader (List Attribute) := do
  inner.attributesAtMost ((← cursor).tokens.length + 1)

/-- The tokens of the attributes that stand here. -/
def attributeTokens : Reader (List Token) := do
  return (← inner.readAttributes).flatMap Attribute.tokens

/-- The tokens of the attributes that stand at the beginning of what they are about. -/
def innerAttributeTokens : Reader (List Token) :=
  whileSees (fun tokens => Token.startsWith "#" tokens && Token.startsWith "!" (tokens.drop 1)) do
    let marks := (← mark "#") ++ (← mark "!")
    let found ← enter .bracket inner.readAttributeInside
    return marks ++ found.tokens.drop 1

end Phrases

end RecordSchema
