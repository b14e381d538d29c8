import RecordSchema.Source.Token

/-!
# Errors in the syntax of declarations

A reader that cannot go on says what it expected, and whether it stood at the end of what it read.
`SyntaxError.message` words the errors.
-/

namespace RecordSchema

/-- What was expected where something else stood. -/
inductive Expectation where
  /-- An operator. -/
  | mark (text : String)
  /-- One certain word. -/
  | keyword (text : String)
  | identifier
  /-- A word of any kind. -/
  | anyWord
  | identifierOrIndex
  | lifetime
  | literal
  | stringLiteral
  | group (delimiter : Delimiter)
  | anyGroup
  | expression
  | loopOrBlock
  | rangeEnd
  /-- A key of an attribute. -/
  | nestedAttribute
  deriving DecidableEq, Repr

/-- The wording of an expectation. -/
def Expectation.text : Expectation → String
  | .mark text | .keyword text => "`" ++ text ++ "`"
  | .identifier => "identifier"
  | .anyWord => "ident"
  | .identifierOrIndex => "identifier or integer"
  | .lifetime => "lifetime"
  | .literal => "literal"
  | .stringLiteral => "string literal"
  | .group .parenthesis => "parentheses"
  | .group .bracket => "square brackets"
  | .group .brace => "curly braces"
  | .anyGroup => "delimiter"
  | .expression => "an expression"
  | .loopOrBlock => "loop or block expression"
  | .rangeEnd => "range upper bound"
  | .nestedAttribute => "nested attribute"

/-- Why a text could not be read. -/
inductive SyntaxError where
  /-- One of several things was expected; `atEnd` if nothing follows at all. -/
  | expected (what : List Expectation) (atEnd : Bool)
  /-- A keyword stands for an identifier. -/
  | keyword (word : String)
  /-- Tokens were left over in a group, or at the end of all. -/
  | leftOver (scope : Option Delimiter)
  /-- A statement goes on without a semicolon. -/
  | semicolonMissing
  | comparisonChained
  /-- Something follows a cast that cannot be applied to one. -/
  | castFollowedBy (what : String)
  /-- Only lifetimes where a trait is needed. -/
  | traitMissing (wording : String)
  /-- Something has no place where it stands. -/
  | notAllowed (what : String)
  /-- An optional trait binds lifetimes. -/
  | boundOptional
  /-- The text goes deeper than its length allows. -/
  | tooDeep
  deriving DecidableEq, Repr

namespace SyntaxError

/-- The wording of a choice. -/
def choice : List Expectation → String
  | [] => "unexpected token"
  | [only] => "expected " ++ only.text
  | [first, second] => "expected " ++ first.text ++ " or " ++ second.text
  | many => "expected one of: " ++ ", ".intercalate (many.map Expectation.text)

/-- The wording of an error. -/
def message : SyntaxError → String
  | .expected what atEnd => (if atEnd then "unexpected end of input, " else "") ++ choice what
  | .keyword word => "expected identifier, found keyword `" ++ word ++ "`"
  | .leftOver none => "unexpected token"
  | .leftOver (some delimiter) => "unexpected token, expected `" ++ delimiter.closing ++ "`"
  | .semicolonMissing => "unexpected token, expected `;`"
  | .comparisonChained => "comparison operators cannot be chained"
  | .castFollowedBy what => "casts cannot be followed by " ++ what
  | .traitMissing wording => wording
  | .notAllowed what => what ++ " is not allowed here"
  | .boundOptional => "`for<...>` binder not allowed with `?` trait polarity modifier"
  | .tooDeep => "recursion limit reached"

end SyntaxError

end RecordSchema
