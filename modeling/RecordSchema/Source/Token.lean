import RecordSchema.Text.Identifier
import RecordSchema.Text.Quoted

/-!
# Tokens of record declarations

A declaration is a sequence of tokens: words, lifetimes, string literals, other literals,
punctuation marks one by one, and the brackets of groups.  A punctuation mark knows whether another
one follows it at once, since only then may the two form one operator such as `::`.

`Token.spaced` writes tokens with a blank between two, and `Token.compact` takes the blanks out
again wherever they do not stand in quotes.
-/

namespace RecordSchema

/-- The brackets that make groups. -/
inductive Delimiter where
  | parenthesis
  | bracket
  | brace
  deriving DecidableEq, Repr

def Delimiter.opening : Delimiter → String
  | .parenthesis => "("
  | .bracket => "["
  | .brace => "\x7b"

def Delimiter.closing : Delimiter → String
  | .parenthesis => ")"
  | .bracket => "]"
  | .brace => "\x7d"

/-- A string literal: how it is written, and the text it means. -/
structure StringLiteral where
  written : String
  value : String
  deriving DecidableEq, Repr

/-- A token of a declaration. -/
inductive Token where
  /-- An identifier or keyword.  A raw identifier keeps its `r#`. -/
  | word (text : String)
  | lifetime (text : String)
  | string (content : StringLiteral)
  /-- A literal that is no string: a number, a character, a byte string. -/
  | literal (written : String)
  /-- A punctuation mark, and whether another one follows it at once. -/
  | mark (character : Char) (joint : Bool)
  | opening (delimiter : Delimiter)
  | closing (delimiter : Delimiter)
  deriving DecidableEq, Repr

/-- A character that separates words of text and nothing else. -/
def isSpace (c : Char) : Bool :=
  c == ' ' || ('\t' ≤ c && c ≤ '\r') || c == '\u0085' || c == '\u00a0' || c == '\u1680' ||
    ('\u2000' ≤ c && c ≤ '\u200a') || c == '\u2028' || c == '\u2029' || c == '\u202f' ||
    c == '\u205f' || c == '\u3000'

namespace Token

/-- A token as it is written. -/
def text : Token → String
  | .word text | .lifetime text => text
  | .string content => content.written
  | .literal written => written
  | .mark character _ => character.toString
  | .opening delimiter => delimiter.opening
  | .closing delimiter => delimiter.closing

/-- The marks of one operator. -/
def operator (text : String) : List Token := marks text.toList
where
  /-- Marks that follow each other at once. -/
  marks : List Char → List Token
    | [] => []
    | [c] => [.mark c false]
    | c :: rest => .mark c true :: marks rest

/-- The literal of a text.  A null character is written in full where an octal digit follows it. -/
def ofText (value : String) : Token :=
  .string ⟨"\"" ++ String.join (escapes value.toList) ++ "\"", value⟩
where
  /-- The escapes of the characters of a text. -/
  escapes : List Char → List String
    | [] => []
    | '\x00' :: c :: rest =>
      (if '0' ≤ c && c ≤ '7' then "\\x00" else "\\0") :: escapes (c :: rest)
    | c :: rest => Quoted.escape c :: escapes rest

/-! ## Writing -/

/-- What stands between a token and the one before it. -/
inductive Gap where
  /-- Nothing: the token before opens a group, or is a mark that this one continues. -/
  | none
  /-- A blank. -/
  | blank
  deriving DecidableEq, Repr

def Gap.text : Gap → String
  | .none => ""
  | .blank => " "

/-- The texts of tokens with their gaps.  A brace keeps a blank on its inner side, and only one if
nothing stands inside. -/
def spacedTexts : Gap → List Token → List String
  | _, [] => []
  | gap, .opening .brace :: .closing .brace :: rest =>
    (gap.text ++ "\x7b \x7d") :: spacedTexts .blank rest
  | gap, .opening delimiter :: rest =>
    (gap.text ++ delimiter.opening ++ if delimiter = .brace then " " else "") ::
      spacedTexts .none rest
  | _, .closing delimiter :: rest =>
    ((if delimiter = .brace then " " else "") ++ delimiter.closing) :: spacedTexts .blank rest
  | gap, .mark character joint :: rest =>
    (gap.text ++ character.toString) :: spacedTexts (if joint then .none else .blank) rest
  | gap, token :: rest => (gap.text ++ token.text) :: spacedTexts .blank rest

/-- Tokens written with blanks between them. -/
def spaced (tokens : List Token) : String := String.join (spacedTexts .none tokens)

/-- A text without the blanks that do not stand between double quotes, where a backslash takes the
character after it along. -/
def withoutSpaces : (inQuotes : Bool) → List Char → List Char
  | _, [] => []
  | true, '\\' :: c :: rest => '\\' :: c :: withoutSpaces true rest
  | inQuotes, '"' :: rest => '"' :: withoutSpaces (!inQuotes) rest
  | true, c :: rest => c :: withoutSpaces true rest
  | false, c :: rest =>
    if isSpace c then withoutSpaces false rest else c :: withoutSpaces false rest

/-- Tokens written without blanks between them. -/
def compact (tokens : List Token) : String :=
  String.ofList (withoutSpaces false (spaced tokens).toList)

end Token

end RecordSchema
