import RecordSchema.Source.Literal

/-!
# Reading tokens

`Token.lex` reads the tokens of a text.  Blanks and comments separate tokens and are dropped, but a
comment that documents what follows it (`///`, `/** */`) or what contains it (`//!`, `/*! */`)
stands for an attribute with its text.
-/

namespace RecordSchema.Token

/-- A character that separates tokens. -/
def isBlank (c : Char) : Bool := isSpace c || c == '\u200e' || c == '\u200f'

/-! ## Comments -/

/-- The inside of a block comment, `depth` more of which are open in it, and what follows. -/
def blockComment : (depth : Nat) → List Char → Option (List Char × List Char)
  | _, [] => none
  | depth, '/' :: '*' :: rest => nested '/' '*' (blockComment (depth + 1) rest)
  | 0, '*' :: '/' :: rest => some ([], rest)
  | depth + 1, '*' :: '/' :: rest => nested '*' '/' (blockComment depth rest)
  | depth, c :: rest => (blockComment depth rest).map fun (inside, after) => (c :: inside, after)
where
  /-- Put the two characters of a bracket before the inside of a comment. -/
  nested (a b : Char) (read : Option (List Char × List Char)) : Option (List Char × List Char) :=
    read.map fun (inside, after) => (a :: b :: inside, after)

/-- A line without its end, and what follows from the line feed on. -/
def line : List Char → List Char × List Char
  | [] => ([], [])
  | '\n' :: rest | '\r' :: '\n' :: rest => ([], '\n' :: rest)
  | c :: rest =>
    let (before, after) := line rest
    (c :: before, after)

/-- The documentation that a comment gives, none if it holds a carriage return that is not part of
a line end. -/
def documentation (inner : Bool) (content : List Char) : Option (List Token) :=
  if hasLoneReturn content then none
  else
    some (.mark '#' false :: (if inner then [.mark '!' false] else []) ++
      [.opening .bracket, .word "doc", .mark '=' false, ofText (String.ofList content),
        .closing .bracket])
where
  /-- Whether a carriage return stands anywhere but before a line feed. -/
  hasLoneReturn : List Char → Bool
    | '\r' :: '\n' :: rest => hasLoneReturn rest
    | '\r' :: _ => true
    | _ :: rest => hasLoneReturn rest
    | [] => false

/-- The tokens for a comment that begins with `//`, and what follows it. -/
def lineComment (cs : List Char) : Option (List Token × List Char) :=
  match cs with
  | '/' :: '/' :: _ => some ([], (line cs).2)
  | '/' :: content => documented false (line content)
  | '!' :: content => documented true (line content)
  | _ => some ([], (line cs).2)
where
  /-- The tokens of a comment that is documentation. -/
  documented (inner : Bool) : List Char × List Char → Option (List Token × List Char)
    | (content, rest) => (documentation inner content).map fun tokens => (tokens, rest)

/-- The tokens for a comment that begins with `/*`, and what follows it. -/
def commentBetween (cs : List Char) : Option (List Token × List Char) := do
  let (inside, rest) ← blockComment 0 cs
  match cs with
  | '*' :: '/' :: _ | '*' :: '*' :: _ => return ([], rest)
  | '*' :: _ => return (← documentation false (inside.drop 1), rest)
  | '!' :: _ => return (← documentation true (inside.drop 1), rest)
  | _ => return ([], rest)

/-! ## Words, lifetimes and marks -/

/-- The words that cannot be raw identifiers. -/
def neverRaw : List String := ["_", "self", "Self", "super", "crate"]

/-- The identifier at the head of a text, raw or not, and what follows it. -/
def identifier (cs : List Char) : Option (String × List Char) :=
  let (lead, name) := match cs with
    | 'r' :: '#' :: rest => ("r#", rest)
    | _ => ("", cs)
  let (run, rest) := Literal.identifierRun name
  let word := String.ofList run
  if run.head?.any isIdentifierStart && !(lead == "r#" && neverRaw.contains word) then
    some (lead ++ word, rest)
  else none

/-- The beginnings of literals, with which no identifier begins. -/
def literalLeads : List String :=
  ["r\"", "r#\"", "r##", "b\"", "b'", "br\"", "br#", "c\"", "cr\"", "cr#"]

/-- The word at the head of a text, and what follows it. -/
def readWord (cs : List Char) : Option (Token × List Char) :=
  if literalLeads.any fun lead => lead.toList.isPrefixOf cs then none
  else (identifier cs).map fun (name, rest) => (.word name, rest)

/-- What follows an apostrophe, if it is a lifetime: no apostrophe and no `#` may follow at once,
for then it would be a literal or an identifier that cannot be raw.  Before a literal the apostrophe
is a mark. -/
def readLifetime (cs : List Char) : Option (Token × List Char) := do
  let (name, rest) ← identifier cs
  let token : Token × List Char :=
    if (Literal.read cs).isSome then (.mark '\'' true, cs) else (.lifetime ("'" ++ name), rest)
  match rest with
  | '\'' :: _ => none
  | '#' :: _ => if name.startsWith "r#" then some token else none
  | _ => some token

/-- Whether a punctuation mark stands at the head of a text.  The marks that begin a comment are
none. -/
def startsWithMark : List Char → Bool
  | '/' :: '/' :: _ | '/' :: '*' :: _ => false
  | c :: _ => "~!@#$%^&*-=+|;:,<.>/?'".toList.contains c
  | [] => false

def delimiterOpenedBy : Char → Option Delimiter
  | '(' => some .parenthesis
  | '[' => some .bracket
  | '\x7b' => some .brace
  | _ => none

def delimiterClosedBy : Char → Option Delimiter
  | ')' => some .parenthesis
  | ']' => some .bracket
  | '\x7d' => some .brace
  | _ => none

/-- What is written for a literal that could not be read. -/
def unreadable : String := "(/*ERROR*/)"

/-- The token at the head of a text that begins neither with a blank nor with a comment. -/
def leaf (cs : List Char) : Option (Token × List Char) :=
  if unreadable.toList.isPrefixOf cs then
    some (.literal unreadable, cs.drop unreadable.length)
  else match cs with
  | [] => none
  | c :: rest =>
    match delimiterOpenedBy c, delimiterClosedBy c with
    | some delimiter, _ => some (.opening delimiter, rest)
    | _, some delimiter => some (.closing delimiter, rest)
    | none, none =>
      (Literal.read cs).or
        (if c == '\'' then readLifetime rest
        else if startsWithMark cs then some (.mark c (startsWithMark rest), rest)
        else readWord cs)

/-! ## Texts -/

/-- The tokens that the head of a text stands for, none for a blank, and what follows. -/
def next : List Char → Option (List Token × List Char)
  | [] => none
  | '/' :: '/' :: rest => lineComment rest
  | '/' :: '*' :: rest => commentBetween rest
  | c :: rest =>
    if isBlank c then some ([], rest)
    else (leaf (c :: rest)).map fun (token, after) => ([token], after)

/-- The tokens of a text, none if it holds something that is no token. -/
def lexChars (cs : List Char) : Option (List Token) :=
  if cs.isEmpty then some []
  else
    match next cs with
    | none => none
    | some (tokens, rest) =>
      if rest.length < cs.length then (lexChars rest).map fun more => tokens ++ more
      else none
termination_by cs.length

/-- Whether every group is closed by its own bracket; `opened` are the groups still open. -/
def balanced : (opened : List Delimiter) → List Token → Bool
  | opened, [] => opened.isEmpty
  | opened, .opening delimiter :: rest => balanced (delimiter :: opened) rest
  | delimiter :: opened, .closing other :: rest => delimiter == other && balanced opened rest
  | [], .closing _ :: _ => false
  | opened, _ :: rest => balanced opened rest

/-- A text without the byte order mark at its beginning. -/
def withoutOrderMark : List Char → List Char
  | '\ufeff' :: rest => rest
  | cs => cs

/-- Read the tokens of a text, whose groups have to be balanced. -/
def lex (text : String) : Option (List Token) :=
  (lexChars (withoutOrderMark text.toList)).filter (balanced [])

end RecordSchema.Token
