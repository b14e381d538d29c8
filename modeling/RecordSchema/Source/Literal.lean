import RecordSchema.Source.Token

/-!
# Literals

String, byte string and character literals stand between quotes, with escapes, or raw between
fences of `#`; numbers begin with a digit.  An identifier written right after a literal belongs to
it.

Each reader here takes the characters from the literal on and returns what follows it; how the
literal is written is what lies between.  `Literal.read` finds the literal at the head of a text,
if there is one.
-/

namespace RecordSchema.Literal

/-! ## Digits -/

/-- The value of a hexadecimal digit. -/
def hexDigit? (c : Char) : Option Nat :=
  if '0' ≤ c && c ≤ '9' then some (c.toNat - '0'.toNat)
  else if 'a' ≤ c && c ≤ 'f' then some (c.toNat - 'a'.toNat + 10)
  else if 'A' ≤ c && c ≤ 'F' then some (c.toNat - 'A'.toNat + 10)
  else none

/-- The character of at most six hexadecimal digits, last digit first.  Underscores may separate
them. -/
def codePoint? (reversedDigits : List Char) : Option Char := do
  let digits := (reversedDigits.filter (· ≠ '_')).reverse
  if digits.isEmpty || digits.length > 6 then none
  let code ← digits.foldlM (fun value c => (16 * value + ·) <$> hexDigit? c) 0
  if code.isValidChar then some (Char.ofNat code) else none

/-! ## Quoted literals -/

/-- What literals between quotes may hold. -/
structure QuotedForm where
  /-- ASCII only, each character standing for a byte. -/
  ascii : Bool := false
  /-- The null character. -/
  null : Bool := true
  deriving DecidableEq, Repr

namespace QuotedForm

/-- Text. -/
def text : QuotedForm := {}

/-- Bytes. -/
def bytes : QuotedForm := { ascii := true }

/-- Text that a null character ends. -/
def terminated : QuotedForm := { null := false }

/-- Whether a character may stand for itself. -/
def admits (form : QuotedForm) (c : Char) : Bool :=
  (!form.ascii || c.toNat < 0x80) && (form.null || c ≠ '\x00')

/-- Whether two hexadecimal digits may give a character.  Text takes code points of ASCII only;
where bytes are meant, any byte will do. -/
def admitsByte (form : QuotedForm) (code : Nat) : Bool :=
  if form == text then code < 0x80 else form.null || code ≠ 0

/-- The escapes that are one character after the backslash. -/
def simpleEscape? (form : QuotedForm) : Char → Option Char
  | 'n' => some '\n'
  | 'r' => some '\r'
  | 't' => some '\t'
  | '\\' => some '\\'
  | '\'' => some '\''
  | '"' => some '"'
  | '0' => if form.null then some '\x00' else none
  | _ => none

end QuotedForm

/-- What the inside of a quoted literal is read as next. -/
inductive Inside where
  /-- Characters and escapes. -/
  | plain
  /-- The blanks after an escaped line break, which mean nothing. -/
  | skipping
  /-- The digits of a code point up to the closing brace, last digit first. -/
  | code (digits : List Char)

/-- Put a character before the text that the rest of a literal means. -/
def consValue (c : Char) (read : Option (List Char × List Char)) :
    Option (List Char × List Char) :=
  read.map fun (value, rest) => (c :: value, rest)

/-- The text that the inside of a quoted literal means, up to the closing quote, and what follows.
A carriage return stands only before a line feed, and the two mean a line feed. -/
def quotedValue (form : QuotedForm) : Inside → List Char → Option (List Char × List Char)
  | _, [] => none
  | .code digits, c :: rest =>
    if c == '\x7d' then
      match codePoint? digits with
      | some c => if form.admits c then consValue c (quotedValue form .plain rest) else none
      | none => none
    else if (hexDigit? c).isSome || (c == '_' && !digits.isEmpty) then
      quotedValue form (.code (c :: digits)) rest
    else none
  | _, '"' :: rest => some ([], rest)
  | _, '\\' :: 'x' :: high :: low :: rest =>
    match hexDigit? high, hexDigit? low with
    | some h, some l =>
      if form.admitsByte (16 * h + l) then
        consValue (Char.ofNat (16 * h + l)) (quotedValue form .plain rest)
      else none
    | _, _ => none
  | _, '\\' :: 'u' :: '\x7b' :: rest =>
    if form.ascii then none else quotedValue form (.code []) rest
  | _, '\\' :: '\n' :: rest | _, '\\' :: '\r' :: '\n' :: rest => quotedValue form .skipping rest
  | _, '\\' :: c :: rest =>
    match form.simpleEscape? c with
    | some c => consValue c (quotedValue form .plain rest)
    | none => none
  | .skipping, ' ' :: rest | .skipping, '\t' :: rest | .skipping, '\n' :: rest
  | .skipping, '\r' :: '\n' :: rest => quotedValue form .skipping rest
  | _, '\r' :: '\n' :: rest => consValue '\n' (quotedValue form .plain rest)
  | _, '\r' :: _ => none
  | _, c :: rest =>
    if form.admits c then consValue c (quotedValue form .plain rest) else none

/-- What follows the character of a character literal and its closing quote. -/
def afterCharacter (form : QuotedForm) : List Char → Option (List Char)
  | '\\' :: 'x' :: high :: low :: '\'' :: rest => do
    let code := 16 * (← hexDigit? high) + (← hexDigit? low)
    if form.admitsByte code then some rest else none
  | '\\' :: 'u' :: '\x7b' :: rest => do
    if form.ascii then none
    let '\x7d' :: '\'' :: after := rest.dropWhile (· ≠ '\x7d') | none
    let digits := rest.takeWhile (· ≠ '\x7d')
    if digits.head? == some '_' then none
    let _ ← codePoint? digits.reverse
    some after
  | '\\' :: c :: '\'' :: rest => (form.simpleEscape? c).map fun _ => rest
  | '\\' :: _ => none
  | c :: '\'' :: rest => if form.admits c then some rest else none
  | _ => none

/-! ## Raw literals -/

/-- The most `#` that a fence may have. -/
def maxFence : Nat := 255

/-- The inside of a raw literal up to a quote followed by as many `#` as opened it, and what
follows. -/
def rawValue (form : QuotedForm) (hashes : Nat) : List Char → Option (List Char × List Char)
  | [] => none
  | '\r' :: '\n' :: rest => consValue '\r' (consValue '\n' (rawValue form hashes rest))
  | '\r' :: _ => none
  | c :: rest =>
    if c == '"' && (rest.take hashes) == List.replicate hashes '#' then
      some ([], rest.drop hashes)
    else if form.admits c then consValue c (rawValue form hashes rest) else none

/-- The inside of a raw literal from its fence on, and what follows. -/
def fencedValue (form : QuotedForm) (cs : List Char) : Option (List Char × List Char) :=
  let hashes := (cs.takeWhile (· == '#')).length
  match cs.drop hashes with
  | '"' :: inside => if hashes ≤ maxFence then rawValue form hashes inside else none
  | _ => none

/-! ## Numbers -/

/-- The identifier characters at the head of a text, and the rest. -/
def identifierRun (cs : List Char) : List Char × List Char :=
  (cs.takeWhile isIdentifierContinue, cs.dropWhile isIdentifierContinue)

/-- What follows the identifier that may be written right after a literal. -/
def afterSuffix : List Char → List Char
  | c :: rest => if isIdentifierStart c then (identifierRun (c :: rest)).2 else c :: rest
  | [] => []

/-- What follows a number, none if it runs into an identifier character. -/
def afterNumber (cs : List Char) : Option (List Char) :=
  let rest := afterSuffix cs
  if rest.head?.any isIdentifierContinue then none else some rest

/-- What follows the digits of an exponent, which may have a sign, none if it has no digit. -/
def afterExponent (cs : List Char) : Option (List Char) :=
  let cs := cs.dropWhile (· == '_')
  let cs := match cs with
    | '+' :: rest | '-' :: rest => rest
    | _ => cs
  let digits := cs.takeWhile fun c => c.isDigit || c == '_'
  if digits.any Char.isDigit then some (cs.drop digits.length) else none

/-- What follows a number with a point or an exponent.  No second point and no identifier may follow
the point. -/
def afterFraction (cs : List Char) : Option (List Char) :=
  let digit (c : Char) : Bool := c.isDigit || c == '_'
  match cs.dropWhile digit with
  | '.' :: rest =>
    if rest.head?.any fun c => c == '.' || isIdentifierStart c then none
    else
      match rest.dropWhile digit with
      | e :: exponent =>
        if e == 'e' || e == 'E' then (afterExponent exponent).or (some (e :: exponent))
        else some (e :: exponent)
      | [] => some []
  | e :: exponent => if e == 'e' || e == 'E' then afterExponent exponent else none
  | [] => none

/-- What follows the digits of a whole number, none if there is no digit or one that its base does
not have. -/
def afterWhole (cs : List Char) : Option (List Char) :=
  let (base, cs) := match cs with
    | '0' :: 'x' :: rest => (16, rest)
    | '0' :: 'o' :: rest => (8, rest)
    | '0' :: 'b' :: rest => (2, rest)
    | _ => (10, cs)
  let digit (c : Char) : Bool := c == '_' || c.isDigit || (hexDigit? c).any (· < base)
  let digits := cs.takeWhile digit
  if digits.all (fun c => c == '_' || (hexDigit? c).any (· < base)) && digits.any (· ≠ '_') then
    some (cs.drop digits.length)
  else none

/-- What follows a number. -/
def afterAnyNumber (cs : List Char) : Option (List Char) :=
  ((afterFraction cs).bind afterNumber).or ((afterWhole cs).bind afterNumber)

/-! ## Literals of any kind -/

/-- What `cs` holds before its end `rest`. -/
def written (cs rest : List Char) : String := String.ofList (cs.take (cs.length - rest.length))

/-- The string literal that stands in `cs` before `rest` and means `value`. -/
def string (cs : List Char) : List Char × List Char → Token × List Char
  | (value, rest) =>
    let rest := afterSuffix rest
    (.string ⟨written cs rest, String.ofList value⟩, rest)

/-- The literal that stands in `cs` before `rest`. -/
def other (cs rest : List Char) : Token × List Char := (.literal (written cs rest), rest)

/-- The literal at the head of a text, and what follows it. -/
def read (cs : List Char) : Option (Token × List Char) :=
  match cs with
  | '"' :: inside => string cs <$> quotedValue .text .plain inside
  | 'r' :: fenced => string cs <$> fencedValue .text fenced
  | 'b' :: '"' :: inside => suffixed (quotedValue .bytes .plain inside)
  | 'b' :: 'r' :: fenced => suffixed (fencedValue .bytes fenced)
  | 'b' :: '\'' :: inside => (fun rest => other cs (afterSuffix rest)) <$>
      afterCharacter .bytes inside
  | 'c' :: '"' :: inside => suffixed (quotedValue .terminated .plain inside)
  | 'c' :: 'r' :: fenced => suffixed (fencedValue .terminated fenced)
  | '\'' :: inside => (fun rest => other cs (afterSuffix rest)) <$> afterCharacter .text inside
  | c :: _ => if c.isDigit then other cs <$> afterAnyNumber cs else none
  | [] => none
where
  /-- A literal whose meaning does not matter. -/
  suffixed (inside : Option (List Char × List Char)) : Option (Token × List Char) :=
    inside.map fun (_, rest) => other cs (afterSuffix rest)

end RecordSchema.Literal
