import RecordSchema.Source.SyntaxError

/-!
# Readers

A reader takes tokens from the head of what is left of the group that it reads, and gives them back
in the form in which they are to be written.  The tokens of an operator are given back as one
operator, so what a reader returns does not show how its input was spaced.

A group is read by a reader of its own.  Tokens that this reader leaves over are not looked at
again; the first group in which that happens is remembered, and whoever began reading asks for it at
the end with `Reader.finish`.

No reader can add tokens to what is left: each comes with the proof that it does not (`Reading`).  So
a reader that is repeated, and takes a token each time, is repeated no more often than there are
tokens.
-/

namespace RecordSchema

/-- Where a reader stands. -/
structure Cursor where
  /-- What is left of the group that is read. -/
  tokens : List Token
  /-- The brackets of that group, none for a whole text. -/
  scope : Option Delimiter := none
  /-- The group in which tokens were left over first. -/
  leftOver : Option (Option Delimiter) := none

/-- What a reader found, and where it stopped. -/
structure Reading (α : Type) (start : Cursor) where
  found : α
  stop : Cursor
  le : stop.tokens.length ≤ start.tokens.length

/-- A reader whose errors are those of syntax or, for a larger task, others that include them. -/
def ReaderOf (ε α : Type) : Type := (start : Cursor) → Except ε (Reading α start)

/-- A reader of syntax. -/
abbrev Reader (α : Type) := ReaderOf SyntaxError α

namespace ReaderOf

variable {ε α β : Type}

instance : Monad (ReaderOf ε) where
  pure a := fun start => .ok ⟨a, start, Nat.le_refl _⟩
  bind reader next := fun start =>
    match reader start with
    | .error error => .error error
    | .ok ⟨found, between, le⟩ =>
      match next found between with
      | .error error => .error error
      | .ok ⟨last, stop, le'⟩ => .ok ⟨last, stop, Nat.le_trans le' le⟩

instance : MonadExcept ε (ReaderOf ε) where
  throw error := fun _ => .error error
  tryCatch reader handler := fun start =>
    match reader start with
    | .error error => handler error start
    | .ok reading => .ok reading

/-- A result that needs no reading. -/
instance : MonadLift (Except ε) (ReaderOf ε) where
  monadLift result := fun start => result.map fun a => ⟨a, start, Nat.le_refl _⟩

/-- What a reader finds, and where it stops. -/
def outcome (reader : ReaderOf ε α) (start : Cursor) : Except ε (α × Cursor) :=
  (reader start).map fun reading => (reading.found, reading.stop)

/-- What a reader finds, wherever it stops. -/
def result (reader : ReaderOf ε α) (start : Cursor) : Except ε α :=
  (reader start).map Reading.found

end ReaderOf

namespace Token

/-! ## Looking ahead -/

/-- Whether the marks of an operator stand at the head.  More marks may follow. -/
def startsMarks : List Char → List Token → Bool
  | [], _ => true
  | [c], .mark d _ :: _ => c == d
  | c :: rest, .mark d true :: tokens => c == d && startsMarks rest tokens
  | _, _ => false

/-- Whether an operator stands at the head. -/
def startsWith (operator : String) (tokens : List Token) : Bool :=
  startsMarks operator.toList tokens

/-- Whether one of several operators stands at the head. -/
def startsWithAny (operators : List String) (tokens : List Token) : Bool :=
  operators.any fun operator => startsWith operator tokens

/-- Whether a certain word stands at the head. -/
def startsWord (word : String) : List Token → Bool
  | .word other :: _ => other == word
  | _ => false

/-- Whether one of several words stands at the head. -/
def startsWordOf (words : List String) (tokens : List Token) : Bool :=
  words.any fun word => startsWord word tokens

/-- Whether a word of any kind stands at the head. -/
def startsAnyWord : List Token → Bool
  | .word _ :: _ => true
  | _ => false

/-- The words that are no identifiers. -/
def reservedWords : List String :=
  ["_", "abstract", "as", "async", "await", "become", "box", "break", "const", "continue", "crate",
   "do", "dyn", "else", "enum", "extern", "false", "final", "fn", "for", "if", "impl", "in", "let",
   "loop", "macro", "match", "mod", "move", "mut", "override", "priv", "pub", "ref", "return",
   "Self", "self", "static", "struct", "super", "trait", "true", "try", "type", "typeof", "unsafe",
   "unsized", "use", "virtual", "where", "while", "yield"]

/-- Whether an identifier stands at the head. -/
def startsIdentifier : List Token → Bool
  | .word name :: _ => !reservedWords.contains name
  | _ => false

def startsLifetime : List Token → Bool
  | .lifetime _ :: _ => true
  | _ => false

/-- Whether a literal is a number. -/
def isNumber (written : String) : Bool := written.toList.head?.any Char.isDigit

/-- Whether a literal stands at the head.  A number may have a minus sign. -/
def startsLiteral : List Token → Bool
  | .string _ :: _ | .literal _ :: _ | .word "true" :: _ | .word "false" :: _ => true
  | .mark '-' _ :: .literal written :: _ => isNumber written
  | _ => false

/-- Whether a group in certain brackets stands at the head. -/
def startsGroup (delimiter : Delimiter) : List Token → Bool
  | .opening other :: _ => delimiter == other
  | _ => false

/-- The tokens up to the end of a group, `depth` groups being open inside it, and the tokens after
it. -/
def groupInside : (depth : Nat) → List Token → List Token × List Token
  | _, [] => ([], [])
  | 0, .closing _ :: rest => ([], rest)
  | depth + 1, .closing d :: rest =>
    let (inside, after) := groupInside depth rest
    (.closing d :: inside, after)
  | depth, .opening d :: rest =>
    let (inside, after) := groupInside (depth + 1) rest
    (.opening d :: inside, after)
  | depth, token :: rest =>
    let (inside, after) := groupInside depth rest
    (token :: inside, after)

/-- The inside of a group and what follows it, without the bracket between, are no longer than the
whole. -/
theorem groupInside_length_le (depth : Nat) (tokens : List Token) :
    (groupInside depth tokens).1.length + (groupInside depth tokens).2.length ≤ tokens.length := by
  fun_induction groupInside depth tokens with
  | case1 => simp
  | case2 => simp
  | _ => simp_all; omega

/-- The tokens after the first one, or after the group that it opens. -/
def afterFirst : List Token → List Token
  | [] => []
  | .opening _ :: rest => (groupInside 0 rest).2
  | _ :: rest => rest

end Token

namespace Reader

/-! ## Elementary readers -/

/-- Where the reader stands. -/
def cursor {ε : Type} : ReaderOf ε Cursor := fun start => .ok ⟨start, start, Nat.le_refl _⟩

/-- Whether what is left passes a test. -/
def sees {ε : Type} (test : List Token → Bool) : ReaderOf ε Bool := return test (← cursor).tokens

/-- Whether nothing is left. -/
def atEnd {ε : Type} : ReaderOf ε Bool := sees List.isEmpty

/-- Give up, for something else was expected here. -/
def fail {α : Type} (what : List Expectation) : Reader α := do
  throw (.expected what (← cursor).tokens.isEmpty)

/-- Pass over a number of tokens. -/
def skip {ε : Type} (count : Nat) : ReaderOf ε Unit := fun start =>
  .ok ⟨(), { start with tokens := start.tokens.drop count }, by simp⟩

/-- A number of tokens as they are. -/
def take (count : Nat) : Reader (List Token) := do
  let tokens := (← cursor).tokens
  skip count
  return tokens.take count

/-- All tokens that are left, as they are. -/
def takeAll : Reader (List Token) := do take (← cursor).tokens.length

/-- An operator. -/
def mark (operator : String) : Reader (List Token) := do
  if ← sees (Token.startsWith operator) then
    let _ ← take operator.length
    return Token.operator operator
  else throw (.expected [.mark operator] false)

/-- An operator, if it stands here. -/
def mark? (operator : String) : Reader (List Token) := do
  if ← sees (Token.startsWith operator) then mark operator else return []

/-- One certain word. -/
def keyword (word : String) : Reader (List Token) := do
  if ← sees (Token.startsWord word) then take 1 else fail [.keyword word]

/-- One certain word, if it stands here. -/
def keyword? (word : String) : Reader (List Token) := do
  if ← sees (Token.startsWord word) then take 1 else return []

/-- A word of any kind. -/
def anyWord : Reader (List Token) := do
  if ← sees Token.startsAnyWord then take 1 else fail [.anyWord]

/-- An identifier. -/
def identifier : Reader (List Token) := do
  match (← cursor).tokens with
  | .word name :: _ => if Token.reservedWords.contains name then throw (.keyword name) else take 1
  | _ => fail [.identifier]

def lifetime : Reader (List Token) := do
  if ← sees Token.startsLifetime then take 1 else fail [.lifetime]

/-- A lifetime, if it stands here. -/
def lifetime? : Reader (List Token) := do
  if ← sees Token.startsLifetime then lifetime else return []

/-- A literal.  The sign of a number becomes part of it. -/
def literal : Reader (List Token) := do
  match (← cursor).tokens with
  | .mark '-' _ :: .literal written :: _ =>
    if Token.isNumber written then
      skip 2
      return [.literal ("-" ++ written)]
    else fail [.literal]
  | tokens => if Token.startsLiteral tokens then take 1 else fail [.literal]

/-! ## Groups and lists -/

/-- What the reader `inside` makes of a group at the head. -/
def enter {α : Type} (delimiter : Delimiter) (inside : Reader α) : Reader α := fun outer =>
  match opens : outer.tokens with
  | .opening other :: rest =>
    if other ≠ delimiter then fail [.group delimiter] outer
    else
      let parts := Token.groupInside 0 rest
      match inside { outer with tokens := parts.1, scope := some delimiter } with
      | .error error => .error error
      | .ok ⟨found, inner, _⟩ =>
        let stray := if inner.tokens.isEmpty then none else some (some delimiter)
        .ok ⟨found, { outer with tokens := parts.2, leftOver := inner.leftOver.or stray }, by
          have := Token.groupInside_length_le 0 rest
          simp only [opens, List.length_cons, parts]
          omega⟩
  | _ => fail [.group delimiter] outer

/-- A group, its inside given by a reader. -/
def group (delimiter : Delimiter) (inside : Reader (List Token)) : Reader (List Token) := do
  let found ← enter delimiter inside
  return .opening delimiter :: found ++ [.closing delimiter]

/-- A group in any brackets, its inside as it is. -/
def anyGroup : Reader (List Token) := do
  match (← cursor).tokens with
  | .opening delimiter :: _ => group delimiter takeAll
  | _ => fail [.anyGroup]

/-- Repeat a reader while a test is passed, at most `bound` times. -/
def whileAtMost (test : List Token → Bool) (item : Reader (List Token)) :
    (bound : Nat) → Reader (List Token)
  | 0 => return []
  | bound + 1 => do
    if ← sees test then
      let first ← item
      return first ++ (← whileAtMost test item bound)
    else return []

/-- Repeat a reader while a test is passed.  The reader has to take a token each time. -/
def whileSees (test : List Token → Bool) (item : Reader (List Token)) : Reader (List Token) := do
  whileAtMost test item ((← cursor).tokens.length + 1)

/-- Items with a separator between two and perhaps after the last, up to where a test is passed; at
most `bound` of them. -/
def listAtMost (separator : String) (ends : List Token → Bool) (item : Reader (List Token)) :
    (bound : Nat) → Reader (List Token)
  | 0 => return []
  | bound + 1 => do
    if ← sees ends then return []
    let first ← item
    if ← sees ends then return first
    let between ← mark separator
    return first ++ between ++ (← listAtMost separator ends item bound)

/-- Items with a comma between two and perhaps after the last, up to where a test is passed. -/
def commaListUntil (ends : List Token → Bool) (item : Reader (List Token)) :
    Reader (List Token) := do
  listAtMost "," ends item ((← cursor).tokens.length + 1)

/-- Items with commas up to the end of the group. -/
def commaList (item : Reader (List Token)) : Reader (List Token) := commaListUntil List.isEmpty item

/-- Take in items one after the other, with a separator between two and perhaps after the last, up
to the end of the group; at most `bound` of them. -/
def takeInAtMost {ε σ : Type} (separator : ReaderOf ε (List Token)) (item : σ → ReaderOf ε σ) :
    (bound : Nat) → σ → ReaderOf ε σ
  | 0, taken => return taken
  | bound + 1, taken => do
    if ← atEnd then return taken
    let taken ← item taken
    if ← atEnd then return taken
    let _ ← separator
    takeInAtMost separator item bound taken

/-- Take in items one after the other, up to the end of the group. -/
def takeIn {ε σ : Type} (separator : ReaderOf ε (List Token)) (item : σ → ReaderOf ε σ)
    (taken : σ) : ReaderOf ε σ := do
  takeInAtMost separator item ((← cursor).tokens.length + 1) taken

/-- What a reader finds again and again, with commas between, up to the end of the group. -/
def commaSeparated {α : Type} (item : Reader α) : Reader (List α) :=
  takeIn (mark ",") (fun found => return found ++ [← item]) []

/-! ## Beginning and end -/

/-- Nothing may be left, neither here nor in a group read before. -/
def finish : Reader Unit := do
  let here ← cursor
  match here.leftOver with
  | some scope => throw (.leftOver scope)
  | none => if here.tokens.isEmpty then return () else throw (.leftOver here.scope)

/-- What a reader makes of all of a token sequence. -/
def run {α : Type} (reader : Reader α) (tokens : List Token) : Except SyntaxError α :=
  (do let found ← reader; finish; return found : Reader α).result { tokens }

end Reader

end RecordSchema
