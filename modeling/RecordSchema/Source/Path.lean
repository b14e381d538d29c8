import RecordSchema.Source.Lexing
import RecordSchema.Source.Syntax.Grammar

/-!
# Paths on their own

The path of a trait is read from tokens that go on after it; the path of a package or of a module is
a text of its own.
-/

namespace RecordSchema.Path

/-- The longest path at the head of what is left. -/
def read : Reader (List Token) :=
  withPhrases fun inner => do return (← inner.readPath false).tokens

/-- One segment of a path. -/
def readSegment : Reader (List Token) :=
  withPhrases fun inner => do return (← inner.readSegment false).tokens

/-- What a reader makes of a text, none if it does not read all of it. -/
def whole? (reader : Reader (List Token)) (text : String) : Option (List Token) :=
  (Token.lex text).bind fun tokens => (reader.run tokens).toOption

/-- The tokens of a text that is a path and nothing else. -/
def ofText? (text : String) : Option (List Token) := whole? read text

/-- The tokens of a text that is one segment and nothing else. -/
def segmentOfText? (text : String) : Option (List Token) := whole? readSegment text

end RecordSchema.Path
