import RecordSchema.Source.Syntax.Declaration

/-!
# The grammar

The readers of all kinds of phrases, each given the others for what stands inside.  `phrases n`
reads what nests no deeper than `n`; a text cannot nest deeper than it is long.
-/

namespace RecordSchema

/-- The readers of phrases that nest no deeper than `n`. -/
def phrases : (n : Nat) → Phrases
  | 0 => .empty
  | n + 1 =>
    let inner := phrases n
    { type := inner.readType
      bound := inner.readBound
      pattern := inner.readPattern
      expression := inner.readExpression
      operand := inner.readOperand
      statement := inner.readStatementExpression
      block := inner.readBlock
      declaration := inner.readDeclaration }

/-- How often one phrase may stand inside another before a token is taken. -/
def phrasesPerToken : Nat := 4

/-- Run a reader of phrases with readers for all that can stand in what is left. -/
def withPhrases {α : Type} (reader : Phrases → Reader α) : Reader α := do
  reader (phrases (phrasesPerToken * ((← Reader.cursor).tokens.length + 2)))

end RecordSchema
