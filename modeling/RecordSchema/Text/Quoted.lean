import RecordSchema.Text.Printable

/-!
# Quoted text

Text between double quotes, with an escape for each character that would end the text, has no
shape of its own, or would merge with the character before it.  The same form serves for the
inspection of values and for string literals in generated code.
-/

namespace RecordSchema.Quoted

/-- The digits of a code point in lower case hexadecimal, without leading zeros. -/
def hexDigits (c : Char) : String :=
  String.ofList (Nat.toDigits 16 c.toNat)

/-- How a character stands in quoted text. -/
def escape (c : Char) : String :=
  match c with
  | '"' => "\\\""
  | '\\' => "\\\\"
  | '\n' => "\\n"
  | '\t' => "\\t"
  | '\r' => "\\r"
  | '\x00' => "\\0"
  | c => if isPrintable c then c.toString else "\\u\x7b" ++ hexDigits c ++ "\x7d"

end RecordSchema.Quoted

namespace RecordSchema

/-- The text between double quotes, every character escaped on its own. -/
def quoted (text : String) : String :=
  "\"" ++ String.join (text.toList.map Quoted.escape) ++ "\""

end RecordSchema
