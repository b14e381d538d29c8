import RecordSchema.Text.Quoted

/-!
# Inspection text

How values are shown to a developer: a constructor followed by its arguments in parentheses, a
record with its named parts, a list, or a map.  The parts are given already shown, so the layouts
here decide nothing but brackets and separators.
-/

namespace RecordSchema.Inspect

/-- A constructor applied to arguments: `Name(a, b)`. -/
def applied (name : String) (arguments : List String) : String :=
  name ++ "(" ++ ", ".intercalate arguments ++ ")"

/-- A record: the name, then the named parts between braces. -/
def record (name : String) (parts : List (String × String)) : String :=
  name ++ " \x7b " ++ ", ".intercalate (parts.map fun part => part.1 ++ ": " ++ part.2) ++ " \x7d"

/-- A list: `[a, b]`. -/
def list (items : List String) : String :=
  "[" ++ ", ".intercalate items ++ "]"

/-- A map from texts: the quoted keys with their values between braces. -/
def map (entries : List (String × String)) : String :=
  "\x7b" ++ ", ".intercalate (entries.map fun entry => quoted entry.1 ++ ": " ++ entry.2) ++ "\x7d"

/-- A part that may be absent: `None` or `Some(a)`. -/
def option (part : Option String) : String :=
  match part with
  | none => "None"
  | some shown => applied "Some" [shown]

end RecordSchema.Inspect
