import RecordSchema.Schema.SchemaType

/-!
# Errors of schema building

Each way in which building a schema type can fail is a constructor that carries its cause;
`EncodeError.message` words them all.  An unrecognized type met in a field is reported with the
struct and the field: `EncodeError.inStruct` adds them once and leaves every other error alone.
-/

namespace RecordSchema

/-- Why no schema type could be built. -/
inductive EncodeError where
  /-- The type of this path has no scalar, struct, list or hook to map it. -/
  | typeNotRecognized (path : String)
  /-- A field of a struct led to an error. -/
  | typeNotRecognizedInStruct (source : EncodeError) (structPath field : String)
  /-- What is cached for the type of this path is not an object. -/
  | notAnObject (path : String)
  /-- An object or an argument map was asked of a type of this path, which is no struct. -/
  | notStruct (path : String)
  /-- An option does not apply to this kind of target. -/
  | notSupported (target : String)
  /-- No object has this handle. -/
  | danglingObject (id : ObjectId)
  deriving DecidableEq, Repr

namespace EncodeError

/-- The wording of an error. -/
def message : EncodeError → String
  | .typeNotRecognized path => path ++ " not recognized"
  | .typeNotRecognizedInStruct source structPath field =>
    structPath ++ "." ++ field ++ ": " ++ source.message
  | .notAnObject path => path ++ " is not an object"
  | .notStruct path => "cannot build from a non struct: " ++ path
  | .notSupported target => "`" ++ target ++ "` is not supported"
  | .danglingObject id => "object " ++ id.inspect ++ " does not belong to this encoder"

/-- The error that an error reports, if it reports one. -/
def source? : EncodeError → Option EncodeError
  | .typeNotRecognizedInStruct source _ _ => some source
  | _ => none

/-- The errors below an error, outermost first. -/
def sources : EncodeError → List EncodeError
  | .typeNotRecognizedInStruct source _ _ => source :: source.sources
  | _ => []

/-- Add the struct and field to an unrecognized type that has none yet. -/
def inStruct (error : EncodeError) (structPath field : String) : EncodeError :=
  match error with
  | .typeNotRecognized _ => .typeNotRecognizedInStruct error structPath field
  | _ => error

/-- The kind of an error. -/
def kind : EncodeError → String
  | .typeNotRecognized _ => "TypeNotRecognized"
  | .typeNotRecognizedInStruct .. => "TypeNotRecognizedInStruct"
  | .notAnObject _ => "NotAnObject"
  | .notStruct _ => "NotStruct"
  | .notSupported _ => "NotSupported"
  | .danglingObject _ => "DanglingObject"

/-- An error as inspection text: its kind and what it carries. -/
def inspect (error : EncodeError) : String :=
  match error with
  | .typeNotRecognizedInStruct source structPath field =>
    Inspect.record error.kind
      [("source", source.inspect), ("struct_path", quoted structPath), ("field", quoted field)]
  | .danglingObject id => Inspect.applied error.kind [id.inspect]
  | .typeNotRecognized text | .notAnObject text | .notStruct text | .notSupported text =>
    Inspect.applied error.kind [quoted text]

/-- Context is added once: a second struct and field change nothing. -/
theorem inStruct_inStruct (error : EncodeError) (structPath field structPath' field' : String) :
    (error.inStruct structPath field).inStruct structPath' field' =
      error.inStruct structPath field := by
  cases error <;> rfl

end EncodeError

end RecordSchema
