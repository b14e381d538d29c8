import RecordSchema.Encoder.Requests

/-!
# Sessions

A session is a sequence of requests to one encoder.  `Request.run` answers a single request;
`Session.run` answers requests one after the other, each on the encoder that the one before it left
behind, whether that one succeeded or failed.
-/

namespace RecordSchema

/-- A request to an encoder. -/
inductive Request (n : Nat) where
  | structOf (type : TypeExpr n) (options : List (SchemaOption n))
  | structOfInfo (type : TypeExpr n) (options : List (SchemaOption n))
  | argsOf (type : TypeExpr n)
  | argsOfInfo (type : TypeExpr n)
  | arrayOf (type : TypeExpr n) (options : List (SchemaOption n))
  | fieldOf (type : TypeExpr n) (options : List (SchemaOption n))
  | resolveType (type : TypeExpr n)
  /-- Register a type with its dependencies and attach a hook to it. -/
  | registerHook (type : TypeExpr n) (hook : Hook)
  /-- Attach a hook to a type if it is registered. -/
  | insertHook (type : TypeExpr n) (hook : Hook)
  deriving DecidableEq, Repr

/-- The result of a request that succeeded. -/
inductive Answer where
  | object (id : ObjectId)
  | arguments (arguments : ArgumentMap)
  | type (type : SchemaType)
  | field (field : Field)
  /-- Whether the type of an inserted hook was registered. -/
  | attached (registered : Bool)
  deriving DecidableEq, Repr

variable {n : Nat}

/-- Attach a hook to a type of an encoder's registry. -/
def Build.attach (type : TypeExpr n) (hook : Hook) : Build n Bool :=
  modifyGet fun e =>
    let (registered, registry) := e.registry.insertHook type hook
    (registered, { e with registry })

/-- Answer a request. -/
def Request.run (U : Universe n) : Request n → Build n Answer
  | .structOf type options => Answer.object <$> Encoder.structOf U type options
  | .structOfInfo type options => Answer.object <$> Encoder.structOfInfo U type options
  | .argsOf type => Answer.arguments <$> Encoder.argsOf U type
  | .argsOfInfo type => Answer.arguments <$> Encoder.argsOfInfo U type
  | .arrayOf type options => Answer.type <$> Encoder.arrayOf U type options
  | .fieldOf type options => Answer.field <$> Encoder.fieldOf U type options
  | .resolveType type => Answer.type <$> Encoder.resolveType U type
  | .registerHook type hook => do
    Build.register U type
    Answer.attached <$> Build.attach type hook
  | .insertHook type hook => Answer.attached <$> Build.attach type hook

/-- Answer requests one after the other.  The answers come with the last encoder. -/
def Session.run (U : Universe n) :
    List (Request n) → Encoder n → Option (List (Except EncodeError Answer) × Encoder n)
  | [], e => some ([], e)
  | request :: rest, e => do
    let (answer, e) ← (request.run U).outcome e
    let (answers, e) ← Session.run U rest e
    return (answer :: answers, e)

end RecordSchema
