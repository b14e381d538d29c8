/-!
# Pass-through hashing

Keys that are uniform words already need no mixing.  The state of a pass-through hash is one
64-bit word.  A word replaces it; bytes are taken from the last to the first, each after turning
the state left by eight bits.  Up to eight bytes thus read as a little-endian number.
-/

namespace RecordSchema

/-- The state of a hash that hands words through. -/
structure PassThroughHash where
  state : UInt64 := 0
  deriving DecidableEq, Repr

namespace PassThroughHash

def fresh : PassThroughHash := {}

/-- Eight bits to the left, and those that leave come back on the right. -/
def turn (word : UInt64) : UInt64 := (word <<< 8) ||| (word >>> 56)

/-- Take in one byte. -/
def writeByte (hash : PassThroughHash) (byte : UInt8) : PassThroughHash :=
  ⟨turn hash.state + byte.toUInt64⟩

/-- Take in bytes, the last one first. -/
def write (hash : PassThroughHash) (bytes : List UInt8) : PassThroughHash :=
  bytes.reverse.foldl writeByte hash

/-- Take a word for the state. -/
def writeWord (_hash : PassThroughHash) (word : UInt64) : PassThroughHash := ⟨word⟩

/-- The hash. -/
def finish (hash : PassThroughHash) : UInt64 := hash.state

end PassThroughHash

end RecordSchema
