/-!
# Native types

The types that are described without a declaration: the primitives, the date and time types, and
the two dynamic values.
-/

namespace RecordSchema

/-- A primitive by its width. -/
inductive Primitive where
  | bool
  | str
  | string
  | i8
  | i16
  | i32
  | i64
  | i128
  | isize
  | u8
  | u16
  | u32
  | u64
  | u128
  | usize
  | f32
  | f64
  deriving DecidableEq, Repr

namespace Primitive

def all : List Primitive :=
  [.bool, .str, .string, .i8, .i16, .i32, .i64, .i128, .isize, .u8, .u16, .u32, .u64, .u128,
   .usize, .f32, .f64]

/-- The name of the type. -/
def typeName : Primitive → String
  | .bool => "bool"
  | .str => "str"
  | .string => "String"
  | .i8 => "i8"
  | .i16 => "i16"
  | .i32 => "i32"
  | .i64 => "i64"
  | .i128 => "i128"
  | .isize => "isize"
  | .u8 => "u8"
  | .u16 => "u16"
  | .u32 => "u32"
  | .u64 => "u64"
  | .u128 => "u128"
  | .usize => "usize"
  | .f32 => "f32"
  | .f64 => "f64"

/-- The name of the primitive kind, which is the type's with a capital letter. -/
def kindName : Primitive → String
  | .bool => "Bool"
  | .str => "Str"
  | .string => "String"
  | .i8 => "I8"
  | .i16 => "I16"
  | .i32 => "I32"
  | .i64 => "I64"
  | .i128 => "I128"
  | .isize => "Isize"
  | .u8 => "U8"
  | .u16 => "U16"
  | .u32 => "U32"
  | .u64 => "U64"
  | .u128 => "U128"
  | .usize => "Usize"
  | .f32 => "F32"
  | .f64 => "F64"

def isInteger : Primitive → Bool
  | .i8 | .i16 | .i32 | .i64 | .i128 | .isize | .u8 | .u16 | .u32 | .u64 | .u128 | .usize => true
  | _ => false

def isFloat : Primitive → Bool
  | .f32 | .f64 => true
  | _ => false

def isString : Primitive → Bool
  | .str | .string => true
  | _ => false

theorem mem_all (primitive : Primitive) : primitive ∈ all := by
  cases primitive <;> decide

end Primitive

/-- A type described without a declaration. -/
inductive Native where
  | primitive (primitive : Primitive)
  | systemTime
  | naiveDateTime
  | naiveDate
  | dateTimeUtc
  | dateTimeLocal
  | dateTimeFixedOffset
  | anyValue
  | anySendSyncValue
  deriving DecidableEq, Repr

namespace Native

def all : List Native :=
  Primitive.all.map .primitive ++
    [.systemTime, .naiveDateTime, .naiveDate, .dateTimeUtc, .dateTimeLocal, .dateTimeFixedOffset,
     .anyValue, .anySendSyncValue]

def name : Native → String
  | .primitive kind => kind.typeName
  | .systemTime => "SystemTime"
  | .naiveDateTime => "NaiveDateTime"
  | .naiveDate => "NaiveDate"
  | .dateTimeUtc => "DateTime<Utc>"
  | .dateTimeLocal => "DateTime<Local>"
  | .dateTimeFixedOffset => "DateTime<FixedOffset>"
  | .anyValue => "dyn Any"
  | .anySendSyncValue => "dyn Any + Send + Sync"

def path : Native → String
  | .primitive .string => "alloc::string::String"
  | .primitive kind => kind.typeName
  | .systemTime => "std::time::SystemTime"
  | .naiveDateTime => "chrono::NaiveDateTime"
  | .naiveDate => "chrono::NaiveDate"
  | .dateTimeUtc => "chrono::DateTime<chrono::Utc>"
  | .dateTimeLocal => "chrono::DateTime<chrono::Local>"
  | .dateTimeFixedOffset => "chrono::DateTime<chrono::FixedOffset>"
  | .anyValue => "dyn core::any::Any"
  | .anySendSyncValue => "dyn core::any::Any + Send + Sync"

/-- The types whose values are points in time.  A bare date is none of them. -/
def isDateTime : Native → Bool
  | .systemTime | .naiveDateTime | .dateTimeUtc | .dateTimeLocal | .dateTimeFixedOffset => true
  | _ => false

theorem mem_all (native : Native) : native ∈ all := by
  cases native with
  | primitive kind => simp [all, kind.mem_all]
  | _ => simp [all]

end Native

end RecordSchema
