import RecordSchema.Text.Inspect

/-!
# Values

The values that resolvers consume and produce, and that arguments have as defaults: null, truth
values, integers, text, lists, and objects.  An object is the list of its members in ascending
order of their names.
-/

namespace RecordSchema

/-- A value that flows through a resolver. -/
inductive Value where
  | null
  | bool (value : Bool)
  | number (value : Int)
  | text (value : String)
  | list (items : List Value)
  | object (members : List (String × Value))
  deriving Inhabited, Repr

namespace Value

/-! ## Equality -/

mutual

/-- Structural equality of values, decided part by part. -/
def decEq : (v w : Value) → Decidable (v = w)
  | .null, .null => .isTrue rfl
  | .bool a, .bool b => decidable_of_iff (a = b) (by simp)
  | .number a, .number b => decidable_of_iff (a = b) (by simp)
  | .text a, .text b => decidable_of_iff (a = b) (by simp)
  | .list a, .list b => @decidable_of_iff _ (a = b) (by simp) (decEqItems a b)
  | .object a, .object b => @decidable_of_iff _ (a = b) (by simp) (decEqMembers a b)
  | .null, .bool _ | .null, .number _ | .null, .text _ | .null, .list _ | .null, .object _
  | .bool _, .null | .bool _, .number _ | .bool _, .text _ | .bool _, .list _ | .bool _, .object _
  | .number _, .null | .number _, .bool _ | .number _, .text _ | .number _, .list _
  | .number _, .object _
  | .text _, .null | .text _, .bool _ | .text _, .number _ | .text _, .list _ | .text _, .object _
  | .list _, .null | .list _, .bool _ | .list _, .number _ | .list _, .text _ | .list _, .object _
  | .object _, .null | .object _, .bool _ | .object _, .number _ | .object _, .text _
  | .object _, .list _ => .isFalse (by simp)

/-- Equality of lists of values. -/
def decEqItems : (v w : List Value) → Decidable (v = w)
  | [], [] => .isTrue rfl
  | [], _ :: _ | _ :: _, [] => .isFalse (by simp)
  | a :: v, b :: w =>
    match decEq a b, decEqItems v w with
    | .isTrue ha, .isTrue hv => .isTrue (by rw [ha, hv])
    | .isFalse ha, _ => .isFalse (by simp [ha])
    | _, .isFalse hv => .isFalse (by simp [hv])

/-- Equality of the members of two objects. -/
def decEqMembers : (v w : List (String × Value)) → Decidable (v = w)
  | [], [] => .isTrue rfl
  | [], _ :: _ | _ :: _, [] => .isFalse (by simp)
  | (j, a) :: v, (k, b) :: w =>
    match decEq a b, decEqMembers v w with
    | .isTrue ha, .isTrue hv => decidable_of_iff (j = k) (by simp [ha, hv])
    | .isFalse ha, _ => .isFalse (by simp [ha])
    | _, .isFalse hv => .isFalse (by simp [hv])

end

instance : DecidableEq Value := decEq

/-! ## Inspection -/

mutual

/-- A value as inspection text. -/
def inspect : Value → String
  | .null => "Null"
  | .bool value => Inspect.applied "Bool" [toString value]
  | .number value => Inspect.applied "Number" [toString value]
  | .text value => Inspect.applied "String" [quoted value]
  | .list items => "Array " ++ Inspect.list (inspectItems items)
  | .object members => "Object " ++ Inspect.map (inspectMembers members)

/-- The items of a list, each as inspection text. -/
def inspectItems : List Value → List String
  | [] => []
  | item :: rest => item.inspect :: inspectItems rest

/-- The members of an object, each value as inspection text. -/
def inspectMembers : List (String × Value) → List (String × String)
  | [] => []
  | (name, value) :: rest => (name, value.inspect) :: inspectMembers rest

end

end Value

end RecordSchema
