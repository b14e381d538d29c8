/-!
# Padded text

A label is set into a column: cut to at most a given number of characters, then filled up to the
width of the column on the side that its alignment leaves free.
-/

namespace RecordSchema

/-- Where a label stands in its column. -/
inductive Alignment where
  | left
  | right
  | center
  deriving DecidableEq, Repr

/-- How many of `free` columns stand before the label.  An odd column left over by centering goes
after it. -/
def Alignment.before (alignment : Alignment) (free : Nat) : Nat :=
  match alignment with
  | .left => 0
  | .right => free
  | .center => free / 2

/-- A label in a column of `width` characters, filled with `fill`; a `precision` cuts the label
first. -/
def padded (label : String) (width : Nat) (precision : Option Nat) (alignment : Alignment)
    (fill : Char) : String :=
  let cut := match precision with
    | some most => label.toList.take most
    | none => label.toList
  let free := width - cut.length
  let before := alignment.before free
  String.ofList (List.replicate before fill ++ cut ++ List.replicate (free - before) fill)

end RecordSchema
