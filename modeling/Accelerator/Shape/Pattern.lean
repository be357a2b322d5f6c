import Accelerator.Decimal.Value
import Accelerator.Shape

/-!
# Patterns

The pattern of an index fills every field of a record with values that depend on the index, so that
records of different indices are easy to tell apart. A field with the number `n` gets the number
`n + 100 * ix` in a record of index `ix`; the entries of a list of numbers add `101`, `102`, … to
it, and in a table the columns add `10`, `20`, … to that. A record in the field `n` has the index
`ix + n`; records in a list there have the indices `ix + n + 1`, `ix + n + 2`, …. All of this is
arithmetic modulo `2 ^ 32`.
-/

namespace Accelerator

/-- The number of a field in a record of an index. -/
def patternNumber (number ix : Int32) : Int32 :=
  number + ix * 100

/-- The letter that a number stands for. -/
def letter (n : Int32) : Char :=
  Char.ofNat (97 + (n.toInt % 26).toNat)

/-- The eight letters of a text field whose number is `n`. -/
def patternText (n : Int32) : String :=
  String.ofList ((List.range 8).map fun i => letter (n + Int32.ofNat (101 + i)))

/-- What the entry `i` of an array or a list adds to the number of its field: records and numbers
are counted differently, and so are the columns of a table (`inRow`). -/
def Shape.entryNumber {α : Type} (entry : Shape α) (inRow : Bool) (i : Nat) : Int32 :=
  match entry with
  | .record .. => Int32.ofNat (i + 1)
  | _ => if inRow then Int32.ofNat (10 * (i + 1)) else Int32.ofNat (101 + i)

mutual

/-- The value of a field, given its number and how many entries its lists get, in a record of the
index `ix`. -/
def Shape.fill : {α : Type} → Shape α → (inRow : Bool) → (size : Nat) → (number ix : Int32) → α
  | _, .real, _, _, number, ix => realOfInt (patternNumber number ix).toInt
  | _, .integer, _, _, number, ix => patternNumber number ix
  | _, .flag, _, _, number, ix => (patternNumber number ix).toInt % 2 == 0
  | _, .text, _, _, number, ix => patternText (patternNumber number ix)
  | _, .choice c, _, _, number, ix =>
    c.cyclic ((patternNumber number ix).toInt % c.all.length).toNat
  | _, .array n entry, inRow, size, number, ix =>
    Vector.ofFn fun i : Fin n => entry.fill true size (number + entry.entryNumber inRow i) ix
  | _, .list entry, inRow, size, number, ix =>
    (List.range size).map fun i => entry.fill true size (number + entry.entryNumber inRow i) ix
  | _, .optional value, inRow, size, number, ix => some (value.fill inRow size number ix)
  | _, .record _ fields view, _, _, number, ix => view.ofParts (fields.fill (ix + number))

/-- The values of the fields of a record of the index `ix`. -/
def Fields.fill : {β : Type} → Fields β → (ix : Int32) → β
  | _, .nil, _ => ()
  | _, .cons f value rest, ix => (value.fill false f.size f.number ix, rest.fill ix)

end

/-- The pattern of an index. -/
def Shape.pattern {α : Type} (s : Shape α) (ix : Int32) : α :=
  s.fill false 0 0 ix

end Accelerator
