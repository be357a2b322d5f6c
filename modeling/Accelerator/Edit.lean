import Accelerator.Shape.Display

/-!
# Edits

An `Edit` changes one field of a record, whatever the field holds. Counters are words of 32 bits
that do not wrap: an edit may fail with a `Fault`, and then the record stays as it was.
-/

namespace Accelerator

/-- Why an edit does not go through. -/
inductive Fault where
  | sumOverflow
  | differenceOverflow
  | outOfBounds (length index : Nat)
deriving DecidableEq, Repr

/-- The fault in words. -/
def Fault.message : Fault → String
  | sumOverflow => "attempt to add with overflow"
  | differenceOverflow => "attempt to subtract with overflow"
  | outOfBounds length index =>
    "index out of bounds: the len is " ++ String.ofList (natText length) ++
      " but the index is " ++ String.ofList (natText index)

/-- A change of the field with a key. -/
structure Edit (α : Type) where
  field : String
  apply : α → Except Fault α

namespace Edit

variable {α : Type}

/-- The edit for people. -/
def display (e : Edit α) : String :=
  braced "FieldTweak" [("field", literal e.field)]

/-- An edit that always goes through. -/
def total (field : String) (change : α → α) : Edit α :=
  ⟨field, fun a => .ok (change a)⟩

/-- An edit of a counter. -/
def counter (field : String) (step : Int32 → Except Fault Int32) (get : α → Int32)
    (set : α → Int32 → α) : Edit α :=
  ⟨field, fun a => set a <$> step (get a)⟩

end Edit

/-- The float nearest to one more. -/
def raise (x : Float) : Float :=
  x + 1.0

/-- An array with one entry raised. -/
def raiseAt {n : Nat} (v : Vector Float n) (i : Fin n) : Vector Float n :=
  v.set i (raise v[i])

/-- A table with one entry raised. -/
def raiseIn {m n : Nat} (t : Vector (Vector Float n) m) (i : Fin m) (j : Fin n) :
    Vector (Vector Float n) m :=
  t.set i (raiseAt t[i] j)

/-- The next integer, if there is one. -/
def increment (n : Int32) : Except Fault Int32 :=
  if n = Int32.maxValue then .error .sumOverflow else .ok (n + 1)

/-- The integer before, if there is one. -/
def decrement (n : Int32) : Except Fault Int32 :=
  if n = Int32.minValue then .error .differenceOverflow else .ok (n - 1)

/-- Text with one more letter. -/
def lengthen (s : String) : String :=
  s.push 'x'

/-- A list with one more entry. -/
def extend {α : Type} (l : List α) (a : α) : List α :=
  l ++ [a]

end Accelerator
