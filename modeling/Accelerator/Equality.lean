/-!
# Equality of lists and tables

Entries are compared by a given relation, of which nothing is assumed: floats are not equal to
themselves if they are no numbers. Lengths are compared before any entry is.
-/

namespace Accelerator

variable {α : Type}

/-- Two lists have one length, and their entries are equal pair by pair. -/
def allEqual (eq : α → α → Bool) (a b : List α) : Bool :=
  a.length == b.length && (a.zip b).all fun (x, y) => eq x y

/-- Two tables have the same number of rows, and their rows are equal pair by pair. -/
def matrixEqual (eq : α → α → Bool) (a b : List (List α)) : Bool :=
  a.length == b.length && (a.zip b).all fun (r, s) => allEqual eq r s

/-- Every flag is set. -/
def allTrue (flags : List Bool) : Bool :=
  flags.all id

end Accelerator
