import Accelerator.Model.Lattice
import Accelerator.Text.Literal

/-!
# The elements in use

The elements that the header of a lattice counts (`Lattice.active?`), one of them by its position
(`Lattice.element`), and whether the headers fit the lists (`Lattice.checkShape`).
-/

namespace Accelerator

/-- Why a lattice does not answer. -/
inductive LatticeError where
  /-- A list has fewer entries than its header promises. -/
  | tooShort (field : String) (needed found : Nat)
  | invalid (reason : String)
  | notFound
deriving DecidableEq, Repr

namespace LatticeError

/-- The error in words. -/
def message : LatticeError → String
  | tooShort field needed found =>
    "shape mismatch in `" ++ field ++ "`: expected at least " ++ String.ofList (natText needed) ++
      " entries, found " ++ String.ofList (natText found)
  | invalid reason => "validation failed: " ++ reason
  | notFound => "not found"

/-- The error as a value for people. -/
def display : LatticeError → String
  | tooShort field needed found =>
    "Shape \x7b field: " ++ literal field ++ ", expected: " ++ String.ofList (natText needed) ++
      ", found: " ++ String.ofList (natText found) ++ " \x7d"
  | invalid reason => "Validation(" ++ literal reason ++ ")"
  | notFound => "NotFound"

end LatticeError

/-- The count in a header, which may not be negative. -/
def headerCount (header : String) (value : Int32) : Except LatticeError Nat :=
  if value < 0 then
    .error (.invalid (header ++ " is negative (" ++ String.ofList (intText value.toInt) ++ ")"))
  else .ok value.toInt.toNat

/-- A list has at least as many entries as are needed. -/
def atLeast (field : String) (needed found : Nat) : Except LatticeError Unit :=
  if found < needed then .error (.tooShort field needed found) else .ok ()

namespace Lattice

/-- The elements up to the last one in use; none if the header is negative. There is no answer if
the list is too short. -/
def active? (l : Lattice) : Option (List Element) :=
  if l.nEleMax < 0 then some []
  else if l.nEleMax.toInt.toNat < l.elements.length then
    some (l.elements.take (l.nEleMax.toInt.toNat + 1))
  else none

/-- The element at a position, if it is in use. -/
def element (l : Lattice) (ix : Nat) : Except LatticeError Element :=
  match l.active?.bind (·[ix]?) with
  | some e => .ok e
  | none => .error .notFound

/-- Every header fits its list: first the elements, then the links, then the cross references. -/
def checkShape (l : Lattice) : Except LatticeError Unit := do
  let last ← headerCount "n_ele_max" l.nEleMax
  atLeast "ele" (last + 1) l.elements.length
  let controls ← headerCount "n_control_max" l.nControlMax
  atLeast "control" controls l.control.length
  let references ← headerCount "n_ic_max" l.nIcMax
  atLeast "ic" references l.ic.length

end Lattice

end Accelerator
