import Accelerator.Event
import Accelerator.Model.Lattice.Access

/-!
# When two lattices are equal

Lattices are compared by their headers, their links and cross references, and their elements in use;
spare elements do not matter. If a list of elements is shorter than its header says, the lattices
are not equal, which is reported.
-/

namespace Accelerator

namespace Lattice

/-- Everything but the elements is equal; the links and the cross references over their whole
length. -/
def headersEqual (a b : Lattice) : Bool :=
  a.name == b.name && a.lattice == b.lattice && a.inputFileName == b.inputFileName &&
    a.title == b.title && a.x == b.x && a.y == b.y && a.z == b.z &&
    a.parameters == b.parameters && a.version == b.version && a.nEleUse == b.nEleUse &&
    a.nEleMax == b.nEleMax && a.nControlMax == b.nControlMax && a.nIcMax == b.nIcMax &&
    a.inputTaylorOrder == b.inputTaylorOrder && a.template == b.template &&
    allEqual (· == ·) a.control b.control && allEqual (· == ·) a.ic b.ic

/-- The report that a list of elements is too short for its header. -/
def shortEvent (a b : Lattice) : Event where
  level := .trace
  message := "element array shorter than n_ele_max + 1"
  values := [("n_ele_max", .number a.nEleMax.toInt), ("left_len", .number a.elements.length),
    ("right_len", .number b.elements.length)]

/-- Compares the elements in use. -/
def compareActive (a b : Lattice) : Verdict :=
  match a.active?, b.active? with
  | some es, some fs => .silent (allEqual (· == ·) es fs)
  | _, _ => ⟨false, [shortEvent a b]⟩

/-- Compares two lattices: the elements last, and only if all else is equal. -/
def compare (a b : Lattice) : Verdict :=
  if headersEqual a b then compareActive a b else .silent false

instance : BEq Lattice :=
  ⟨fun a b => (compare a b).equal⟩

end Lattice

end Accelerator
