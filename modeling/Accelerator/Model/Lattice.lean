import Accelerator.Model.Element
import Accelerator.Model.Settings
import Accelerator.Shape.Blank
import Accelerator.Shape.Pattern

/-!
# Lattices

A lattice is a list of elements under headers that count its lists. `nEleMax` is the position of the
last element in use; the slots after it are spare.
-/

namespace Accelerator

/-- A link between two elements: an attribute of the slave is driven by the lord. -/
structure ControlLink where
  coef : Float
  ixLord : Int32
  ixSlave : Int32
  ixAttrib : Int32

namespace ControlLink

/-- The fields of the record. -/
def shape : Shape ControlLink :=
  .record "Control"
    (.cons (.named "coef" 1) .real <|
      .cons (.named "ix_lord" 2) .integer <|
      .cons (.named "ix_slave" 3) .integer <|
      .cons (.named "ix_attrib" 4) .integer <|
      .nil)
    { parts := fun r =>
        (r.coef, r.ixLord, r.ixSlave, r.ixAttrib, ())
      ofParts := fun
        (coef, ixLord, ixSlave, ixAttrib, ()) =>
        ⟨coef, ixLord, ixSlave, ixAttrib⟩
      ofParts_parts := fun _ => rfl
      parts_ofParts := fun _ => rfl }

instance : BEq ControlLink :=
  ⟨shape.equal⟩

end ControlLink

/-- A lattice: headers, the element that new ones start from, and the lists that they count. -/
structure Lattice where
  name : String
  lattice : String
  inputFileName : String
  title : String
  x : PlaneSummary
  y : PlaneSummary
  z : PlaneSummary
  parameters : BeamParameters
  version : Int32
  nEleUse : Int32
  nEleMax : Int32
  nControlMax : Int32
  nIcMax : Int32
  inputTaylorOrder : Int32
  template : Element
  control : List ControlLink
  ic : List Int32
  elements : List Element

namespace Lattice

/-- The fields of the record. -/
def shape : Shape Lattice :=
  .record "Lattice"
    (.cons (.named "name" 1) .text <|
      .cons (.named "lattice" 2) .text <|
      .cons (.named "input_file_name" 3) .text <|
      .cons (.named "title" 4) .text <|
      .cons (.named "x" 5) PlaneSummary.shape <|
      .cons (.named "y" 6) PlaneSummary.shape <|
      .cons (.named "z" 7) PlaneSummary.shape <|
      .cons (.named "param" 8) BeamParameters.shape <|
      .cons (.named "version" 9) .integer <|
      .cons (.named "n_ele_use" 10) .integer <|
      .cons (.named "n_ele_max" 11) .integer <|
      .cons (.named "n_control_max" 12) .integer <|
      .cons (.named "n_ic_max" 13) .integer <|
      .cons (.named "input_taylor_order" 14) .integer <|
      .cons (.named "ele_init" 15) Element.shape <|
      .cons ((Field.named "control" 16).sized 2) (.list ControlLink.shape) <|
      .cons (.named "ic" 17) (.list .integer) <|
      .cons (.named "ele" 20) (.list Element.shape) <|
      .nil)
    { parts := fun r =>
        (r.name, r.lattice, r.inputFileName, r.title, r.x, r.y, r.z, r.parameters, r.version,
        r.nEleUse, r.nEleMax, r.nControlMax, r.nIcMax, r.inputTaylorOrder, r.template, r.control,
        r.ic, r.elements, ())
      ofParts := fun
        (name, lattice, inputFileName, title, x, y, z, parameters, version, nEleUse, nEleMax,
        nControlMax, nIcMax, inputTaylorOrder, template, control, ic, elements, ()) =>
        ⟨name, lattice, inputFileName, title, x, y, z, parameters, version, nEleUse, nEleMax,
        nControlMax, nIcMax, inputTaylorOrder, template, control, ic, elements⟩
      ofParts_parts := fun _ => rfl
      parts_ofParts := fun _ => rfl }

/-- The blank lattice has one element, since its header names element 0 as the last one. -/
def blank : Lattice :=
  { shape.blank with elements := [Element.shape.blank] }

/-- The pattern of an index: the header counts are those of the lists, which have two links, three
cross references and three elements. -/
def pattern (ix : Int32) : Lattice :=
  { shape.pattern ix with nEleUse := 2, nEleMax := 2, nControlMax := 2, nIcMax := 3 }

end Lattice

end Accelerator
