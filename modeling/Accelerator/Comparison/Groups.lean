import Accelerator.Model.Element

/-!
# Groups of element fields

Two elements are compared group by group. A group names the fields that it covers and says when two
elements agree on them; every field is in one group.
-/

namespace Accelerator

/-- A group of fields of an element. -/
structure FieldGroup where
  label : String
  /-- The keys of the fields. -/
  fields : List String
  agree : Element → Element → Bool

/-- The rows of a table. -/
def rows {m n : Nat} (t : Vector (Vector Float n) m) : List (List Float) :=
  t.toList.map (·.toList)

/-- The names are equal. -/
def sameNames (x y : Element) : Bool :=
  x.name == y.name && x.typeName == y.typeName && x.aliasName == y.aliasName &&
    x.attributeName == y.attributeName

/-- The positions, the wakefield and all that places the element among others are equal. -/
def sameBookkeeping (x y : Element) : Bool :=
  x.gammaC == y.gammaC && x.s == y.s && x.refTime == y.refTime && x.description == y.description &&
    x.wake == y.wake && x.kind == y.kind && x.subKey == y.subKey && x.lordStatus == y.lordStatus &&
    x.slaveStatus == y.slaveStatus && x.ixValue == y.ixValue && x.nSlave == y.nSlave &&
    x.ix1Slave == y.ix1Slave && x.ix2Slave == y.ix2Slave && x.nLord == y.nLord &&
    x.ic1Lord == y.ic1Lord && x.ic2Lord == y.ic2Lord && x.ixPointer == y.ixPointer &&
    x.ixx == y.ixx && x.ixEle == y.ixEle

/-- The methods, the orders, the apertures and the tracking switches are equal. -/
def sameSwitches (x y : Element) : Bool :=
  x.mat6CalcMethod == y.mat6CalcMethod && x.trackingMethod == y.trackingMethod &&
    x.fieldSource == y.fieldSource && x.refOrbit == y.refOrbit && x.taylorOrder == y.taylorOrder &&
    x.apertureAt == y.apertureAt && x.apertureShape == y.apertureShape &&
    x.symplectify == y.symplectify && x.modeFlip == y.modeFlip &&
    x.multipolesOn == y.multipolesOn && x.mapWithOffsets == y.mapWithOffsets &&
    x.fieldMaster == y.fieldMaster && x.isOn == y.isOn && x.oldIsOn == y.oldIsOn &&
    x.logic == y.logic && x.onAGirder == y.onAGirder && x.csrCalcOn == y.csrCalcOn &&
    x.offsetMovesAperture == y.offsetMovesAperture

/-- The groups, in the order in which they are reported. -/
def elementGroups : List FieldGroup := [
    { label := "name"
      fields := ["name", "type", "alias", "attribute_name"]
      agree := sameNames },
    { label := "int"
      fields := ["gamma_c", "s", "ref_time", "descrip", "wake", "key", "sub_key", "lord_status",
        "slave_status", "ix_value", "n_slave", "ix1_slave", "ix2_slave", "n_lord", "ic1_lord",
        "ic2_lord", "ix_pointer", "ixx", "ix_ele"]
      agree := sameBookkeeping },
    { label := "logic"
      fields := ["mat6_calc_method", "tracking_method", "field_calc", "ref_orbit", "taylor_order",
        "aperture_at", "aperture_type", "symplectify", "mode_flip", "multipoles_on",
        "map_with_offsets", "field_master", "is_on", "old_is_on", "logic", "on_a_girder",
        "csr_calc_on", "offset_moves_aperture"]
      agree := sameSwitches },
    { label := "xy"
      fields := ["x", "y"]
      agree := fun x y => x.x == y.x && x.y == y.y },
    { label := "abz"
      fields := ["a", "b", "z"]
      agree := fun x y => x.a == y.a && x.b == y.b && x.z == y.z },
    { label := "floor"
      fields := ["floor"]
      agree := fun x y => x.floor == y.floor },
    { label := "value"
      fields := ["value"]
      agree := fun x y => allEqual (· == ·) x.value y.value },
    { label := "gen0"
      fields := ["gen0"]
      agree := fun x y => allEqual (· == ·) x.gen0.toList y.gen0.toList },
    { label := "vec0"
      fields := ["vec0"]
      agree := fun x y => allEqual (· == ·) x.vec0.toList y.vec0.toList },
    { label := "mat6"
      fields := ["mat6"]
      agree := fun x y => matrixEqual (· == ·) (rows x.mat6) (rows y.mat6) },
    { label := "c_mat"
      fields := ["c_mat"]
      agree := fun x y => matrixEqual (· == ·) (rows x.cMat) (rows y.cMat) },
    { label := "a_pole"
      fields := ["a_pole"]
      agree := fun x y => allEqual (· == ·) x.aPole y.aPole },
    { label := "b_pole"
      fields := ["b_pole"]
      agree := fun x y => allEqual (· == ·) x.bPole y.bPole },
    { label := "const"
      fields := ["const_arr"]
      agree := fun x y => allEqual (· == ·) x.constants y.constants },
    { label := "taylor"
      fields := ["taylor"]
      agree := fun x y => allEqual (· == ·) x.taylor.toList y.taylor.toList },
    { label := "wig"
      fields := ["wig_term"]
      agree := fun x y => allEqual (· == ·) x.wigglerTerms y.wigglerTerms },
    { label := "r"
      fields := ["r"]
      agree := fun x y => matrixEqual (· == ·) x.r y.r }]

end Accelerator
