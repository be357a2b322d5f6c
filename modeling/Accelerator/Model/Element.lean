import Accelerator.Model.FieldMaps
import Accelerator.Model.Optics
import Accelerator.Model.Wakefield
import Accelerator.Shape.Blank

/-!
# Elements

An element of a lattice with its optics, its maps and fields, its place among the elements that
control each other, and its tracking switches.
-/

namespace Accelerator

/-- The kind of an element. -/
inductive ElementKind where
  | drift
  | sbend
  | quadrupole
  | sextupole
  | octupole
  | solenoid
  | rfcavity
  | lcavity
  | wiggler
  | kicker
  | multipole
  | abMultipole
  | marker
  | monitor
  | instrument
  | patch
  | taylor
  | overlay
  | group
  | girder
  | beginningEle
deriving DecidableEq, Repr

/-- The names of the alternatives. -/
def ElementKind.choice : Choice ElementKind where
  typeName := "ElementKey"
  first := .drift
  others := [
    .sbend, .quadrupole, .sextupole, .octupole, .solenoid, .rfcavity, .lcavity, .wiggler, .kicker,
    .multipole, .abMultipole, .marker, .monitor, .instrument, .patch, .taylor, .overlay, .group,
    .girder, .beginningEle]
  key
    | .drift => "drift"
    | .sbend => "sbend"
    | .quadrupole => "quadrupole"
    | .sextupole => "sextupole"
    | .octupole => "octupole"
    | .solenoid => "solenoid"
    | .rfcavity => "rfcavity"
    | .lcavity => "lcavity"
    | .wiggler => "wiggler"
    | .kicker => "kicker"
    | .multipole => "multipole"
    | .abMultipole => "ab_multipole"
    | .marker => "marker"
    | .monitor => "monitor"
    | .instrument => "instrument"
    | .patch => "patch"
    | .taylor => "taylor"
    | .overlay => "overlay"
    | .group => "group"
    | .girder => "girder"
    | .beginningEle => "beginning_ele"
  label
    | .drift => "Drift"
    | .sbend => "Sbend"
    | .quadrupole => "Quadrupole"
    | .sextupole => "Sextupole"
    | .octupole => "Octupole"
    | .solenoid => "Solenoid"
    | .rfcavity => "Rfcavity"
    | .lcavity => "Lcavity"
    | .wiggler => "Wiggler"
    | .kicker => "Kicker"
    | .multipole => "Multipole"
    | .abMultipole => "AbMultipole"
    | .marker => "Marker"
    | .monitor => "Monitor"
    | .instrument => "Instrument"
    | .patch => "Patch"
    | .taylor => "Taylor"
    | .overlay => "Overlay"
    | .group => "Group"
    | .girder => "Girder"
    | .beginningEle => "BeginningEle"
  eq := inferInstance
  mem_all a := by cases a <;> decide
  nodup := by decide

/-- How an element controls others. -/
inductive LordStatus where
  | notALord
  | superLord
  | overlayLord
  | groupLord
  | girderLord
  | multipassLord
deriving DecidableEq, Repr

/-- The names of the alternatives. -/
def LordStatus.choice : Choice LordStatus where
  typeName := "LordStatus"
  first := .notALord
  others := [.superLord, .overlayLord, .groupLord, .girderLord, .multipassLord]
  key
    | .notALord => "not_a_lord"
    | .superLord => "super_lord"
    | .overlayLord => "overlay_lord"
    | .groupLord => "group_lord"
    | .girderLord => "girder_lord"
    | .multipassLord => "multipass_lord"
  label
    | .notALord => "NotALord"
    | .superLord => "SuperLord"
    | .overlayLord => "OverlayLord"
    | .groupLord => "GroupLord"
    | .girderLord => "GirderLord"
    | .multipassLord => "MultipassLord"
  eq := inferInstance
  mem_all a := by cases a <;> decide
  nodup := by decide

/-- How an element is controlled by others. -/
inductive SlaveStatus where
  | free
  | superSlave
  | multipassSlave
  | overlaySlave
  | groupSlave
deriving DecidableEq, Repr

/-- The names of the alternatives. -/
def SlaveStatus.choice : Choice SlaveStatus where
  typeName := "SlaveStatus"
  first := .free
  others := [.superSlave, .multipassSlave, .overlaySlave, .groupSlave]
  key
    | .free => "free"
    | .superSlave => "super_slave"
    | .multipassSlave => "multipass_slave"
    | .overlaySlave => "overlay_slave"
    | .groupSlave => "group_slave"
  label
    | .free => "Free"
    | .superSlave => "SuperSlave"
    | .multipassSlave => "MultipassSlave"
    | .overlaySlave => "OverlaySlave"
    | .groupSlave => "GroupSlave"
  eq := inferInstance
  mem_all a := by cases a <;> decide
  nodup := by decide

/-- How transfer maps are calculated and particles tracked. -/
inductive CalculationMethod where
  | bmadStandard
  | sympLiePtc
  | sympLieBmad
  | taylor
  | rungeKutta
  | linear
  | borisEasy
  | custom
deriving DecidableEq, Repr

/-- The names of the alternatives. -/
def CalculationMethod.choice : Choice CalculationMethod where
  typeName := "CalcMethod"
  first := .bmadStandard
  others := [.sympLiePtc, .sympLieBmad, .taylor, .rungeKutta, .linear, .borisEasy, .custom]
  key
    | .bmadStandard => "bmad_standard"
    | .sympLiePtc => "symp_lie_ptc"
    | .sympLieBmad => "symp_lie_bmad"
    | .taylor => "taylor"
    | .rungeKutta => "runge_kutta"
    | .linear => "linear"
    | .borisEasy => "boris_easy"
    | .custom => "custom"
  label
    | .bmadStandard => "BmadStandard"
    | .sympLiePtc => "SympLiePtc"
    | .sympLieBmad => "SympLieBmad"
    | .taylor => "Taylor"
    | .rungeKutta => "RungeKutta"
    | .linear => "Linear"
    | .borisEasy => "BorisEasy"
    | .custom => "Custom"
  eq := inferInstance
  mem_all a := by cases a <;> decide
  nodup := by decide

/-- Where the field in an element comes from. -/
inductive FieldSource where
  | bmadStandard
  | grid
  | map
  | custom
deriving DecidableEq, Repr

/-- The names of the alternatives. -/
def FieldSource.choice : Choice FieldSource where
  typeName := "FieldCalc"
  first := .bmadStandard
  others := [.grid, .map, .custom]
  key
    | .bmadStandard => "bmad_standard"
    | .grid => "grid"
    | .map => "map"
    | .custom => "custom"
  label
    | .bmadStandard => "BmadStandard"
    | .grid => "Grid"
    | .map => "Map"
    | .custom => "Custom"
  eq := inferInstance
  mem_all a := by cases a <;> decide
  nodup := by decide

/-- Where an element limits the aperture. -/
inductive AperturePlace where
  | exitEnd
  | entranceEnd
  | bothEnds
  | noEnd
deriving DecidableEq, Repr

/-- The names of the alternatives. -/
def AperturePlace.choice : Choice AperturePlace where
  typeName := "ApertureAt"
  first := .exitEnd
  others := [.entranceEnd, .bothEnds, .noEnd]
  key
    | .exitEnd => "exit_end"
    | .entranceEnd => "entrance_end"
    | .bothEnds => "both_ends"
    | .noEnd => "no_end"
  label
    | .exitEnd => "ExitEnd"
    | .entranceEnd => "EntranceEnd"
    | .bothEnds => "BothEnds"
    | .noEnd => "NoEnd"
  eq := inferInstance
  mem_all a := by cases a <;> decide
  nodup := by decide

/-- The shape of an aperture. -/
inductive ApertureShape where
  | rectangular
  | elliptical
deriving DecidableEq, Repr

/-- The names of the alternatives. -/
def ApertureShape.choice : Choice ApertureShape where
  typeName := "ApertureType"
  first := .rectangular
  others := [.elliptical]
  key
    | .rectangular => "rectangular"
    | .elliptical => "elliptical"
  label
    | .rectangular => "Rectangular"
    | .elliptical => "Elliptical"
  eq := inferInstance
  mem_all a := by cases a <;> decide
  nodup := by decide

/-- An element of a lattice. -/
structure Element where
  name : String
  typeName : String
  aliasName : String
  attributeName : String
  x : Dispersion
  y : Dispersion
  a : Twiss
  b : Twiss
  z : Twiss
  floor : FloorPosition
  value : List Float
  gen0 : Vector Float 6
  vec0 : Vector Float 6
  mat6 : Vector (Vector Float 6) 6
  cMat : Vector (Vector Float 2) 2
  gammaC : Float
  s : Float
  refTime : Float
  r : List (List Float)
  aPole : List Float
  bPole : List Float
  constants : List Float
  description : String
  taylor : Vector TaylorSeries 6
  wigglerTerms : List WigglerTerm
  wake : Option Wakefield
  kind : ElementKind
  subKey : Int32
  lordStatus : LordStatus
  slaveStatus : SlaveStatus
  ixValue : Int32
  nSlave : Int32
  ix1Slave : Int32
  ix2Slave : Int32
  nLord : Int32
  ic1Lord : Int32
  ic2Lord : Int32
  ixPointer : Int32
  ixx : Int32
  ixEle : Int32
  mat6CalcMethod : CalculationMethod
  trackingMethod : CalculationMethod
  fieldSource : FieldSource
  refOrbit : Int32
  taylorOrder : Int32
  apertureAt : AperturePlace
  apertureShape : ApertureShape
  symplectify : Bool
  modeFlip : Bool
  multipolesOn : Bool
  mapWithOffsets : Bool
  fieldMaster : Bool
  isOn : Bool
  oldIsOn : Bool
  logic : Bool
  onAGirder : Bool
  csrCalcOn : Bool
  offsetMovesAperture : Bool

namespace Element

/-- The fields of the record. -/
def shape : Shape Element :=
  .record "Ele"
    (.cons (.named "name" 1) .text <|
      .cons ((Field.named "type" 2).labelled "type_name") .text <|
      .cons (.named "alias" 3) .text <|
      .cons (.named "attribute_name" 4) .text <|
      .cons (.named "x" 5) Dispersion.shape <|
      .cons (.named "y" 6) Dispersion.shape <|
      .cons (.named "a" 7) Twiss.shape <|
      .cons (.named "b" 8) Twiss.shape <|
      .cons (.named "z" 9) Twiss.shape <|
      .cons (.named "floor" 10) FloorPosition.shape <|
      .cons (.named "value" 11) (.list .real) <|
      .cons (.named "gen0" 12) (.array 6 .real) <|
      .cons (.named "vec0" 13) (.array 6 .real) <|
      .cons (.named "mat6" 14) (.array 6 (.array 6 .real)) <|
      .cons (.named "c_mat" 15) (.array 2 (.array 2 .real)) <|
      .cons (.named "gamma_c" 16) .real <|
      .cons (.named "s" 17) .real <|
      .cons (.named "ref_time" 18) .real <|
      .cons (.named "r" 19) (.list (.list .real)) <|
      .cons (.named "a_pole" 20) (.list .real) <|
      .cons (.named "b_pole" 21) (.list .real) <|
      .cons (.named "const_arr" 22) (.list .real) <|
      .cons (.named "descrip" 23) .text <|
      .cons (.named "taylor" 23) (.array 6 TaylorSeries.shape) <|
      .cons ((Field.named "wig_term" 30).sized 2) (.list WigglerTerm.shape) <|
      .cons (.named "wake" 31) (.optional Wakefield.shape) <|
      .cons (.named "key" 32) (.choice ElementKind.choice) <|
      .cons (.named "sub_key" 33) .integer <|
      .cons (.named "lord_status" 34) (.choice LordStatus.choice) <|
      .cons (.named "slave_status" 35) (.choice SlaveStatus.choice) <|
      .cons (.named "ix_value" 36) .integer <|
      .cons (.named "n_slave" 37) .integer <|
      .cons (.named "ix1_slave" 38) .integer <|
      .cons (.named "ix2_slave" 39) .integer <|
      .cons (.named "n_lord" 40) .integer <|
      .cons (.named "ic1_lord" 41) .integer <|
      .cons (.named "ic2_lord" 42) .integer <|
      .cons (.named "ix_pointer" 43) .integer <|
      .cons (.named "ixx" 44) .integer <|
      .cons (.named "ix_ele" 45) .integer <|
      .cons (.named "mat6_calc_method" 46) (.choice CalculationMethod.choice) <|
      .cons (.named "tracking_method" 47) (.choice CalculationMethod.choice) <|
      .cons (.named "field_calc" 48) (.choice FieldSource.choice) <|
      .cons (.named "ref_orbit" 49) .integer <|
      .cons (.named "taylor_order" 50) .integer <|
      .cons (.named "aperture_at" 51) (.choice AperturePlace.choice) <|
      .cons (.named "aperture_type" 52) (.choice ApertureShape.choice) <|
      .cons (.named "symplectify" 53) .flag <|
      .cons (.named "mode_flip" 54) .flag <|
      .cons (.named "multipoles_on" 55) .flag <|
      .cons (.named "map_with_offsets" 56) .flag <|
      .cons (.named "field_master" 57) .flag <|
      .cons (.named "is_on" 58) .flag <|
      .cons (.named "old_is_on" 59) .flag <|
      .cons (.named "logic" 60) .flag <|
      .cons (.named "on_a_girder" 61) .flag <|
      .cons (.named "csr_calc_on" 62) .flag <|
      .cons (.named "offset_moves_aperture" 63) .flag <|
      .nil)
    { parts := fun r =>
        (r.name, r.typeName, r.aliasName, r.attributeName, r.x, r.y, r.a, r.b, r.z, r.floor,
        r.value, r.gen0, r.vec0, r.mat6, r.cMat, r.gammaC, r.s, r.refTime, r.r, r.aPole, r.bPole,
        r.constants, r.description, r.taylor, r.wigglerTerms, r.wake, r.kind, r.subKey,
        r.lordStatus, r.slaveStatus, r.ixValue, r.nSlave, r.ix1Slave, r.ix2Slave, r.nLord,
        r.ic1Lord, r.ic2Lord, r.ixPointer, r.ixx, r.ixEle, r.mat6CalcMethod, r.trackingMethod,
        r.fieldSource, r.refOrbit, r.taylorOrder, r.apertureAt, r.apertureShape, r.symplectify,
        r.modeFlip, r.multipolesOn, r.mapWithOffsets, r.fieldMaster, r.isOn, r.oldIsOn, r.logic,
        r.onAGirder, r.csrCalcOn, r.offsetMovesAperture, ())
      ofParts := fun
        (name, typeName, aliasName, attributeName, x, y, a, b, z, floor, value, gen0, vec0, mat6,
        cMat, gammaC, s, refTime, r, aPole, bPole, constants, description, taylor, wigglerTerms,
        wake, kind, subKey, lordStatus, slaveStatus, ixValue, nSlave, ix1Slave, ix2Slave, nLord,
        ic1Lord, ic2Lord, ixPointer, ixx, ixEle, mat6CalcMethod, trackingMethod, fieldSource,
        refOrbit, taylorOrder, apertureAt, apertureShape, symplectify, modeFlip, multipolesOn,
        mapWithOffsets, fieldMaster, isOn, oldIsOn, logic, onAGirder, csrCalcOn,
        offsetMovesAperture, ()) =>
        ⟨name, typeName, aliasName, attributeName, x, y, a, b, z, floor, value, gen0, vec0, mat6,
        cMat, gammaC, s, refTime, r, aPole, bPole, constants, description, taylor, wigglerTerms,
        wake, kind, subKey, lordStatus, slaveStatus, ixValue, nSlave, ix1Slave, ix2Slave, nLord,
        ic1Lord, ic2Lord, ixPointer, ixx, ixEle, mat6CalcMethod, trackingMethod, fieldSource,
        refOrbit, taylorOrder, apertureAt, apertureShape, symplectify, modeFlip, multipolesOn,
        mapWithOffsets, fieldMaster, isOn, oldIsOn, logic, onAGirder, csrCalcOn,
        offsetMovesAperture⟩
      ofParts_parts := fun _ => rfl
      parts_ofParts := fun _ => rfl }

instance : BEq Element :=
  ⟨shape.equal⟩

/-- The blank element of a name and a kind. -/
def named (name : String) (kind : ElementKind) : Element :=
  { shape.blank with name, kind }

end Element

end Accelerator
