import Accelerator.Edit
import Accelerator.Model.Lattice
import Accelerator.Model.Radiation

/-!
# Edits of the records

The edits of the ten record types that hold arrays, lists or other records. Each changes one field
and leaves all others as they are.
-/

namespace Accelerator

/-- One edit for each field, in order. -/
def PhaseSpace.edits : List (Edit PhaseSpace) := [
  .total "vec" fun p => { p with coords := raiseAt p.coords 3 }]

/-- One edit for each field, in order. -/
def TaylorTerm.edits : List (Edit TaylorTerm) := [
  .total "coef" fun t => { t with coef := raise t.coef },
  .counter "exp" increment (·.exponents[5]) fun t n =>
    { t with exponents := t.exponents.set 5 n }]

/-- One edit for each field, in order. -/
def TaylorSeries.edits : List (Edit TaylorSeries) := [
  .total "ref" fun t => { t with reference := raise t.reference },
  .total "term" fun t => { t with terms := extend t.terms TaylorTerm.shape.blank }]

/-- One edit for each field, in order. -/
def Wakefield.edits : List (Edit Wakefield) := [
  .total "sr_file" fun w => { w with srFile := lengthen w.srFile },
  .total "lr_file" fun w => { w with lrFile := lengthen w.lrFile },
  .total "sr_table" fun w => { w with srTable := extend w.srTable WakeSample.shape.blank },
  .total "sr_mode_long" fun w =>
    { w with srModeLong := extend w.srModeLong PseudoMode.shape.blank },
  .total "sr_mode_trans" fun w =>
    { w with srModeTrans := extend w.srModeTrans PseudoMode.shape.blank },
  .total "lr" fun w => { w with lr := extend w.lr CavityMode.shape.blank }]

/-- One edit for each field, in order. -/
def BeamParameters.edits : List (Edit BeamParameters) := [
  .total "n_part" fun p => { p with nPart := raise p.nPart },
  .total "total_length" fun p => { p with totalLength := raise p.totalLength },
  .total "unstable_factor" fun p => { p with unstableFactor := raise p.unstableFactor },
  .total "t1_with_rf" fun p => { p with turnWithRf := raiseIn p.turnWithRf 0 5 },
  .total "t1_no_rf" fun p => { p with turnNoRf := raiseIn p.turnNoRf 5 0 },
  .counter "particle" increment (·.particle) fun p n => { p with particle := n },
  .counter "ix_lost" increment (·.ixLost) fun p n => { p with ixLost := n },
  .counter "end_lost_at" increment (·.endLostAt) fun p n => { p with endLostAt := n },
  .total "lattice_type" fun p =>
    { p with geometry := Geometry.choice.next p.geometry },
  .counter "ixx" increment (·.ixx) fun p n => { p with ixx := n },
  .total "stable" fun p => { p with stable := !p.stable },
  .total "aperture_limit_on" fun p => { p with apertureLimitOn := !p.apertureLimitOn },
  .total "lost" fun p => { p with lost := !p.lost }]

/-- One edit for each field, in order. -/
def RadiationIntegrals.edits : List (Edit RadiationIntegrals) := [
  .total "synch_int1" fun r => { r with synchInt1 := raise r.synchInt1 },
  .total "synch_int2" fun r => { r with synchInt2 := raise r.synchInt2 },
  .total "synch_int3" fun r => { r with synchInt3 := raise r.synchInt3 },
  .total "sig_e_e" fun r => { r with sigEE := raise r.sigEE },
  .total "sig_z" fun r => { r with sigZ := raise r.sigZ },
  .total "e_loss" fun r => { r with eLoss := raise r.eLoss },
  .total "pz_aperture" fun r => { r with pzAperture := raise r.pzAperture },
  .total "a" fun r =>
    { r with a := { r.a with tune := raise r.a.tune } },
  .total "b" fun r =>
    { r with b := { r.b with chrom := raise r.b.chrom } },
  .total "z" fun r =>
    { r with z := { r.z with emittance := raise r.z.emittance } },
  .total "lin" fun r =>
    { r with linac := { r.linac with sigE1 := raise r.linac.sigE1 } }]

/-- One edit for each field, in order. -/
def TrackingSettings.edits : List (Edit TrackingSettings) := [
  .total "d_orb" fun s => { s with dOrb := raiseAt s.dOrb 2 },
  .total "max_aperture_limit" fun s => { s with maxApertureLimit := raise s.maxApertureLimit },
  .total "grad_loss_sr_wake" fun s => { s with gradLossSrWake := raise s.gradLossSrWake },
  .total "rel_tolerance" fun s => { s with relTolerance := raise s.relTolerance },
  .total "abs_tolerance" fun s => { s with absTolerance := raise s.absTolerance },
  .total "rel_tol_adaptive_tracking" fun s =>
    { s with relTolAdaptiveTracking := raise s.relTolAdaptiveTracking },
  .total "abs_tol_adaptive_tracking" fun s =>
    { s with absTolAdaptiveTracking := raise s.absTolAdaptiveTracking },
  .counter "taylor_order" increment (·.taylorOrder) fun s n => { s with taylorOrder := n },
  .counter "default_integ_order" increment (·.defaultIntegOrder) fun s n =>
    { s with defaultIntegOrder := n },
  .total "default_ds_step" fun s => { s with defaultDsStep := raise s.defaultDsStep },
  .total "canonical_coords" fun s => { s with canonicalCoords := !s.canonicalCoords },
  .total "significant_longitudinal_length" fun s =>
    { s with significantLongitudinalLength := raise s.significantLongitudinalLength },
  .total "sr_wakes_on" fun s => { s with srWakesOn := !s.srWakesOn },
  .total "lr_wakes_on" fun s => { s with lrWakesOn := !s.lrWakesOn },
  .total "mat6_track_symmetric" fun s => { s with mat6TrackSymmetric := !s.mat6TrackSymmetric },
  .total "auto_bookkeeper" fun s => { s with autoBookkeeper := !s.autoBookkeeper },
  .total "trans_space_charge_on" fun s => { s with transSpaceChargeOn := !s.transSpaceChargeOn },
  .total "coherent_synch_rad_on" fun s => { s with coherentSynchRadOn := !s.coherentSynchRadOn },
  .total "spin_tracking_on" fun s => { s with spinTrackingOn := !s.spinTrackingOn },
  .total "radiation_damping_on" fun s => { s with radiationDampingOn := !s.radiationDampingOn },
  .total "radiation_fluctuations_on" fun s =>
    { s with radiationFluctuationsOn := !s.radiationFluctuationsOn },
  .total "compute_ref_energy" fun s => { s with computeRefEnergy := !s.computeRefEnergy },
  .total "conserve_taylor_maps" fun s => { s with conserveTaylorMaps := !s.conserveTaylorMaps }]

/-- One edit for each field, in order. -/
def FieldSample.edits : List (Edit FieldSample) := [
  .total "e" fun f => { f with e := raiseAt f.e 0 },
  .total "b" fun f => { f with b := raiseAt f.b 1 },
  .total "kick" fun f => { f with kick := raiseAt f.kick 2 },
  .total "de" fun f => { f with de := raiseIn f.de 0 1 },
  .total "db" fun f => { f with db := raiseIn f.db 2 2 },
  .total "dkick" fun f => { f with dkick := raiseIn f.dkick 1 0 },
  .counter "kind" increment (·.kind) fun f n => { f with kind := n }]

/-- One edit for each field, in order. -/
def Element.edits : List (Edit Element) := [
  .total "name" fun e => { e with name := lengthen e.name },
  .total "type" fun e => { e with typeName := lengthen e.typeName },
  .total "alias" fun e => { e with aliasName := lengthen e.aliasName },
  .total "attribute_name" fun e => { e with attributeName := lengthen e.attributeName },
  .total "x" fun e =>
    { e with x := { e.x with eta := raise e.x.eta } },
  .total "y" fun e =>
    { e with y := { e.y with etap := raise e.y.etap } },
  .total "a" fun e =>
    { e with a := { e.a with beta := raise e.a.beta } },
  .total "b" fun e =>
    { e with b := { e.b with alpha := raise e.b.alpha } },
  .total "z" fun e =>
    { e with z := { e.z with normEmit := raise e.z.normEmit } },
  .total "floor" fun e =>
    { e with floor := { e.floor with psi := raise e.floor.psi } },
  .total "value" fun e => { e with value := extend e.value 0 },
  .total "gen0" fun e => { e with gen0 := raiseAt e.gen0 5 },
  .total "vec0" fun e => { e with vec0 := raiseAt e.vec0 0 },
  .total "mat6" fun e => { e with mat6 := raiseIn e.mat6 2 4 },
  .total "c_mat" fun e => { e with cMat := raiseIn e.cMat 1 0 },
  .total "gamma_c" fun e => { e with gammaC := raise e.gammaC },
  .total "s" fun e => { e with s := raise e.s },
  .total "ref_time" fun e => { e with refTime := raise e.refTime },
  .total "r" fun e => { e with r := extend e.r [] },
  .total "a_pole" fun e => { e with aPole := extend e.aPole 0 },
  .total "b_pole" fun e => { e with bPole := extend e.bPole 0 },
  .total "const_arr" fun e => { e with constants := extend e.constants 0 },
  .total "descrip" fun e => { e with description := lengthen e.description },
  .total "taylor" fun e =>
    { e with taylor :=
          e.taylor.set 3 { e.taylor[3] with reference := raise e.taylor[3].reference } },
  .total "wig_term" fun e =>
    { e with wigglerTerms := extend e.wigglerTerms WigglerTerm.shape.blank },
  .total "wake" fun e =>
    { e with wake := match e.wake with
          | some _ => none
          | none => some Wakefield.shape.blank },
  .total "key" fun e =>
    { e with kind := ElementKind.choice.next e.kind },
  .counter "sub_key" increment (·.subKey) fun e n => { e with subKey := n },
  .total "lord_status" fun e =>
    { e with lordStatus := LordStatus.choice.next e.lordStatus },
  .total "slave_status" fun e =>
    { e with slaveStatus := SlaveStatus.choice.next e.slaveStatus },
  .counter "ix_value" increment (·.ixValue) fun e n => { e with ixValue := n },
  .counter "n_slave" increment (·.nSlave) fun e n => { e with nSlave := n },
  .counter "ix1_slave" increment (·.ix1Slave) fun e n => { e with ix1Slave := n },
  .counter "ix2_slave" increment (·.ix2Slave) fun e n => { e with ix2Slave := n },
  .counter "n_lord" increment (·.nLord) fun e n => { e with nLord := n },
  .counter "ic1_lord" increment (·.ic1Lord) fun e n => { e with ic1Lord := n },
  .counter "ic2_lord" increment (·.ic2Lord) fun e n => { e with ic2Lord := n },
  .counter "ix_pointer" increment (·.ixPointer) fun e n => { e with ixPointer := n },
  .counter "ixx" increment (·.ixx) fun e n => { e with ixx := n },
  .counter "ix_ele" increment (·.ixEle) fun e n => { e with ixEle := n },
  .total "mat6_calc_method" fun e =>
    { e with mat6CalcMethod := CalculationMethod.choice.next e.mat6CalcMethod },
  .total "tracking_method" fun e =>
    { e with trackingMethod := CalculationMethod.choice.next e.trackingMethod },
  .total "field_calc" fun e =>
    { e with fieldSource := FieldSource.choice.next e.fieldSource },
  .counter "ref_orbit" increment (·.refOrbit) fun e n => { e with refOrbit := n },
  .counter "taylor_order" increment (·.taylorOrder) fun e n => { e with taylorOrder := n },
  .total "aperture_at" fun e =>
    { e with apertureAt := AperturePlace.choice.next e.apertureAt },
  .total "aperture_type" fun e =>
    { e with apertureShape := ApertureShape.choice.next e.apertureShape },
  .total "symplectify" fun e => { e with symplectify := !e.symplectify },
  .total "mode_flip" fun e => { e with modeFlip := !e.modeFlip },
  .total "multipoles_on" fun e => { e with multipolesOn := !e.multipolesOn },
  .total "map_with_offsets" fun e => { e with mapWithOffsets := !e.mapWithOffsets },
  .total "field_master" fun e => { e with fieldMaster := !e.fieldMaster },
  .total "is_on" fun e => { e with isOn := !e.isOn },
  .total "old_is_on" fun e => { e with oldIsOn := !e.oldIsOn },
  .total "logic" fun e => { e with logic := !e.logic },
  .total "on_a_girder" fun e => { e with onAGirder := !e.onAGirder },
  .total "csr_calc_on" fun e => { e with csrCalcOn := !e.csrCalcOn },
  .total "offset_moves_aperture" fun e =>
    { e with offsetMovesAperture := !e.offsetMovesAperture }]

/-- One edit for each field, in order. -/
def Lattice.edits : List (Edit Lattice) := [
  .total "name" fun l => { l with name := lengthen l.name },
  .total "lattice" fun l => { l with lattice := lengthen l.lattice },
  .total "input_file_name" fun l => { l with inputFileName := lengthen l.inputFileName },
  .total "title" fun l => { l with title := lengthen l.title },
  .total "x" fun l =>
    { l with x := { l.x with tune := raise l.x.tune } },
  .total "y" fun l =>
    { l with y := { l.y with emit := raise l.y.emit } },
  .total "z" fun l =>
    { l with z := { l.z with chrom := raise l.z.chrom } },
  .total "param" fun l =>
    { l with parameters := { l.parameters with lost := !l.parameters.lost } },
  .counter "version" increment (·.version) fun l n => { l with version := n },
  .counter "n_ele_use" increment (·.nEleUse) fun l n => { l with nEleUse := n },
  .counter "n_ele_max" decrement (·.nEleMax) fun l n => { l with nEleMax := n },
  .counter "n_control_max" increment (·.nControlMax) fun l n => { l with nControlMax := n },
  .counter "n_ic_max" increment (·.nIcMax) fun l n => { l with nIcMax := n },
  .counter "input_taylor_order" increment (·.inputTaylorOrder) fun l n =>
    { l with inputTaylorOrder := n },
  .total "ele_init" fun l =>
    { l with template := { l.template with s := raise l.template.s } },
  .total "control" fun l => { l with control := extend l.control ControlLink.shape.blank },
  .total "ic" fun l => { l with ic := extend l.ic 0 },
  ⟨"ele", fun l =>
      match l.elements[1]? with
      | some e => .ok { l with elements := l.elements.set 1 { e with s := raise e.s } }
      | none => .error (.outOfBounds l.elements.length 1)⟩]

end Accelerator
