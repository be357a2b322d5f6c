import Accelerator.Shape.Equality

/-!
# Settings

Parameters and settings of a whole lattice.
-/

namespace Accelerator

/-- Whether a lattice closes on itself. -/
inductive Geometry where
  | linear
  | circular
deriving DecidableEq, Repr

/-- The names of the alternatives. -/
def Geometry.choice : Choice Geometry where
  typeName := "LatticeType"
  first := .linear
  others := [.circular]
  key
    | .linear => "linear"
    | .circular => "circular"
  label
    | .linear => "Linear"
    | .circular => "Circular"
  eq := inferInstance
  mem_all a := by cases a <;> decide
  nodup := by decide

/-- Beam and stability parameters of a whole lattice. -/
structure BeamParameters where
  nPart : Float
  totalLength : Float
  unstableFactor : Float
  /-- One-turn matrix with the radio frequency on. -/
  turnWithRf : Vector (Vector Float 6) 6
  /-- One-turn matrix with the radio frequency off. -/
  turnNoRf : Vector (Vector Float 6) 6
  particle : Int32
  ixLost : Int32
  endLostAt : Int32
  geometry : Geometry
  ixx : Int32
  stable : Bool
  apertureLimitOn : Bool
  lost : Bool

namespace BeamParameters

/-- The fields of the record. -/
def shape : Shape BeamParameters :=
  .record "Param"
    (.cons (.named "n_part" 1) .real <|
      .cons (.named "total_length" 2) .real <|
      .cons (.named "unstable_factor" 3) .real <|
      .cons (.named "t1_with_rf" 4) (.array 6 (.array 6 .real)) <|
      .cons (.named "t1_no_rf" 5) (.array 6 (.array 6 .real)) <|
      .cons (.named "particle" 6) .integer <|
      .cons (.named "ix_lost" 7) .integer <|
      .cons (.named "end_lost_at" 8) .integer <|
      .cons (.named "lattice_type" 9) (.choice Geometry.choice) <|
      .cons (.named "ixx" 10) .integer <|
      .cons (.named "stable" 11) .flag <|
      .cons (.named "aperture_limit_on" 12) .flag <|
      .cons (.named "lost" 13) .flag <|
      .nil)
    { parts := fun r =>
        (r.nPart, r.totalLength, r.unstableFactor, r.turnWithRf, r.turnNoRf, r.particle, r.ixLost,
        r.endLostAt, r.geometry, r.ixx, r.stable, r.apertureLimitOn, r.lost, ())
      ofParts := fun
        (nPart, totalLength, unstableFactor, turnWithRf, turnNoRf, particle, ixLost, endLostAt,
        geometry, ixx, stable, apertureLimitOn, lost, ()) =>
        ⟨nPart, totalLength, unstableFactor, turnWithRf, turnNoRf, particle, ixLost, endLostAt,
        geometry, ixx, stable, apertureLimitOn, lost⟩
      ofParts_parts := fun _ => rfl
      parts_ofParts := fun _ => rfl }

instance : BEq BeamParameters :=
  ⟨shape.equal⟩

end BeamParameters

/-- Tracking settings that all elements of a lattice share. -/
structure TrackingSettings where
  dOrb : Vector Float 6
  maxApertureLimit : Float
  gradLossSrWake : Float
  relTolerance : Float
  absTolerance : Float
  relTolAdaptiveTracking : Float
  absTolAdaptiveTracking : Float
  taylorOrder : Int32
  defaultIntegOrder : Int32
  defaultDsStep : Float
  canonicalCoords : Bool
  significantLongitudinalLength : Float
  srWakesOn : Bool
  lrWakesOn : Bool
  mat6TrackSymmetric : Bool
  autoBookkeeper : Bool
  transSpaceChargeOn : Bool
  coherentSynchRadOn : Bool
  spinTrackingOn : Bool
  radiationDampingOn : Bool
  radiationFluctuationsOn : Bool
  computeRefEnergy : Bool
  conserveTaylorMaps : Bool

namespace TrackingSettings

/-- The fields of the record. -/
def shape : Shape TrackingSettings :=
  .record "CommonSettings"
    (.cons (.named "d_orb" 1) (.array 6 .real) <|
      .cons (.named "max_aperture_limit" 2) .real <|
      .cons (.named "grad_loss_sr_wake" 3) .real <|
      .cons (.named "rel_tolerance" 4) .real <|
      .cons (.named "abs_tolerance" 5) .real <|
      .cons (.named "rel_tol_adaptive_tracking" 6) .real <|
      .cons (.named "abs_tol_adaptive_tracking" 7) .real <|
      .cons (.named "taylor_order" 8) .integer <|
      .cons (.named "default_integ_order" 9) .integer <|
      .cons (.named "default_ds_step" 10) .real <|
      .cons (.named "canonical_coords" 11) .flag <|
      .cons (.named "significant_longitudinal_length" 12) .real <|
      .cons (.named "sr_wakes_on" 13) .flag <|
      .cons (.named "lr_wakes_on" 14) .flag <|
      .cons (.named "mat6_track_symmetric" 15) .flag <|
      .cons (.named "auto_bookkeeper" 16) .flag <|
      .cons (.named "trans_space_charge_on" 17) .flag <|
      .cons (.named "coherent_synch_rad_on" 18) .flag <|
      .cons (.named "spin_tracking_on" 19) .flag <|
      .cons (.named "radiation_damping_on" 20) .flag <|
      .cons (.named "radiation_fluctuations_on" 21) .flag <|
      .cons (.named "compute_ref_energy" 22) .flag <|
      .cons (.named "conserve_taylor_maps" 23) .flag <|
      .nil)
    { parts := fun r =>
        (r.dOrb, r.maxApertureLimit, r.gradLossSrWake, r.relTolerance, r.absTolerance,
        r.relTolAdaptiveTracking, r.absTolAdaptiveTracking, r.taylorOrder, r.defaultIntegOrder,
        r.defaultDsStep, r.canonicalCoords, r.significantLongitudinalLength, r.srWakesOn,
        r.lrWakesOn, r.mat6TrackSymmetric, r.autoBookkeeper, r.transSpaceChargeOn,
        r.coherentSynchRadOn, r.spinTrackingOn, r.radiationDampingOn, r.radiationFluctuationsOn,
        r.computeRefEnergy, r.conserveTaylorMaps, ())
      ofParts := fun
        (dOrb, maxApertureLimit, gradLossSrWake, relTolerance, absTolerance, relTolAdaptiveTracking,
        absTolAdaptiveTracking, taylorOrder, defaultIntegOrder, defaultDsStep, canonicalCoords,
        significantLongitudinalLength, srWakesOn, lrWakesOn, mat6TrackSymmetric, autoBookkeeper,
        transSpaceChargeOn, coherentSynchRadOn, spinTrackingOn, radiationDampingOn,
        radiationFluctuationsOn, computeRefEnergy, conserveTaylorMaps, ()) =>
        ⟨dOrb, maxApertureLimit, gradLossSrWake, relTolerance, absTolerance, relTolAdaptiveTracking,
        absTolAdaptiveTracking, taylorOrder, defaultIntegOrder, defaultDsStep, canonicalCoords,
        significantLongitudinalLength, srWakesOn, lrWakesOn, mat6TrackSymmetric, autoBookkeeper,
        transSpaceChargeOn, coherentSynchRadOn, spinTrackingOn, radiationDampingOn,
        radiationFluctuationsOn, computeRefEnergy, conserveTaylorMaps⟩
      ofParts_parts := fun _ => rfl
      parts_ofParts := fun _ => rfl }

instance : BEq TrackingSettings :=
  ⟨shape.equal⟩

end TrackingSettings

end Accelerator
