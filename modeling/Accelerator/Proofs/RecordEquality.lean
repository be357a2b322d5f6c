import Accelerator.Catalogue
import Accelerator.Proofs.Groups

/-!
# Records are equal field by field

The equality of a record follows from its shape.  Written out for the records with arrays, lists,
tables or other records in them, it compares one field after the other: lists and arrays by
`allEqual`, tables by `matrixEqual`, so that lengths are compared before any entries are, and all
other fields by their own `==`.  Lattices are not equal by their shape; see `Lattice.beq_eq_and`.
-/

namespace Accelerator

theorem PhaseSpace.beq_eq (x y : PhaseSpace) :
    (x == y) = allEqual (· == ·) x.coords.toList y.coords.toList :=
  Bool.and_true _

theorem TaylorTerm.beq_eq (x y : TaylorTerm) :
    (x == y) =
      (x.coef == y.coef && allEqual (· == ·) x.exponents.toList y.exponents.toList) := by
  rw [← Bool.and_true (allEqual _ _ _)]
  rfl

theorem TaylorSeries.beq_eq (x y : TaylorSeries) :
    (x == y) = (x.reference == y.reference && allEqual (· == ·) x.terms y.terms) := by
  rw [← Bool.and_true (allEqual _ _ _)]
  rfl

theorem Wakefield.beq_eq (x y : Wakefield) :
    (x == y) = (x.srFile == y.srFile && x.lrFile == y.lrFile &&
      allEqual (· == ·) x.srTable y.srTable && allEqual (· == ·) x.srModeLong y.srModeLong &&
      allEqual (· == ·) x.srModeTrans y.srModeTrans && allEqual (· == ·) x.lr y.lr) := by
  -- `Fields.equal` brackets to the right, and ends with `true`.
  refine Eq.trans ?_ (Bool.and_true _)
  simp only [Bool.and_assoc]
  rfl

theorem BeamParameters.beq_eq (x y : BeamParameters) :
    (x == y) = (x.nPart == y.nPart && x.totalLength == y.totalLength &&
      x.unstableFactor == y.unstableFactor &&
      matrixEqual (· == ·) (rows x.turnWithRf) (rows y.turnWithRf) &&
      matrixEqual (· == ·) (rows x.turnNoRf) (rows y.turnNoRf) &&
      x.particle == y.particle && x.ixLost == y.ixLost && x.endLostAt == y.endLostAt &&
      x.geometry == y.geometry && x.ixx == y.ixx && x.stable == y.stable &&
      x.apertureLimitOn == y.apertureLimitOn && x.lost == y.lost) := by
  refine Eq.trans ?_ (Bool.and_true _)
  simp only [Bool.and_assoc, matrixEqual_rows]
  rfl

theorem RadiationIntegrals.beq_eq (x y : RadiationIntegrals) :
    (x == y) = (x.synchInt1 == y.synchInt1 && x.synchInt2 == y.synchInt2 &&
      x.synchInt3 == y.synchInt3 && x.sigEE == y.sigEE && x.sigZ == y.sigZ && x.eLoss == y.eLoss &&
      x.pzAperture == y.pzAperture && x.a == y.a && x.b == y.b && x.z == y.z &&
      x.linac == y.linac) := by
  refine Eq.trans ?_ (Bool.and_true _)
  simp only [Bool.and_assoc]
  rfl

theorem TrackingSettings.beq_eq (x y : TrackingSettings) :
    (x == y) = (allEqual (· == ·) x.dOrb.toList y.dOrb.toList &&
      x.maxApertureLimit == y.maxApertureLimit && x.gradLossSrWake == y.gradLossSrWake &&
      x.relTolerance == y.relTolerance && x.absTolerance == y.absTolerance &&
      x.relTolAdaptiveTracking == y.relTolAdaptiveTracking &&
      x.absTolAdaptiveTracking == y.absTolAdaptiveTracking && x.taylorOrder == y.taylorOrder &&
      x.defaultIntegOrder == y.defaultIntegOrder && x.defaultDsStep == y.defaultDsStep &&
      x.canonicalCoords == y.canonicalCoords &&
      x.significantLongitudinalLength == y.significantLongitudinalLength &&
      x.srWakesOn == y.srWakesOn && x.lrWakesOn == y.lrWakesOn &&
      x.mat6TrackSymmetric == y.mat6TrackSymmetric && x.autoBookkeeper == y.autoBookkeeper &&
      x.transSpaceChargeOn == y.transSpaceChargeOn &&
      x.coherentSynchRadOn == y.coherentSynchRadOn && x.spinTrackingOn == y.spinTrackingOn &&
      x.radiationDampingOn == y.radiationDampingOn &&
      x.radiationFluctuationsOn == y.radiationFluctuationsOn &&
      x.computeRefEnergy == y.computeRefEnergy &&
      x.conserveTaylorMaps == y.conserveTaylorMaps) := by
  refine Eq.trans ?_ (Bool.and_true _)
  simp only [Bool.and_assoc]
  rfl

theorem FieldSample.beq_eq (x y : FieldSample) :
    (x == y) = (allEqual (· == ·) x.e.toList y.e.toList &&
      allEqual (· == ·) x.b.toList y.b.toList && allEqual (· == ·) x.kick.toList y.kick.toList &&
      matrixEqual (· == ·) (rows x.de) (rows y.de) &&
      matrixEqual (· == ·) (rows x.db) (rows y.db) &&
      matrixEqual (· == ·) (rows x.dkick) (rows y.dkick) && x.kind == y.kind) := by
  refine Eq.trans ?_ (Bool.and_true _)
  simp only [Bool.and_assoc, matrixEqual_rows]
  rfl

theorem Element.beq_eq (x y : Element) :
    (x == y) = (x.name == y.name && x.typeName == y.typeName && x.aliasName == y.aliasName &&
      x.attributeName == y.attributeName && x.x == y.x && x.y == y.y && x.a == y.a && x.b == y.b &&
      x.z == y.z && x.floor == y.floor && allEqual (· == ·) x.value y.value &&
      allEqual (· == ·) x.gen0.toList y.gen0.toList &&
      allEqual (· == ·) x.vec0.toList y.vec0.toList &&
      matrixEqual (· == ·) (rows x.mat6) (rows y.mat6) &&
      matrixEqual (· == ·) (rows x.cMat) (rows y.cMat) && x.gammaC == y.gammaC && x.s == y.s &&
      x.refTime == y.refTime && matrixEqual (· == ·) x.r y.r &&
      allEqual (· == ·) x.aPole y.aPole && allEqual (· == ·) x.bPole y.bPole &&
      allEqual (· == ·) x.constants y.constants && x.description == y.description &&
      allEqual (· == ·) x.taylor.toList y.taylor.toList &&
      allEqual (· == ·) x.wigglerTerms y.wigglerTerms && x.wake == y.wake && x.kind == y.kind &&
      x.subKey == y.subKey && x.lordStatus == y.lordStatus && x.slaveStatus == y.slaveStatus &&
      x.ixValue == y.ixValue && x.nSlave == y.nSlave && x.ix1Slave == y.ix1Slave &&
      x.ix2Slave == y.ix2Slave && x.nLord == y.nLord && x.ic1Lord == y.ic1Lord &&
      x.ic2Lord == y.ic2Lord && x.ixPointer == y.ixPointer && x.ixx == y.ixx &&
      x.ixEle == y.ixEle && x.mat6CalcMethod == y.mat6CalcMethod &&
      x.trackingMethod == y.trackingMethod && x.fieldSource == y.fieldSource &&
      x.refOrbit == y.refOrbit && x.taylorOrder == y.taylorOrder &&
      x.apertureAt == y.apertureAt && x.apertureShape == y.apertureShape &&
      x.symplectify == y.symplectify && x.modeFlip == y.modeFlip &&
      x.multipolesOn == y.multipolesOn && x.mapWithOffsets == y.mapWithOffsets &&
      x.fieldMaster == y.fieldMaster && x.isOn == y.isOn && x.oldIsOn == y.oldIsOn &&
      x.logic == y.logic && x.onAGirder == y.onAGirder && x.csrCalcOn == y.csrCalcOn &&
      x.offsetMovesAperture == y.offsetMovesAperture) := by
  refine Eq.trans ?_ (Bool.and_true _)
  simp only [Bool.and_assoc, matrixEqual_rows, ← bothEqual_eq_beq (α := Wakefield)]
  rfl

end Accelerator
