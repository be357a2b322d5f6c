import Accelerator.Shape.Equality

/-!
# Radiation integrals

What synchrotron radiation does to a beam.
-/

namespace Accelerator

/-- Radiation integrals and damping of one normal mode. -/
structure NormalMode where
  emittance : Float
  synchInt4 : Float
  synchInt5 : Float
  jDamp : Float
  alphaDamp : Float
  chrom : Float
  tune : Float

namespace NormalMode

/-- The fields of the record. -/
def shape : Shape NormalMode :=
  .record "Amode"
    (.cons (.named "emittance" 1) .real <|
      .cons (.named "synch_int4" 2) .real <|
      .cons (.named "synch_int5" 3) .real <|
      .cons (.named "j_damp" 4) .real <|
      .cons (.named "alpha_damp" 5) .real <|
      .cons (.named "chrom" 6) .real <|
      .cons (.named "tune" 7) .real <|
      .nil)
    { parts := fun r =>
        (r.emittance, r.synchInt4, r.synchInt5, r.jDamp, r.alphaDamp, r.chrom, r.tune, ())
      ofParts := fun
        (emittance, synchInt4, synchInt5, jDamp, alphaDamp, chrom, tune, ()) =>
        ⟨emittance, synchInt4, synchInt5, jDamp, alphaDamp, chrom, tune⟩
      ofParts_parts := fun _ => rfl
      parts_ofParts := fun _ => rfl }

instance : BEq NormalMode :=
  ⟨shape.equal⟩

end NormalMode

/-- Radiation integrals of a linear accelerator. -/
structure LinacIntegrals where
  i2E4 : Float
  i3E7 : Float
  i5aE6 : Float
  i5bE6 : Float
  sigE1 : Float
  aEmittanceEnd : Float
  bEmittanceEnd : Float

namespace LinacIntegrals

/-- The fields of the record. -/
def shape : Shape LinacIntegrals :=
  .record "LinacMode"
    (.cons (.named "i2_e4" 1) .real <|
      .cons (.named "i3_e7" 2) .real <|
      .cons (.named "i5a_e6" 3) .real <|
      .cons (.named "i5b_e6" 4) .real <|
      .cons (.named "sig_e1" 5) .real <|
      .cons (.named "a_emittance_end" 6) .real <|
      .cons (.named "b_emittance_end" 7) .real <|
      .nil)
    { parts := fun r =>
        (r.i2E4, r.i3E7, r.i5aE6, r.i5bE6, r.sigE1, r.aEmittanceEnd, r.bEmittanceEnd, ())
      ofParts := fun
        (i2E4, i3E7, i5aE6, i5bE6, sigE1, aEmittanceEnd, bEmittanceEnd, ()) =>
        ⟨i2E4, i3E7, i5aE6, i5bE6, sigE1, aEmittanceEnd, bEmittanceEnd⟩
      ofParts_parts := fun _ => rfl
      parts_ofParts := fun _ => rfl }

instance : BEq LinacIntegrals :=
  ⟨shape.equal⟩

end LinacIntegrals

/-- Radiation integrals of a whole lattice, and the beam sizes that follow from them. -/
structure RadiationIntegrals where
  synchInt1 : Float
  synchInt2 : Float
  synchInt3 : Float
  sigEE : Float
  sigZ : Float
  eLoss : Float
  pzAperture : Float
  a : NormalMode
  b : NormalMode
  z : NormalMode
  linac : LinacIntegrals

namespace RadiationIntegrals

/-- The fields of the record. -/
def shape : Shape RadiationIntegrals :=
  .record "Modes"
    (.cons (.named "synch_int1" 1) .real <|
      .cons (.named "synch_int2" 2) .real <|
      .cons (.named "synch_int3" 3) .real <|
      .cons (.named "sig_e_e" 4) .real <|
      .cons (.named "sig_z" 5) .real <|
      .cons (.named "e_loss" 6) .real <|
      .cons (.named "pz_aperture" 7) .real <|
      .cons (.named "a" 8) NormalMode.shape <|
      .cons (.named "b" 9) NormalMode.shape <|
      .cons (.named "z" 10) NormalMode.shape <|
      .cons (.named "lin" 11) LinacIntegrals.shape <|
      .nil)
    { parts := fun r =>
        (r.synchInt1, r.synchInt2, r.synchInt3, r.sigEE, r.sigZ, r.eLoss, r.pzAperture, r.a, r.b,
        r.z, r.linac, ())
      ofParts := fun
        (synchInt1, synchInt2, synchInt3, sigEE, sigZ, eLoss, pzAperture, a, b, z, linac, ()) =>
        ⟨synchInt1, synchInt2, synchInt3, sigEE, sigZ, eLoss, pzAperture, a, b, z, linac⟩
      ofParts_parts := fun _ => rfl
      parts_ofParts := fun _ => rfl }

instance : BEq RadiationIntegrals :=
  ⟨shape.equal⟩

end RadiationIntegrals

end Accelerator
