import Accelerator.Shape.Equality

/-!
# Beam optics

Where particles are, and the optics functions of a beam at one place.
-/

namespace Accelerator

/-- Phase-space coordinates of a particle: `x`, `px`, `y`, `py`, `z`, `pz`. -/
structure PhaseSpace where
  coords : Vector Float 6

namespace PhaseSpace

/-- The fields of the record. -/
def shape : Shape PhaseSpace :=
  .record "Coord"
    (.cons (.named "vec" 1) (.array 6 .real) <|
      .nil)
    { parts := fun r =>
        (r.coords, ())
      ofParts := fun
        (coords, ()) =>
        ⟨coords⟩
      ofParts_parts := fun _ => rfl
      parts_ofParts := fun _ => rfl }

instance : BEq PhaseSpace :=
  ⟨shape.equal⟩

end PhaseSpace

/-- Position and orientation of the exit end of an element on the floor. -/
structure FloorPosition where
  x : Float
  y : Float
  z : Float
  theta : Float
  phi : Float
  psi : Float

namespace FloorPosition

/-- The fields of the record. -/
def shape : Shape FloorPosition :=
  .record "FloorPosition"
    (.cons (.named "x" 1) .real <|
      .cons (.named "y" 2) .real <|
      .cons (.named "z" 3) .real <|
      .cons (.named "theta" 4) .real <|
      .cons (.named "phi" 5) .real <|
      .cons (.named "psi" 6) .real <|
      .nil)
    { parts := fun r =>
        (r.x, r.y, r.z, r.theta, r.phi, r.psi, ())
      ofParts := fun
        (x, y, z, theta, phi, psi, ()) =>
        ⟨x, y, z, theta, phi, psi⟩
      ofParts_parts := fun _ => rfl
      parts_ofParts := fun _ => rfl }

instance : BEq FloorPosition :=
  ⟨shape.equal⟩

end FloorPosition

/-- Twiss parameters of one normal mode. -/
structure Twiss where
  beta : Float
  alpha : Float
  gamma : Float
  phi : Float
  eta : Float
  etap : Float
  sigma : Float
  sigmaP : Float
  emit : Float
  normEmit : Float

namespace Twiss

/-- The fields of the record. -/
def shape : Shape Twiss :=
  .record "Twiss"
    (.cons (.named "beta" 1) .real <|
      .cons (.named "alpha" 2) .real <|
      .cons (.named "gamma" 3) .real <|
      .cons (.named "phi" 4) .real <|
      .cons (.named "eta" 5) .real <|
      .cons (.named "etap" 6) .real <|
      .cons (.named "sigma" 7) .real <|
      .cons (.named "sigma_p" 8) .real <|
      .cons (.named "emit" 9) .real <|
      .cons (.named "norm_emit" 10) .real <|
      .nil)
    { parts := fun r =>
        (r.beta, r.alpha, r.gamma, r.phi, r.eta, r.etap, r.sigma, r.sigmaP, r.emit, r.normEmit, ())
      ofParts := fun
        (beta, alpha, gamma, phi, eta, etap, sigma, sigmaP, emit, normEmit, ()) =>
        ⟨beta, alpha, gamma, phi, eta, etap, sigma, sigmaP, emit, normEmit⟩
      ofParts_parts := fun _ => rfl
      parts_ofParts := fun _ => rfl }

instance : BEq Twiss :=
  ⟨shape.equal⟩

end Twiss

/-- Dispersion in one transverse plane. -/
structure Dispersion where
  eta : Float
  etap : Float

namespace Dispersion

/-- The fields of the record. -/
def shape : Shape Dispersion :=
  .record "XyDisp"
    (.cons (.named "eta" 1) .real <|
      .cons (.named "etap" 2) .real <|
      .nil)
    { parts := fun r =>
        (r.eta, r.etap, ())
      ofParts := fun
        (eta, etap, ()) =>
        ⟨eta, etap⟩
      ofParts_parts := fun _ => rfl
      parts_ofParts := fun _ => rfl }

instance : BEq Dispersion :=
  ⟨shape.equal⟩

end Dispersion

/-- Tune, emittance and chromaticity of one plane of a whole lattice. -/
structure PlaneSummary where
  tune : Float
  emit : Float
  chrom : Float

namespace PlaneSummary

/-- The fields of the record. -/
def shape : Shape PlaneSummary :=
  .record "ModeInfo"
    (.cons (.named "tune" 1) .real <|
      .cons (.named "emit" 2) .real <|
      .cons (.named "chrom" 3) .real <|
      .nil)
    { parts := fun r =>
        (r.tune, r.emit, r.chrom, ())
      ofParts := fun
        (tune, emit, chrom, ()) =>
        ⟨tune, emit, chrom⟩
      ofParts_parts := fun _ => rfl
      parts_ofParts := fun _ => rfl }

instance : BEq PlaneSummary :=
  ⟨shape.equal⟩

end PlaneSummary

end Accelerator
