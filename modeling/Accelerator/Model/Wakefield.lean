import Accelerator.Shape.Equality

/-!
# Wakefields

Short-range wakes as tables and as pseudo-modes, and long-range wake modes.
-/

namespace Accelerator

/-- A row of a tabulated short-range wake. -/
structure WakeSample where
  z : Float
  longitudinal : Float
  transverse : Float

namespace WakeSample

/-- The fields of the record. -/
def shape : Shape WakeSample :=
  .record "SrTableWake"
    (.cons (.named "z" 1) .real <|
      .cons (.named "longitudinal" 2) .real <|
      .cons (.named "transverse" 3) .real <|
      .nil)
    { parts := fun r =>
        (r.z, r.longitudinal, r.transverse, ())
      ofParts := fun
        (z, longitudinal, transverse, ()) =>
        ⟨z, longitudinal, transverse⟩
      ofParts_parts := fun _ => rfl
      parts_ofParts := fun _ => rfl }

instance : BEq WakeSample :=
  ⟨shape.equal⟩

end WakeSample

/-- A pseudo-mode of a short-range wake. -/
structure PseudoMode where
  amp : Float
  damp : Float
  k : Float
  phi : Float
  bSin : Float
  bCos : Float
  aSin : Float
  aCos : Float

namespace PseudoMode

/-- The fields of the record. -/
def shape : Shape PseudoMode :=
  .record "SrModeWake"
    (.cons (.named "amp" 1) .real <|
      .cons (.named "damp" 2) .real <|
      .cons (.named "k" 3) .real <|
      .cons (.named "phi" 4) .real <|
      .cons (.named "b_sin" 5) .real <|
      .cons (.named "b_cos" 6) .real <|
      .cons (.named "a_sin" 7) .real <|
      .cons (.named "a_cos" 8) .real <|
      .nil)
    { parts := fun r =>
        (r.amp, r.damp, r.k, r.phi, r.bSin, r.bCos, r.aSin, r.aCos, ())
      ofParts := fun
        (amp, damp, k, phi, bSin, bCos, aSin, aCos, ()) =>
        ⟨amp, damp, k, phi, bSin, bCos, aSin, aCos⟩
      ofParts_parts := fun _ => rfl
      parts_ofParts := fun _ => rfl }

instance : BEq PseudoMode :=
  ⟨shape.equal⟩

end PseudoMode

/-- A mode of a long-range wake. -/
structure CavityMode where
  freq : Float
  freqIn : Float
  rOverQ : Float
  q : Float
  angle : Float
  bSin : Float
  bCos : Float
  aSin : Float
  aCos : Float
  tRef : Float
  m : Int32
  polarized : Bool

namespace CavityMode

/-- The fields of the record. -/
def shape : Shape CavityMode :=
  .record "LrWake"
    (.cons (.named "freq" 1) .real <|
      .cons (.named "freq_in" 2) .real <|
      .cons (.named "r_over_q" 3) .real <|
      .cons (.named "q" 4) .real <|
      .cons (.named "angle" 5) .real <|
      .cons (.named "b_sin" 6) .real <|
      .cons (.named "b_cos" 7) .real <|
      .cons (.named "a_sin" 8) .real <|
      .cons (.named "a_cos" 9) .real <|
      .cons (.named "t_ref" 10) .real <|
      .cons (.named "m" 11) .integer <|
      .cons (.named "polarized" 12) .flag <|
      .nil)
    { parts := fun r =>
        (r.freq, r.freqIn, r.rOverQ, r.q, r.angle, r.bSin, r.bCos, r.aSin, r.aCos, r.tRef, r.m,
        r.polarized, ())
      ofParts := fun
        (freq, freqIn, rOverQ, q, angle, bSin, bCos, aSin, aCos, tRef, m, polarized, ()) =>
        ⟨freq, freqIn, rOverQ, q, angle, bSin, bCos, aSin, aCos, tRef, m, polarized⟩
      ofParts_parts := fun _ => rfl
      parts_ofParts := fun _ => rfl }

instance : BEq CavityMode :=
  ⟨shape.equal⟩

end CavityMode

/-- All wakefield data of an element. -/
structure Wakefield where
  srFile : String
  lrFile : String
  srTable : List WakeSample
  srModeLong : List PseudoMode
  srModeTrans : List PseudoMode
  lr : List CavityMode

namespace Wakefield

/-- The fields of the record. -/
def shape : Shape Wakefield :=
  .record "Wake"
    (.cons (.named "sr_file" 1) .text <|
      .cons (.named "lr_file" 2) .text <|
      .cons ((Field.named "sr_table" 0).sized 2) (.list WakeSample.shape) <|
      .cons ((Field.named "sr_mode_long" 0).sized 2) (.list PseudoMode.shape) <|
      .cons ((Field.named "sr_mode_trans" 10).sized 2) (.list PseudoMode.shape) <|
      .cons ((Field.named "lr" 0).sized 2) (.list CavityMode.shape) <|
      .nil)
    { parts := fun r =>
        (r.srFile, r.lrFile, r.srTable, r.srModeLong, r.srModeTrans, r.lr, ())
      ofParts := fun
        (srFile, lrFile, srTable, srModeLong, srModeTrans, lr, ()) =>
        ⟨srFile, lrFile, srTable, srModeLong, srModeTrans, lr⟩
      ofParts_parts := fun _ => rfl
      parts_ofParts := fun _ => rfl }

instance : BEq Wakefield :=
  ⟨shape.equal⟩

end Wakefield

end Accelerator
