import Accelerator.Shape.Equality

/-!
# Maps and fields

Taylor maps, wiggler fields and field samples.
-/

namespace Accelerator

/-- A monomial `coef * x^e₁ * px^e₂ * … * pz^e₆` of a map. -/
structure TaylorTerm where
  coef : Float
  exponents : Vector Int32 6

namespace TaylorTerm

/-- The fields of the record. -/
def shape : Shape TaylorTerm :=
  .record "TaylorTerm"
    (.cons (.named "coef" 1) .real <|
      .cons (.named "exp" 2) (.array 6 .integer) <|
      .nil)
    { parts := fun r =>
        (r.coef, r.exponents, ())
      ofParts := fun
        (coef, exponents, ()) =>
        ⟨coef, exponents⟩
      ofParts_parts := fun _ => rfl
      parts_ofParts := fun _ => rfl }

instance : BEq TaylorTerm :=
  ⟨shape.equal⟩

end TaylorTerm

/-- The Taylor series of one output coordinate. -/
structure TaylorSeries where
  /-- The reference value of the input coordinate. -/
  reference : Float
  terms : List TaylorTerm

namespace TaylorSeries

/-- The fields of the record. -/
def shape : Shape TaylorSeries :=
  .record "Taylor"
    (.cons ((Field.named "ref" 1).labelled "reference") .real <|
      .cons ((Field.named "term" 0).sized 2) (.list TaylorTerm.shape) <|
      .nil)
    { parts := fun r =>
        (r.reference, r.terms, ())
      ofParts := fun
        (reference, terms, ()) =>
        ⟨reference, terms⟩
      ofParts_parts := fun _ => rfl
      parts_ofParts := fun _ => rfl }

instance : BEq TaylorSeries :=
  ⟨shape.equal⟩

end TaylorSeries

/-- The transverse profile of a wiggler term. -/
inductive WigglerProfile where
  | hyperY
  | hyperXy
  | hyperX
deriving DecidableEq, Repr

/-- The names of the alternatives. -/
def WigglerProfile.choice : Choice WigglerProfile where
  typeName := "WigKind"
  first := .hyperY
  others := [.hyperXy, .hyperX]
  key
    | .hyperY => "hyper_y"
    | .hyperXy => "hyper_xy"
    | .hyperX => "hyper_x"
  label
    | .hyperY => "HyperY"
    | .hyperXy => "HyperXy"
    | .hyperX => "HyperX"
  eq := inferInstance
  mem_all a := by cases a <;> decide
  nodup := by decide

/-- One harmonic of the field of a wiggler. -/
structure WigglerTerm where
  coef : Float
  kx : Float
  ky : Float
  kz : Float
  phiZ : Float
  profile : WigglerProfile

namespace WigglerTerm

/-- The fields of the record. -/
def shape : Shape WigglerTerm :=
  .record "WigTerm"
    (.cons (.named "coef" 1) .real <|
      .cons (.named "kx" 2) .real <|
      .cons (.named "ky" 3) .real <|
      .cons (.named "kz" 4) .real <|
      .cons (.named "phi_z" 5) .real <|
      .cons (.named "kind" 6) (.choice WigglerProfile.choice) <|
      .nil)
    { parts := fun r =>
        (r.coef, r.kx, r.ky, r.kz, r.phiZ, r.profile, ())
      ofParts := fun
        (coef, kx, ky, kz, phiZ, profile, ()) =>
        ⟨coef, kx, ky, kz, phiZ, profile⟩
      ofParts_parts := fun _ => rfl
      parts_ofParts := fun _ => rfl }

instance : BEq WigglerTerm :=
  ⟨shape.equal⟩

end WigglerTerm

/-- The electromagnetic field at a point, with its derivatives. -/
structure FieldSample where
  e : Vector Float 3
  b : Vector Float 3
  kick : Vector Float 3
  de : Vector (Vector Float 3) 3
  db : Vector (Vector Float 3) 3
  dkick : Vector (Vector Float 3) 3
  kind : Int32

namespace FieldSample

/-- The fields of the record. -/
def shape : Shape FieldSample :=
  .record "EmField"
    (.cons (.named "e" 1) (.array 3 .real) <|
      .cons (.named "b" 2) (.array 3 .real) <|
      .cons (.named "kick" 3) (.array 3 .real) <|
      .cons (.named "de" 4) (.array 3 (.array 3 .real)) <|
      .cons (.named "db" 5) (.array 3 (.array 3 .real)) <|
      .cons (.named "dkick" 6) (.array 3 (.array 3 .real)) <|
      .cons (.named "kind" 7) .integer <|
      .nil)
    { parts := fun r =>
        (r.e, r.b, r.kick, r.de, r.db, r.dkick, r.kind, ())
      ofParts := fun
        (e, b, kick, de, db, dkick, kind, ()) =>
        ⟨e, b, kick, de, db, dkick, kind⟩
      ofParts_parts := fun _ => rfl
      parts_ofParts := fun _ => rfl }

instance : BEq FieldSample :=
  ⟨shape.equal⟩

end FieldSample

end Accelerator
