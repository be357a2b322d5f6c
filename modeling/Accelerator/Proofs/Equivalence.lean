import Accelerator.Proofs.Decimal.Floats
import Accelerator.Proofs.Records
import Accelerator.Proofs.Shape.Alike

/-!
# Equality as a relation on records

Equality of records of each of the 21 types is symmetric and transitive, whatever the records hold
(`RecordKind.beq_symm_and_trans`).  It is not reflexive: exactly those records equal themselves that
have no float that is no number, and only the floats in use count (`equal_self_iff_no_isNaN`).
-/

namespace Accelerator

/-! ## Values -/

namespace Shape

variable {α : Type} {s : Shape α} {a b c : α}

theorem equal_symm (h : s.equal a b = true) : s.equal b a = true := by
  rw [s.equal_iff_alike] at h ⊢
  exact Alike.flip (fun _ _ => BEq.symm) s a b h

theorem equal_trans (hab : s.equal a b = true) (hbc : s.equal b c = true) :
    s.equal a c = true := by
  rw [s.equal_iff_alike] at hab hbc ⊢
  exact Alike.trans (fun _ _ _ => BEq.trans) s a b c hab hbc

theorem equal_comm (s : Shape α) (a b : α) : s.equal a b = s.equal b a :=
  Bool.eq_iff_iff.2 ⟨equal_symm, equal_symm⟩

/-- Equal values can be exchanged on both sides. -/
theorem equal_congr {a' b' : α} (ha : s.equal a a' = true) (hb : s.equal b b' = true) :
    s.equal a b = s.equal a' b' := by
  rw [Bool.eq_iff_iff]
  constructor
  · intro h
    exact equal_trans (equal_symm ha) (equal_trans h hb)
  · intro h
    exact equal_trans ha (equal_trans h (equal_symm hb))

/-- A value equals itself iff all its floats are numbers. -/
theorem equal_self_iff (s : Shape α) (a : α) :
    s.equal a a = true ↔ s.AllReals (fun x => x.isNaN = false) a := by
  rw [s.equal_iff_alike, s.alike_self_iff]
  simp only [beq_self_iff_isNaN]

end Shape

/-! ## Records -/

namespace RecordKind

/-- Records are compared by the equality of their type. -/
instance instBEq : (k : RecordKind) → BEq k.Carrier
  | phaseSpace => inferInstanceAs (BEq PhaseSpace)
  | twiss => inferInstanceAs (BEq Twiss)
  | dispersion => inferInstanceAs (BEq Dispersion)
  | floorPosition => inferInstanceAs (BEq FloorPosition)
  | wigglerTerm => inferInstanceAs (BEq WigglerTerm)
  | taylorTerm => inferInstanceAs (BEq TaylorTerm)
  | taylorSeries => inferInstanceAs (BEq TaylorSeries)
  | wakeSample => inferInstanceAs (BEq WakeSample)
  | pseudoMode => inferInstanceAs (BEq PseudoMode)
  | cavityMode => inferInstanceAs (BEq CavityMode)
  | wakefield => inferInstanceAs (BEq Wakefield)
  | controlLink => inferInstanceAs (BEq ControlLink)
  | beamParameters => inferInstanceAs (BEq BeamParameters)
  | normalMode => inferInstanceAs (BEq NormalMode)
  | linacIntegrals => inferInstanceAs (BEq LinacIntegrals)
  | radiationIntegrals => inferInstanceAs (BEq RadiationIntegrals)
  | trackingSettings => inferInstanceAs (BEq TrackingSettings)
  | fieldSample => inferInstanceAs (BEq FieldSample)
  | planeSummary => inferInstanceAs (BEq PlaneSummary)
  | element => inferInstanceAs (BEq Element)
  | lattice => inferInstanceAs (BEq Lattice)

variable (k : RecordKind)

theorem beq_eq_equal (a b : k.Carrier) : (a == b) = Record.equal a b := by
  cases k <;> rfl

theorem beq_iff_inUse (a b : k.Carrier) : (a == b) = true ↔
    k.Answers a ∧ k.Answers b ∧ k.shape.equal (k.inUse a) (k.inUse b) = true := by
  rw [beq_eq_equal, equal_iff]

instance : PartialEquivBEq k.Carrier where
  symm {a b} h := by
    rw [beq_iff_inUse] at h ⊢
    obtain ⟨ha, hb, hab⟩ := h
    exact ⟨hb, ha, Shape.equal_symm hab⟩
  trans {a b c} hab hbc := by
    rw [beq_iff_inUse] at hab hbc ⊢
    obtain ⟨ha, -, hab⟩ := hab
    obtain ⟨-, hc, hbc⟩ := hbc
    exact ⟨ha, hc, Shape.equal_trans hab hbc⟩

/-- Equality of records of each type is symmetric and transitive, and two records are unequal
exactly if they are not equal. -/
theorem beq_symm_and_trans :
    (∀ a b : k.Carrier, (a == b) = (b == a)) ∧
    (∀ a b c : k.Carrier, (a == b) = true → (b == c) = true → (a == c) = true) ∧
    ∀ a b : k.Carrier, (a != b) = !(a == b) :=
  ⟨fun _ _ => BEq.comm, fun _ _ _ => BEq.trans, fun _ _ => rfl⟩

/-- Three lattices that differ in their spare elements and in the sign of a zero. -/
theorem beq_symm_and_trans_blank :
    let a := Lattice.blank
    let b := { Lattice.blank with elements := .replicate 2 Element.shape.blank }
    let c := { Lattice.blank with x := ⟨0, -0.0, 0⟩ }
    (a == b) = true ∧ (b == c) = true ∧ (a == c) = true := by
  intro a b c
  have hab : (a == b) = true := by decide +kernel
  have hbc : (b == c) = true := by decide +kernel
  exact ⟨hab, hbc, (beq_symm_and_trans .lattice).2.1 a b c hab hbc⟩

end RecordKind

/-! ## Records that equal themselves -/

namespace Lattice

/-- Every float of a lattice that is in use has a property: those of the headers, of the links, and
of the elements up to the position `nEleMax`. -/
structure RealsInUse (p : Float → Prop) (l : Lattice) : Prop where
  x : PlaneSummary.shape.AllReals p l.x
  y : PlaneSummary.shape.AllReals p l.y
  z : PlaneSummary.shape.AllReals p l.z
  parameters : BeamParameters.shape.AllReals p l.parameters
  template : Element.shape.AllReals p l.template
  control : ∀ c ∈ l.control, ControlLink.shape.AllReals p c
  elements : ∀ k (h : k < l.elements.length), (k : Int) ≤ l.nEleMax.toInt →
    Element.shape.AllReals p l.elements[k]

theorem forall_mem_withoutSpares_iff (q : Element → Prop) (l : Lattice) :
    (∀ e ∈ l.withoutSpares.elements, q e) ↔
      ∀ k (h : k < l.elements.length), (k : Int) ≤ l.nEleMax.toInt → q l.elements[k] := by
  simp only [withoutSpares, List.mem_take_iff_getElem]
  constructor
  · intro h k hk hle
    exact h _ ⟨k, by omega, rfl⟩
  · rintro h _ ⟨k, hk, rfl⟩
    exact h k (by omega) (by omega)

theorem allReals_withoutSpares_iff (p : Float → Prop) (l : Lattice) :
    Lattice.shape.AllReals p l.withoutSpares ↔ l.RealsInUse p := by
  have helements := forall_mem_withoutSpares_iff (Element.shape.AllReals p) l
  simp only [Lattice.shape, Shape.AllReals, Fields.AllReals, implies_true, true_and, and_true,
    helements]
  constructor
  · rintro ⟨hx, hy, hz, hparameters, htemplate, hcontrol, h⟩
    exact ⟨hx, hy, hz, hparameters, htemplate, hcontrol, h⟩
  · rintro ⟨hx, hy, hz, hparameters, htemplate, hcontrol, h⟩
    exact ⟨hx, hy, hz, hparameters, htemplate, hcontrol, h⟩

end Lattice

/-- A record other than a lattice equals itself iff it has no NaN.  A lattice equals itself iff it
has none in use, and its list of elements goes on beyond `nEleMax` unless that is negative. -/
theorem equal_self_iff_no_isNaN :
    (∀ k : RecordKind, k ≠ .lattice → ∀ r : k.Carrier,
      ((r == r) = true ↔ k.shape.AllReals (fun x => x.isNaN = false) r)) ∧
    ∀ l : Lattice, (l == l) = true ↔
      l.RealsInUse (fun x => x.isNaN = false) ∧
        (l.nEleMax.toInt < 0 ∨ l.nEleMax.toInt < l.elements.length) := by
  constructor
  · intro k hk r
    have hanswers := RecordKind.answers_of_ne hk r
    rw [RecordKind.beq_iff_inUse, and_iff_right hanswers, and_iff_right hanswers,
      RecordKind.inUse_of_ne hk, Shape.equal_self_iff]
  · intro l
    rw [Lattice.beq_iff_withoutSpares, ← and_assoc, and_self, Shape.equal_self_iff,
      Lattice.allReals_withoutSpares_iff, Lattice.isSome_active?_iff, and_comm]

/-- A summary with a NaN differs from itself; a lattice with a NaN in a spare element does not. -/
theorem equal_self_iff_no_isNaN_spare :
    (RecordKind.planeSummary ≠ .lattice ∧
      ¬((⟨0, Float.nan, 0⟩ : PlaneSummary) == ⟨0, Float.nan, 0⟩) = true) ∧
    let spare := { Element.shape.blank with s := Float.nan }
    let l := { Lattice.blank with elements := [Element.shape.blank, spare] }
    (l == l) = true := by
  have hzero : (0 : Float).isNaN = false := by decide +kernel
  have hnan : ¬Float.nan.isNaN = false := by decide +kernel
  refine ⟨⟨by decide, ?_⟩, ?_⟩
  · intro h
    have := (equal_self_iff_no_isNaN.1 .planeSummary (by decide) ⟨0, Float.nan, 0⟩).1 h
    exact hnan this.2.1
  · intro spare l
    have hblank : Lattice.shape.blank.RealsInUse (fun x => x.isNaN = false) :=
      (Lattice.allReals_withoutSpares_iff _ _).1
        (Lattice.allReals_withoutSpares (Shape.allReals_blank hzero Lattice.shape))
    refine (equal_self_iff_no_isNaN.2 l).2 ⟨{ hblank with elements := ?_ }, .inr (by decide)⟩
    intro k hk hle
    obtain rfl : k = 0 := by
      have : l.nEleMax.toInt = 0 := rfl
      omega
    exact Shape.allReals_blank hzero Element.shape

end Accelerator
