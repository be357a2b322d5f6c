import Accelerator.Proofs.Records
import Accelerator.Proofs.Shape.Alike
import Accelerator.Proofs.Shape.Injective

/-!
# Equality and texts

Equality of records sees what is written of them, no more and no less: as long as all floats are
finite and no zero is negative, two records are equal iff they are written alike, lattices without
their spare elements (`equal_iff_write_eq`).
-/

namespace Accelerator

/-- A finite float other than the negative zero. -/
def Plain (x : Float) : Prop :=
  x.isFinite = true ∧ x ≠ -0.0

theorem plain_zero : Plain 0 := by
  unfold Plain
  decide

theorem Plain.beq_iff_eq {x y : Float} (hx : Plain x) (hy : Plain y) : (x == y) = true ↔ x = y :=
  beq_iff_eq_of_isFinite hx.1 hy.1 hx.2 hy.2

namespace RecordKind

variable {k : RecordKind} {a b : k.Carrier}

theorem shape_equal_iff_write_eq (ha : k.shape.AllReals Plain a) (hb : k.shape.AllReals Plain b) :
    k.shape.equal a b = true ↔ Record.write a = Record.write b := by
  have hfinite : ∀ x, Plain x → x.isFinite = true := fun _ h => h.1
  rw [Shape.equal_iff_eq (fun x y hx hy => hx.beq_iff_eq hy) k.shape a b ha hb]
  constructor
  · rintro rfl
    rfl
  · intro h
    exact Shape.write_injective k.sound_shape (Shape.AllReals.imp hfinite k.shape a ha)
      (Shape.AllReals.imp hfinite k.shape b hb) (String.ofList_inj.1 h)

theorem equal_iff_write_inUse_eq (ha : k.shape.AllReals Plain a) (hb : k.shape.AllReals Plain b)
    (hka : k.Answers a) (hkb : k.Answers b) :
    Record.equal a b = true ↔ Record.write (k.inUse a) = Record.write (k.inUse b) := by
  rw [k.equal_iff, and_iff_right hka, and_iff_right hkb]
  exact shape_equal_iff_write_eq (k.allReals_inUse ha) (k.allReals_inUse hb)

end RecordKind

/-- Two records whose floats are finite and no negative zeros are equal iff they have the same text;
two lattices that answer which elements they use are iff they have the same text without their spare
elements. -/
theorem equal_iff_write_eq :
    (∀ k : RecordKind, k ≠ .lattice → ∀ a b : k.Carrier,
      k.shape.AllReals Plain a → k.shape.AllReals Plain b →
      (Record.equal a b = true ↔ Record.write a = Record.write b)) ∧
    ∀ a b : Lattice, Lattice.shape.AllReals Plain a → Lattice.shape.AllReals Plain b →
      a.active?.isSome = true → b.active?.isSome = true →
      ((a == b) = true ↔ Record.write a.withoutSpares = Record.write b.withoutSpares) := by
  constructor
  · intro k hk a b ha hb
    have := RecordKind.equal_iff_write_inUse_eq ha hb (RecordKind.answers_of_ne hk a)
      (RecordKind.answers_of_ne hk b)
    rwa [RecordKind.inUse_of_ne hk, RecordKind.inUse_of_ne hk] at this
  · intro a b ha hb hka hkb
    exact RecordKind.equal_iff_write_inUse_eq (k := .lattice) ha hb hka hkb

/-- A summary that differs from the blank one, and the blank lattice with a spare element. -/
theorem equal_iff_write_eq_blank :
    (Record.equal (⟨0, 0, 0⟩ : PlaneSummary) ⟨0, 1, 0⟩ = true ↔
      Record.write (⟨0, 0, 0⟩ : PlaneSummary) = Record.write (⟨0, 1, 0⟩ : PlaneSummary)) ∧
    ((Lattice.blank == { Lattice.blank with elements := .replicate 2 Element.shape.blank }) =
        true ↔
      Record.write Lattice.blank.withoutSpares = Record.write
        { Lattice.blank with elements := .replicate 2 Element.shape.blank }.withoutSpares) := by
  have hone : Plain 1 := by
    unfold Plain
    decide +kernel
  have hblank (n : Nat) : Lattice.shape.AllReals Plain
      { Lattice.blank with elements := .replicate n Element.shape.blank } := by
    refine (Lattice.allReals_iff _ _).2 ⟨Shape.allReals_blank plain_zero Lattice.shape, ?_⟩
    intro e he
    rw [List.eq_of_mem_replicate he]
    exact Shape.allReals_blank plain_zero Element.shape
  constructor
  · exact equal_iff_write_eq.1 .planeSummary (by decide) ⟨0, 0, 0⟩ ⟨0, 1, 0⟩
      ⟨plain_zero, plain_zero, plain_zero, trivial⟩ ⟨plain_zero, hone, plain_zero, trivial⟩
  · exact equal_iff_write_eq.2 Lattice.blank
      { Lattice.blank with elements := .replicate 2 Element.shape.blank } (hblank 1) (hblank 2)
      rfl rfl

end Accelerator
