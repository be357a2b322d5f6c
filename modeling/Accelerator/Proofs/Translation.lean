import Accelerator.Proofs.Decimal.Range
import Accelerator.Proofs.Records
import Accelerator.Proofs.Shape.Alike
import Accelerator.Proofs.Shape.Reread

/-!
# Translation of records

A record is written and read back.  All that may change are its floats.  A record with finite floats
is always read, and it comes back equal iff those of its floats that are in use come back equal
(`RecordKind.translates_iff`).  There are finite floats that do not: the digits of
`1.0000000000000001e33` are too many for a float, and are rounded before they are scaled
(`not_all_translate`).  Nothing but floats ever changes, whatever they are (`only_reals_change`).
-/

namespace Accelerator

open Json

/-! ## Floats -/

/-- A number as a float. -/
def Number.toReal : Number → Float
  | .integer n => realOfInt n
  | .real x => x

/-- A float is equal to what its own text is read as. -/
def Survives (x : Float) : Prop :=
  ∃ y, reread x = some y ∧ (y == x) = true

/-- A finite float is reread as the number that its numeral stands for. -/
theorem reread_of_isFinite {x : Float} (h : x.isFinite = true) :
    reread x = (layout.numeralOf x).value.map Number.toReal := by
  rw [reread_eq, realDocument, if_pos h, decodeReal, numberOf]
  cases (layout.numeralOf x).value with
  | none => rfl
  | some n => cases n <;> rfl

/-- What was written for a finite float is always read. -/
theorem rereads_of_isFinite {x : Float} (h : x.isFinite = true) : Rereads x := by
  rw [Rereads, reread_of_isFinite h, Option.isSome_map]
  exact isSome_value_numeralOf h

theorem reread_of_not_isFinite {x : Float} (h : x.isFinite = false) : reread x = none := by
  rw [reread_eq, realDocument, h]
  rfl

theorem survives_iff (x : Float) : Survives x ↔ Rereads x ∧ (afterward x == x) = true := by
  unfold Survives Rereads afterward
  cases reread x with
  | none =>
    apply iff_of_false nofun
    intro h
    exact Bool.false_ne_true h.1
  | some y =>
    constructor
    · rintro ⟨_, ⟨⟩, h⟩
      exact ⟨rfl, h⟩
    · intro h
      exact ⟨y, rfl, h.2⟩

/-! ## Records -/

namespace RecordKind

variable (k : RecordKind)

/-- What is read where a record was written: a record that is the same but for its floats, each of
which is what the text of the float in its place reads as. -/
theorem read_write_iff_alike (r r' : k.Carrier) : Record.read (Record.write r) = .ok r' ↔
    k.shape.Alike (fun x y => reread x = some y) r r' := by
  rw [← Shape.decode_document_iff k.shape k.sound_shape, ← Shape.readChars_write]
  change k.shape.readChars (String.ofList (k.shape.write r)).toList = _ ↔ _
  rw [String.toList_ofList]

/-- What is read where a record was written: the record with every float reread, if all of them
are. -/
theorem read_write_iff (r r' : k.Carrier) : Record.read (Record.write r) = .ok r' ↔
    k.shape.AllReals Rereads r ∧ k.shape.mapReals afterward r = r' := by
  rw [read_write_iff_alike, ← Shape.alike_graph_iff]
  simp only [reread_eq_some_iff]

/-- A blank record comes back as it is. -/
theorem read_write_blank :
    Record.read (Record.write (k.shape.blank : k.Carrier)) = .ok k.shape.blank := by
  rw [read_write_iff_alike, Shape.alike_self_iff]
  apply Shape.allReals_blank
  rw [reread_of_isFinite (by decide)]
  decide +kernel

theorem equal_afterward_iff {r : k.Carrier} (hr : Record.equal r r = true) :
    Record.equal (k.shape.mapReals afterward r) r = true ↔
      k.shape.AllReals (fun x => (afterward x == x) = true) (k.inUse r) := by
  obtain ⟨ha, -, -⟩ := (k.equal_iff r r).1 hr
  rw [k.equal_iff, and_iff_right ((k.answers_mapReals afterward r).2 ha), and_iff_right ha,
    k.inUse_mapReals, Shape.equal_mapReals_iff]

/-- A record with finite floats that is equal to itself is always read where it was written, and the
record that is read is equal to it iff every float in use is read as an equal one. -/
theorem translates_iff (r : k.Carrier) (hr : Record.equal r r = true)
    (hfinite : k.shape.AllReals (·.isFinite = true) r) :
    ∃ r', Record.read (Record.write r) = .ok r' ∧
      (Record.equal r' r = true ↔ k.shape.AllReals Survives (k.inUse r)) := by
  have hreads : k.shape.AllReals Rereads r :=
    Shape.AllReals.imp (fun _ => rereads_of_isFinite) k.shape r hfinite
  refine ⟨_, (k.read_write_iff r _).2 ⟨hreads, rfl⟩, ?_⟩
  rw [k.equal_afterward_iff hr]
  constructor
  · intro hsame
    exact Shape.AllReals.imp (fun x => (survives_iff x).2) k.shape _
      (Shape.AllReals.and k.shape _ (k.allReals_inUse hreads) hsame)
  · exact Shape.AllReals.imp (fun x hx => ((survives_iff x).1 hx).2) k.shape _

/-- The floats `1` and `0` come back. -/
theorem translates_iff_one : ∃ r', Record.read (Record.write (⟨1, 0, 0⟩ : PlaneSummary)) = .ok r' ∧
    Record.equal r' (⟨1, 0, 0⟩ : PlaneSummary) = true := by
  have hone : (1 : Float).isFinite = true := by decide +kernel
  have hzero : (0 : Float).isFinite = true := by decide +kernel
  have hsurvives : Survives 1 ∧ Survives 0 := by
    unfold Survives
    rw [reread_of_isFinite hone, reread_of_isFinite hzero]
    exact ⟨⟨1, by decide +kernel, by decide +kernel⟩, ⟨0, by decide +kernel, by decide +kernel⟩⟩
  obtain ⟨r', hread, hequal⟩ := translates_iff .planeSummary ⟨1, 0, 0⟩ (by decide +kernel)
    ⟨hone, hzero, hzero, trivial⟩
  exact ⟨r', hread, hequal.2 ⟨hsurvives.1, hsurvives.2, hsurvives.2, trivial⟩⟩

end RecordKind

/-! ## A float that changes -/

/-- The float after the one nearest to `10 ^ 33`; it is written as `1.0000000000000001e+33`. -/
def drifting : Float :=
  Float.ofBits 5100510072459938205

theorem isFinite_drifting : drifting.isFinite = true := by
  decide

/-- The seventeen digits are rounded to `1.0e16` before they are multiplied by `1.0e17`. -/
theorem reread_drifting : reread drifting = some (Float.ofBits 5100510072459938204) := by
  rw [reread_of_isFinite isFinite_drifting]
  decide +kernel

theorem not_survives_drifting : ¬Survives drifting := by
  rintro ⟨y, hy, heq⟩
  rw [reread_drifting, Option.some_inj] at hy
  rw [← hy] at heq
  revert heq
  decide

/-- Not every record with finite floats is translated to an equal one. -/
theorem not_all_translate : ¬∀ (k : RecordKind) (r : k.Carrier), Record.equal r r = true →
    k.shape.AllReals (·.isFinite = true) r →
    ∃ r', Record.read (Record.write r) = .ok r' ∧ Record.equal r' r = true := by
  intro h
  let r : PlaneSummary := ⟨drifting, 0, 0⟩
  have hzero : (0 : Float).isFinite = true := by decide +kernel
  have hself : Record.equal r r = true := by decide +kernel
  obtain ⟨r', hread, hequal⟩ :=
    h .planeSummary r hself ⟨isFinite_drifting, hzero, hzero, trivial⟩
  obtain ⟨hreads, rfl⟩ := (RecordKind.read_write_iff .planeSummary r r').1 hread
  have hsame := (RecordKind.equal_afterward_iff .planeSummary hself).1 hequal
  exact not_survives_drifting ((survives_iff drifting).2 ⟨hreads.1, hsame.1⟩)

/-! ## What translation changes -/

/-- Where a record was written, the record that is read is the same but for its floats, each of
which is what its own text reads as; there is an error iff one of these texts does not read.  The
texts of what is no finite number do not. -/
theorem only_reals_change :
    (∀ (k : RecordKind) (r : k.Carrier),
      (k.shape.AllReals Rereads r → ∃ r', Record.read (Record.write r) = .ok r' ∧
        k.shape.Alike (fun x y => reread x = some y) r r') ∧
      (¬k.shape.AllReals Rereads r →
        ∃ e, (Record.read (Record.write r) : Except ReadError k.Carrier) = .error e)) ∧
    ∀ x : Float, x.isFinite = false → realText x = nullText ∧ reread x = none := by
  constructor
  · intro k r
    constructor
    · intro h
      have hread := (k.read_write_iff r _).2 ⟨h, rfl⟩
      exact ⟨_, hread, (k.read_write_iff_alike r _).1 hread⟩
    · intro h
      cases hread : (Record.read (Record.write r) : Except ReadError k.Carrier) with
      | error e => exact ⟨e, rfl⟩
      | ok r' => exact absurd ((k.read_write_iff r r').1 hread).1 h
  · intro x hx
    exact ⟨realText_of_not_isFinite (Bool.eq_false_iff.1 hx), reread_of_not_isFinite hx⟩

/-- A summary comes back with another tune; one without a tune does not come back. -/
theorem only_reals_change_drifting :
    (∃ r' : PlaneSummary, Record.read (Record.write (⟨drifting, 1, 0⟩ : PlaneSummary)) = .ok r' ∧
      r'.tune = Float.ofBits 5100510072459938204) ∧
    (∃ e, (Record.read (Record.write (⟨Float.nan, 1, 0⟩ : PlaneSummary)) :
      Except ReadError PlaneSummary) = .error e) ∧
    reread Float.nan = none := by
  have hone : (1 : Float).isFinite = true := by decide +kernel
  have hzero : (0 : Float).isFinite = true := by decide +kernel
  have hnan : reread Float.nan = none := (only_reals_change.2 Float.nan (by decide +kernel)).2
  refine ⟨?_, ?_, hnan⟩
  · obtain ⟨r', hread, htune, -⟩ := (only_reals_change.1 .planeSummary ⟨drifting, 1, 0⟩).1
      ⟨rereads_of_isFinite isFinite_drifting, rereads_of_isFinite hone, rereads_of_isFinite hzero,
        trivial⟩
    have htune : reread drifting = some r'.tune := htune
    rw [reread_drifting, Option.some_inj] at htune
    exact ⟨r', hread, htune.symm⟩
  · apply (only_reals_change.1 .planeSummary ⟨Float.nan, 1, 0⟩).2
    intro h
    have htune : (reread Float.nan).isSome = true := h.1
    rw [hnan] at htune
    exact Bool.false_ne_true htune

end Accelerator
