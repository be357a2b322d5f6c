import Accelerator.Proofs.Patterns
import Accelerator.SelfTest

/-!
# The self-test passes

The two patterns with which a record type is checked are different, and the first one comes back
from its text.  So the checks of every record type hold (`RecordKind.checkRecord_eq`), and the
self-test has nothing to report (`selfTest_eq`).
-/

namespace Accelerator

namespace RecordKind

variable (k : RecordKind)

/-- The outcome of the checks of a record type if all of them hold. -/
def passing : CheckOutcome where
  record := k.name
  reflexive := true
  distinct := true
  roundTrip := true

theorem lineFeed_notMem_name : '\n' ∉ k.name.toList := by
  cases k <;> decide

theorem checkRecord_eq : checkRecord k.Carrier = .ok ⟨k.passing, []⟩ := by
  have hback : Record.read (Record.write (k.pattern 1)) = .ok (k.pattern 1) :=
    k.read_write_pattern 1
  have hsame : Record.equal (k.pattern 1) (k.pattern 1) = true := by
    rw [← beq_eq_equal, pattern_beq_self]
  have hother : Record.equal (k.pattern 1) (k.pattern 2) = false := by
    rw [← beq_eq_equal, ← Bool.not_eq_true, pattern_beq_iff]
    decide
  simp only [checkRecord, Checkable.read, Checkable.write, Checkable.pattern, Checkable.equal,
    Checkable.name, hback, hsame, hother]
  rfl

end RecordKind

theorem checkAll_eq (ks : List RecordKind) :
    checkAll ks = ⟨.ok (ks.map (·.passing)), []⟩ := by
  induction ks with
  | nil => rfl
  | cons k ks ih =>
    simp only [checkAll, k.checkRecord_eq, ih]
    rfl

/-- The self-test comes to the end, all checks hold, and nothing is reported on the way. -/
theorem selfTest_eq : selfTest = ⟨.ok (RecordKind.all.map (·.passing)), []⟩ :=
  checkAll_eq RecordKind.all

end Accelerator
