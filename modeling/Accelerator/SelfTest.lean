import Accelerator.Catalogue
import Accelerator.Comparison.Report

/-!
# The self-test

For each record type, the pattern of an index has to equal itself, to differ from the pattern of
another index, and to come back equal from its JSON text (`checkRecord`). `writeReport` writes one
line for each record.
-/

namespace Accelerator

/-- The outcome of the checks of a record type. -/
structure CheckOutcome where
  record : String
  reflexive : Bool
  distinct : Bool
  roundTrip : Bool
deriving DecidableEq, Repr

namespace CheckOutcome

/-- All checks hold. -/
def passed (o : CheckOutcome) : Bool :=
  o.reflexive && o.distinct && o.roundTrip

/-- The outcome for people. -/
def display (o : CheckOutcome) : String :=
  let flag (b : Bool) : String := if b then "true" else "false"
  braced "CheckOutcome" [("record", literal o.record), ("reflexive", flag o.reflexive),
    ("distinct", flag o.distinct), ("round_trip", flag o.roundTrip)]

/-- The report that a check does not hold. -/
def failedEvent (o : CheckOutcome) : Event where
  level := .warn
  message := "record self-test failed"
  values := [("record", .string o.record), ("outcome", .display o.display)]

/-- The names of the checks that do not hold. -/
def failedChecks (o : CheckOutcome) : List String :=
  [("reflexive", o.reflexive), ("distinct", o.distinct), ("round_trip", o.roundTrip)].filterMap
    fun (name, holds) => if holds then none else some name

/-- The texts of the line of an outcome. -/
def line (o : CheckOutcome) : List String :=
  if o.passed then [o.record, ": ok\n"]
  else [o.record, ": FAILED (", ", ".intercalate o.failedChecks, ")\n"]

end CheckOutcome

/-- Checks a record type. -/
def checkRecord (α : Type) [Checkable α] : Except CheckError (Reported CheckOutcome) :=
  let first : α := Checkable.pattern 1
  let second : α := Checkable.pattern 2
  match Checkable.read (Checkable.write first) with
  | .error e => .error (.json e)
  | .ok back =>
    let outcome : CheckOutcome :=
      { record := Checkable.name α
        reflexive := Checkable.equal first first
        distinct := !Checkable.equal first second
        roundTrip := Checkable.equal back first }
    .ok ⟨outcome, if outcome.passed then [] else [outcome.failedEvent]⟩

/-- Checks record types one after the other, up to the first that cannot be checked. -/
def checkAll : List RecordKind → Reported (Except CheckError (List CheckOutcome))
  | [] => ⟨.ok [], []⟩
  | k :: ks =>
    match checkRecord k.Carrier with
    | .error e => ⟨.error e, []⟩
    | .ok first =>
      let others := checkAll ks
      ⟨(first.result :: ·) <$> others.result, first.events ++ others.events⟩

/-- Checks all record types. -/
def selfTest : Reported (Except CheckError (List CheckOutcome)) :=
  checkAll RecordKind.all

/-- Writes a line for each outcome. -/
def writeReport (outcomes : List CheckOutcome) (out : Sink) : Sink × Except CheckError Unit :=
  match Sink.putAll (outcomes.flatMap (·.line)) out with
  | (out, .error e) => (out, .error (.write e))
  | (out, .ok ()) => (out, .ok ())

end Accelerator
