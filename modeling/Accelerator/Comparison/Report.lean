import Accelerator.CheckError
import Accelerator.Comparison.Groups
import Accelerator.Event
import Accelerator.Shape.Display

/-!
# The report on two elements

`evaluate` says for each group of fields whether two elements agree on it, and reports an event for
each group on which they differ. `writeResults` writes one line for each group; `diffElements` adds
the verdict on the whole elements.
-/

namespace Accelerator

/-- The verdict on a group. -/
structure GroupResult where
  label : String
  matched : Bool
deriving DecidableEq, Repr

/-- A result, and what was reported on the way to it. -/
structure Reported (α : Type) where
  result : α
  events : List Event

/-- The verdict of a group on two elements. -/
def FieldGroup.judge (x y : Element) (g : FieldGroup) : GroupResult :=
  ⟨g.label, g.agree x y⟩

/-- The report that two elements differ in a group. -/
def FieldGroup.differs (g : FieldGroup) : Event where
  level := .debug
  message := "element group differs"
  values := [("group", .string g.label), ("fields", .display (bracketed (g.fields.map literal)))]

/-- The verdicts of all groups on two elements. -/
def evaluate (x y : Element) : Reported (List GroupResult) where
  result := elementGroups.map (·.judge x y)
  events := (elementGroups.filter fun g => !g.agree x y).map (·.differs)

/-- All groups match. -/
def allMatched (results : List GroupResult) : Bool :=
  allTrue (results.map (·.matched))

/-- A flag as a digit. -/
def flagDigit (b : Bool) : String :=
  if b then "1" else "0"

/-- The texts of a line of a name and a flag. -/
def flagLine (name : String) (b : Bool) : List String :=
  [name, ": ", flagDigit b, "\n"]

/-- Writes a line for each verdict. -/
def writeResults (results : List GroupResult) : Sink → Sink × Except SinkError Unit :=
  Sink.putAll (results.flatMap fun r => flagLine r.label r.matched)

/-- Writes the verdicts of all groups on two elements. -/
def compareElements (x y : Element) : Sink → Sink × Except SinkError Unit :=
  writeResults (evaluate x y).result

/-- Writes the verdicts of all groups on two elements, then whether all groups match. -/
def diffElements (x y : Element) (out : Sink) : Sink × Reported (Except CheckError Bool) :=
  let report := evaluate x y
  let equal := allMatched report.result
  match writeResults report.result out with
  | (out, .error e) => (out, ⟨.error (.write e), report.events⟩)
  | (out, .ok ()) =>
    match Sink.putAll (flagLine "all" equal) out with
    | (out, .error e) => (out, ⟨.error (.write e), report.events⟩)
    | (out, .ok ()) => (out, ⟨.ok equal, report.events⟩)

end Accelerator
