import Accelerator.Decimal.Digits
import Accelerator.Text.Literal

/-!
# Events

What a computation reports beside its result: events of a level, with a message and named values.
They are values like any other; the log only decides which of them are shown, and how.
-/

namespace Accelerator

/-- How grave an event is. -/
inductive Level where
  | trace
  | debug
  | info
  | warn
  | error
deriving DecidableEq, Repr

/-- The name of a level. -/
def Level.name : Level → String
  | trace => "TRACE"
  | debug => "DEBUG"
  | info => "INFO"
  | warn => "WARN"
  | error => "ERROR"

/-- The rank of a level; graver levels rank higher. -/
def Level.rank : Level → Nat
  | trace => 0
  | debug => 1
  | info => 2
  | warn => 3
  | error => 4

/-- A value of an event. -/
inductive EventValue where
  | number (n : Int)
  /-- A string, which is quoted where it stands among other text. -/
  | string (s : String)
  /-- Text that stands for itself everywhere. -/
  | display (s : String)
deriving DecidableEq, Repr

/-- The value as plain text. -/
def EventValue.text : EventValue → String
  | number n => String.ofList (intText n)
  | string s => s
  | display s => s

/-- A report beside a result. -/
structure Event where
  level : Level
  message : String
  values : List (String × EventValue)
deriving DecidableEq, Repr

/-- Whether two records are equal, and what was reported while they were compared. -/
structure Verdict where
  equal : Bool
  events : List Event

namespace Verdict

/-- A verdict without a report. -/
def silent (equal : Bool) : Verdict :=
  ⟨equal, []⟩

end Verdict

end Accelerator
