import Accelerator.Edit
import Accelerator.Event
import Accelerator.Shape.Blank
import Accelerator.Shape.Equality
import Accelerator.Shape.Pattern
import Accelerator.Shape.Reading
import Accelerator.Shape.Writing

/-!
# Records

What is known of a record type: its name and its shape, and what follows from the shape unless the
type says otherwise. `Checkable` is the part of it that a self-test needs.
-/

namespace Accelerator

/-- A record type. -/
class Record (α : Type) where
  name : String
  shape : Shape α
  blank : α := shape.blank
  pattern : Int32 → α := shape.pattern
  compare : α → α → Verdict := fun a b => .silent (shape.equal a b)
  /-- One edit for each field, for the types that have edits. -/
  edits : Option (List (Edit α)) := none

/-- A type whose values can be written, read back and compared. -/
class Checkable (α : Type) where
  name : String
  pattern : Int32 → α
  equal : α → α → Bool
  write : α → String
  read : String → Except ReadError α

namespace Record

variable {α : Type} [Record α]

/-- Two records are equal. -/
def equal (a b : α) : Bool :=
  (compare a b).equal

/-- The JSON text of a record. -/
def write (a : α) : String :=
  String.ofList (shape.write a)

/-- Reads a record from a JSON text. -/
def read (text : String) : Except ReadError α :=
  shape.read text

/-- A record for people. -/
def display (a : α) : String :=
  shape.display a

/-- The edit of a field. -/
def edit? (α : Type) [Record α] (field : String) : Option (Edit α) :=
  (edits (α := α)).bind fun es => es.find? fun e => e.field = field

instance : Checkable α where
  name := name α
  pattern := pattern
  equal := equal
  write := write
  read := read

end Record

end Accelerator
