import Accelerator.Shape

/-!
# The blank value of a shape

Zeros, false flags, empty text and lists, absent parts, and the first one of alternatives.
-/

namespace Accelerator

mutual

/-- The blank value of a shape. -/
def Shape.blank : {α : Type} → Shape α → α
  | _, .real => 0
  | _, .integer => 0
  | _, .flag => false
  | _, .text => ""
  | _, .choice c => c.first
  | _, .array n entry => Vector.replicate n entry.blank
  | _, .list _ => []
  | _, .optional _ => none
  | _, .record _ fields view => view.ofParts fields.blank

/-- The blank values of fields. -/
def Fields.blank : {β : Type} → Fields β → β
  | _, .nil => ()
  | _, .cons _ value rest => (value.blank, rest.blank)

end

end Accelerator
