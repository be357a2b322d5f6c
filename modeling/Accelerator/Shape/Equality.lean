import Accelerator.Equality
import Accelerator.Shape

/-!
# When two records are equal

Records are equal if all their fields are, lists if they have one length and equal entries, optional
parts if both are absent or both present and equal. Floats are equal under the rules of binary64:
the two zeros are equal, and what is no number differs from everything.
-/

namespace Accelerator

/-- Two optional values are both absent, or both present and equal. -/
def bothEqual {α : Type} (eq : α → α → Bool) : Option α → Option α → Bool
  | none, none => true
  | some x, some y => eq x y
  | _, _ => false

mutual

/-- Two values of a shape are equal. -/
def Shape.equal : {α : Type} → Shape α → α → α → Bool
  | _, .real, x, y => x == y
  | _, .integer, x, y => x == y
  | _, .flag, x, y => x == y
  | _, .text, x, y => x == y
  | _, .choice c, x, y => have := c.eq; decide (x = y)
  | _, .array _ entry, x, y => allEqual entry.equal x.toList y.toList
  | _, .list entry, x, y => allEqual entry.equal x y
  | _, .optional value, x, y => bothEqual value.equal x y
  | _, .record _ fields view, x, y => fields.equal (view.parts x) (view.parts y)

/-- Two tuples of field values are equal field by field. -/
def Fields.equal : {β : Type} → Fields β → β → β → Bool
  | _, .nil, _, _ => true
  | _, .cons _ value rest, (x, xs), (y, ys) => value.equal x y && rest.equal xs ys

end

end Accelerator
