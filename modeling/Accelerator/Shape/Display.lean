import Accelerator.Decimal.Layout
import Accelerator.Shape
import Accelerator.Text.Literal

/-!
# Records for people

A record as text for logs and reports: the name of its type, then its fields with their names.
-/

namespace Accelerator

/-- Floats from `0.0001` up to sixteen whole digits are written in full, all others with an exponent
that is signed only if it is negative; of two nearest decimals the larger one is taken. -/
def displayLayout : Layout where
  tie := .upward
  plainFrom := -4
  plainTo := 15
  mark := .plain
  notANumber := "NaN"
  infinity := "inf"
  negativeInfinity := "-inf"

/-- Texts in square brackets. -/
def bracketed (parts : List String) : String :=
  "[" ++ ", ".intercalate parts ++ "]"

/-- A name, and named parts in braces. -/
def braced (name : String) (parts : List (String × String)) : String :=
  name ++ " \x7b " ++ ", ".intercalate (parts.map fun (key, value) => key ++ ": " ++ value) ++
    " \x7d"

mutual

/-- A value as text for people. -/
def Shape.display : {α : Type} → Shape α → α → String
  | _, .real, x => String.ofList (displayLayout.text x)
  | _, .integer, n => String.ofList (intText n.toInt)
  | _, .flag, b => if b then "true" else "false"
  | _, .text, s => literal s
  | _, .choice c, a => c.label a
  | _, .array _ entry, v => bracketed (v.toList.map entry.display)
  | _, .list entry, l => bracketed (l.map entry.display)
  | _, .optional _, none => "None"
  | _, .optional value, some a => "Some(" ++ value.display a ++ ")"
  | _, .record name fields view, a => braced name (fields.display (view.parts a))

/-- The names of fields and the texts of their values. -/
def Fields.display : {β : Type} → Fields β → β → List (String × String)
  | _, .nil, _ => []
  | _, .cons f value rest, (a, as) => (f.label, value.display a) :: rest.display as

end

end Accelerator
