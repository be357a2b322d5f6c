import Accelerator.Json.Writing
import Accelerator.Shape

/-!
# Records as JSON

A record is written as the object of its fields, in order; an array or a list as an array; an absent
part as `null`; one of several alternatives as the string of its name.
-/

namespace Accelerator

mutual

/-- The JSON text of a value. -/
def Shape.write : {α : Type} → Shape α → α → List Char
  | _, .real, x => Json.realText x
  | _, .integer, n => intText n.toInt
  | _, .flag, b => Json.flagText b
  | _, .text, s => Json.stringText s
  | _, .choice c, a => Json.stringText (c.key a)
  | _, .array _ entry, v => Json.arrayText (v.toList.map entry.write)
  | _, .list entry, l => Json.arrayText (l.map entry.write)
  | _, .optional _, none => Json.nullText
  | _, .optional value, some a => value.write a
  | _, .record _ fields view, a => Json.objectText (fields.write (view.parts a))

/-- The JSON texts of the members. -/
def Fields.write : {β : Type} → Fields β → β → List (List Char)
  | _, .nil, _ => []
  | _, .cons f value rest, (a, as) => Json.memberText f.key (value.write a) :: rest.write as

end

/-- The JSON text of the field with a key. -/
def Fields.writeField? : {β : Type} → Fields β → String → β → Option (List Char)
  | _, .nil, _, _ => none
  | _, .cons f value rest, key, (a, as) =>
    if f.key = key then some (value.write a) else rest.writeField? key as

/-- The JSON text of the field of a record with a key. -/
def Shape.writeField? : {α : Type} → Shape α → String → α → Option (List Char)
  | _, .record _ fields view, key, a => fields.writeField? key (view.parts a)
  | _, _, _, _ => none

end Accelerator
