import Accelerator.Shape.Blank
import Mathlib.Tactic.Common

/-!
# The floats of a record

A property of all floats of a value (`Shape.AllReals`) and the value with every float replaced
(`Shape.mapReals`).  The floats of a blank value are zeros (`Shape.allReals_blank`).
-/

namespace Accelerator

/-! ## Definitions -/

mutual

/-- Every float of a value has a property. -/
def Shape.AllReals (p : Float → Prop) : {α : Type} → Shape α → α → Prop
  | _, .real, x => p x
  | _, .integer, _ => True
  | _, .flag, _ => True
  | _, .text, _ => True
  | _, .choice _, _ => True
  | _, .array _ entry, v => ∀ a ∈ v.toList, entry.AllReals p a
  | _, .list entry, l => ∀ a ∈ l, entry.AllReals p a
  | _, .optional value, o => ∀ a ∈ o, value.AllReals p a
  | _, .record _ fields view, a => fields.AllReals p (view.parts a)

/-- Every float of the fields has a property. -/
def Fields.AllReals (p : Float → Prop) : {β : Type} → Fields β → β → Prop
  | _, .nil, _ => True
  | _, .cons _ value rest, (a, as) => value.AllReals p a ∧ rest.AllReals p as

end

mutual

/-- The value with every float replaced. -/
def Shape.mapReals (g : Float → Float) : {α : Type} → Shape α → α → α
  | _, .real, x => g x
  | _, .integer, n => n
  | _, .flag, b => b
  | _, .text, s => s
  | _, .choice _, a => a
  | _, .array _ entry, v => v.map (entry.mapReals g)
  | _, .list entry, l => l.map (entry.mapReals g)
  | _, .optional value, o => o.map (value.mapReals g)
  | _, .record _ fields view, a => view.ofParts (fields.mapReals g (view.parts a))

/-- The fields with every float replaced. -/
def Fields.mapReals (g : Float → Float) : {β : Type} → Fields β → β → β
  | _, .nil, _ => ()
  | _, .cons _ value rest, (a, as) => (value.mapReals g a, rest.mapReals g as)

end

/-! ## Properties of all floats -/

mutual

theorem Shape.AllReals.imp {p q : Float → Prop} (h : ∀ x, p x → q x) : {α : Type} →
    (s : Shape α) → (a : α) → s.AllReals p a → s.AllReals q a
  | _, .real, x, hx => h x hx
  | _, .integer, _, _ => trivial
  | _, .flag, _, _ => trivial
  | _, .text, _, _ => trivial
  | _, .choice _, _, _ => trivial
  | _, .array _ entry, _, hv => fun a ha => Shape.AllReals.imp h entry a (hv a ha)
  | _, .list entry, _, hl => fun a ha => Shape.AllReals.imp h entry a (hl a ha)
  | _, .optional value, _, ho => fun a ha => Shape.AllReals.imp h value a (ho a ha)
  | _, .record _ fields view, a, ha => Fields.AllReals.imp h fields (view.parts a) ha

theorem Fields.AllReals.imp {p q : Float → Prop} (h : ∀ x, p x → q x) : {β : Type} →
    (fields : Fields β) → (as : β) → fields.AllReals p as → fields.AllReals q as
  | _, .nil, _, _ => trivial
  | _, .cons _ value rest, (a, as), has => by
    obtain ⟨ha, has⟩ := has
    exact ⟨Shape.AllReals.imp h value a ha, Fields.AllReals.imp h rest as has⟩

end

mutual

/-- The floats of a blank value are zeros. -/
theorem Shape.allReals_blank {p : Float → Prop} (h : p 0) : {α : Type} → (s : Shape α) →
    s.AllReals p s.blank
  | _, .real => h
  | _, .integer => trivial
  | _, .flag => trivial
  | _, .text => trivial
  | _, .choice _ => trivial
  | _, .array n entry => fun a ha => by
    rw [Shape.blank, Vector.toList_replicate] at ha
    rw [List.eq_of_mem_replicate ha]
    exact Shape.allReals_blank h entry
  | _, .list _ => nofun
  | _, .optional _ => nofun
  | _, .record _ fields view => by
    rw [Shape.AllReals, Shape.blank, view.parts_ofParts]
    exact Fields.allReals_blank h fields

theorem Fields.allReals_blank {p : Float → Prop} (h : p 0) : {β : Type} → (fields : Fields β) →
    fields.AllReals p fields.blank
  | _, .nil => trivial
  | _, .cons _ value rest => ⟨Shape.allReals_blank h value, Fields.allReals_blank h rest⟩

end

end Accelerator
