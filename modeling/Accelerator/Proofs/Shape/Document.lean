import Accelerator.Proofs.Decimal.Shortest
import Accelerator.Proofs.Json.Document
import Accelerator.Proofs.Shape.Reals
import Accelerator.Shape.Reading
import Accelerator.Shape.Writing

/-!
# Records as documents

The document that a value is written as (`Shape.document`): its text scans as that document, so that
reading what was written is decoding the document (`Shape.readChars_write`).
-/

namespace Accelerator

open Json

/-! ## Definitions -/

/-- The numeral that an integer is written as. -/
def integerNumeral (n : Int) : Numeral :=
  ⟨n < 0, digits n.natAbs, [], none⟩

/-- The document that a float is written as. -/
def realDocument (x : Float) : Document :=
  if x.isFinite then .number (layout.numeralOf x) else .word .null

mutual

/-- The document that a value is written as. -/
def Shape.document : {α : Type} → Shape α → α → Document
  | _, .real, x => realDocument x
  | _, .integer, n => .number (integerNumeral n.toInt)
  | _, .flag, b => .word (.flag b)
  | _, .text, s => .string (.ofText s)
  | _, .choice c, a => .string (.ofText (c.key a))
  | _, .array _ entry, v => .list (.ofList (v.toList.map entry.document))
  | _, .list entry, l => .list (.ofList (l.map entry.document))
  | _, .optional _, none => .word .null
  | _, .optional value, some a => value.document a
  | _, .record _ fields view, a => .object (.ofList (fields.members (view.parts a)))

/-- The members that fields are written as. -/
def Fields.members : {β : Type} → Fields β → β → List (String × Document)
  | _, .nil, _ => []
  | _, .cons f value rest, (a, as) => (f.key, value.document a) :: rest.members as

end

/-! ## The text of a document -/

theorem integerNumeral_text (n : Int) : intText n = (integerNumeral n).text := by
  cases n with
  | ofNat n =>
    simp [intText, natText, integerNumeral, Numeral.text, Numeral.fractionText,
      Numeral.exponentText]
  | negSucc n =>
    simp [intText, natText, integerNumeral, Numeral.text, Numeral.fractionText,
      Numeral.exponentText, Int.negSucc_lt_zero]

theorem proper_integerNumeral (n : Int) : (integerNumeral n).Proper := by
  refine ⟨digits_ne_nil _, ?_, nofun⟩
  intro h
  rcases Nat.eq_zero_or_pos n.natAbs with h0 | h0
  · show digits n.natAbs = [0]
    rw [h0]
    decide +kernel
  · exact absurd h (head?_digits_ne_zero h0)

theorem realText_of_not_isFinite {x : Float} (h : ¬x.isFinite = true) : realText x = nullText := by
  rw [realText, Layout.text, if_neg h]
  split_ifs <;> rfl

theorem writes_realText (x : Float) : Writes (realText x) (realDocument x) := by
  by_cases h : x.isFinite = true
  · rw [realText, Layout.text, if_pos h, realDocument, if_pos h]
    exact writes_numberText (Layout.proper_numeralOf _ _)
  · rw [realText_of_not_isFinite h, realDocument, if_neg h]
    exact writes_nullText

theorem forall₂_map {α β γ : Type} {R : β → γ → Prop} {f : α → β} {g : α → γ} (l : List α)
    (h : ∀ a, R (f a) (g a)) : List.Forall₂ R (l.map f) (l.map g) := by
  rw [List.forall₂_map_left_iff, List.forall₂_map_right_iff, List.forall₂_same]
  intro a _
  exact h a

mutual

/-- The text of a value is that of its document. -/
theorem Shape.writes_document : {α : Type} → (s : Shape α) → (a : α) →
    Writes (s.write a) (s.document a)
  | _, .real, x => writes_realText x
  | _, .integer, n => by
    rw [Shape.write, Shape.document, integerNumeral_text]
    exact writes_numberText (proper_integerNumeral n.toInt)
  | _, .flag, b => writes_flagText b
  | _, .text, s => writes_stringText s
  | _, .choice c, a => writes_stringText (c.key a)
  | _, .array _ entry, v => writes_arrayText (forall₂_map v.toList (Shape.writes_document entry))
  | _, .list entry, l => writes_arrayText (forall₂_map l (Shape.writes_document entry))
  | _, .optional _, none => writes_nullText
  | _, .optional value, some a => Shape.writes_document value a
  | _, .record _ fields view, a => writes_objectText (Fields.writes_members fields (view.parts a))

theorem Fields.writes_members : {β : Type} → (fields : Fields β) → (as : β) →
    List.Forall₂ WritesMember (fields.write as) (fields.members as)
  | _, .nil, _ => .nil
  | _, .cons _ value rest, (a, as) =>
    .cons ⟨_, rfl, Shape.writes_document value a⟩ (Fields.writes_members rest as)

end

/-- A text with blanks around it is read by decoding the document that it is the text of. -/
theorem Shape.readChars_of_writes {α : Type} (s : Shape α) {p w w' : List Char} {d : Document}
    (hp : Writes p d) (hw : Blanks w) (hw' : Blanks w') :
    s.readChars (w ++ (p ++ w')) = s.decode d := by
  have hs : skipBlanks (w ++ (p ++ w')) = p ++ w' := by
    rw [skipBlanks_append hw, hp.starts.skipBlanks_append]
  have hends : Numeral.Ends w' := by
    have := ends_blanks_append hw' Numeral.ends_nil
    rwa [List.append_nil] at this
  have hrest : skipBlanks w' = [] := List.dropWhile_eq_nil_iff.2 hw'
  obtain ⟨hlt, h⟩ := hp.finds _ w' hs hends
  rw [Shape.readChars, h]
  change (s.decode d >>= fun a => if (skipBlanks w').isEmpty then Except.ok a else _) = _
  rw [hrest]
  cases s.decode d <;> rfl

/-- The text of a document is read by decoding it. -/
theorem Shape.readChars_eq_decode {α : Type} (s : Shape α) {p : List Char} {d : Document}
    (hp : Writes p d) : s.readChars p = s.decode d := by
  have := s.readChars_of_writes hp blanks_nil blanks_nil
  rwa [List.nil_append, List.append_nil] at this

/-- What was written is read by decoding its document. -/
theorem Shape.readChars_write {α : Type} (s : Shape α) (a : α) :
    s.readChars (s.write a) = s.decode (s.document a) :=
  s.readChars_eq_decode (s.writes_document a)

/-! ## Sound shapes -/

theorem Choice.key_injective {α : Type} (c : Choice α) : Function.Injective c.key :=
  fun a b h => List.inj_on_of_nodup_map c.nodup (c.mem_all a) (c.mem_all b) h

/-- Values of a shape are written as objects. -/
def Shape.isRecord : {α : Type} → Shape α → Bool
  | _, .record .. => true
  | _, _ => false

mutual

/-- The keys of the fields of a record are distinct, and only records are optional. -/
def Shape.sound : {α : Type} → Shape α → Bool
  | _, .array _ entry => entry.sound
  | _, .list entry => entry.sound
  | _, .optional value => value.isRecord && value.sound
  | _, .record _ fields _ => fields.sound
  | _, _ => true

/-- The keys of the fields are distinct, also those of the records in them. -/
def Fields.sound : {β : Type} → Fields β → Bool
  | _, .nil => true
  | _, .cons f value rest => !rest.keys.contains f.key && value.sound && rest.sound

end

theorem Shape.document_ne_null {α : Type} {s : Shape α} (h : s.isRecord = true) (a : α) :
    s.document a ≠ .word .null := by
  cases s with
  | record => exact nofun
  | _ => cases h

end Accelerator
