import Accelerator.Proofs.Shape.Alike
import Accelerator.Proofs.Shape.Members

/-!
# Reading what was written

Reading the text of a value changes nothing but its floats: what is read is a value alike it, in
which every float is what the text of the float in its place is read as (`reread`), and there is an
error if there is no such value (`Shape.decode_document_iff`).
-/

namespace Accelerator

open Json

/-! ## Floats -/

/-- What the text of a float is read as, if it reads. -/
def reread (x : Float) : Option Float :=
  (Shape.real.readChars (realText x)).toOption

/-- The text of a float reads. -/
def Rereads (x : Float) : Prop :=
  (reread x).isSome = true

/-- The float that is read where a float was written; the float itself if nothing is read. -/
def afterward (x : Float) : Float :=
  (reread x).getD x

theorem reread_eq (x : Float) : reread x = (decodeReal (realDocument x)).toOption :=
  congrArg Except.toOption (Shape.real.readChars_write x)

theorem decodeReal_realDocument_iff (x y : Float) :
    decodeReal (realDocument x) = .ok y ↔ reread x = some y := by
  rw [reread_eq]
  cases decodeReal (realDocument x) <;> simp [Except.toOption]

theorem reread_eq_some_iff (x y : Float) : reread x = some y ↔ Rereads x ∧ afterward x = y := by
  rw [Rereads, afterward]
  cases reread x <;> simp

/-! ## Integers, text and choices -/

theorem value_integerNumeral {n : Int} (h : n.natAbs < 2 ^ 63) :
    (integerNumeral n).value = some (.integer n) := by
  have hg := gather_digits (show n.natAbs < 2 ^ 64 by omega)
  by_cases hneg : n < 0
  · have hpos : 0 < n.natAbs ∧ n.natAbs ≤ 0x8000000000000000 := by omega
    simp only [Numeral.value, integerNumeral, hg, hneg, decide_true, not_true_eq_false, if_false,
      if_pos hpos]
    simp only [List.isEmpty_nil, Option.isNone_none, and_self, if_true, Option.some_inj,
      Number.integer.injEq]
    omega
  · simp only [Numeral.value, integerNumeral, hg, hneg, decide_false, Bool.false_eq_true,
      not_false_eq_true, if_true]
    simp only [List.isEmpty_nil, Option.isNone_none, and_self, if_true, Option.some_inj,
      Number.integer.injEq]
    omega

theorem decodeInteger_integerNumeral (n : Int32) :
    decodeInteger (.number (integerNumeral n.toInt)) = .ok n := by
  have hlo := n.le_toInt
  have hhi := n.toInt_lt
  rw [decodeInteger, numberOf, value_integerNumeral (by omega)]
  simp only
  rw [if_pos (by omega), Int32.ofInt_toInt]

theorem ofKey?_key {α : Type} (c : Choice α) (a : α) : c.ofKey? (c.key a) = some a := by
  cases h : c.ofKey? (c.key a) with
  | none =>
    have := List.find?_eq_none.1 h a (c.mem_all a)
    exact absurd (decide_eq_true rfl) this
  | some b =>
    have := List.find?_some h
    rw [c.key_injective (of_decide_eq_true this)]

theorem decodeChoice_key {α : Type} (c : Choice α) (a : α) :
    decodeChoice c (.string (.ofText (c.key a))) = .ok a := by
  rw [decodeChoice, Quoted.decode_ofText]
  change chosen c (c.key a) = _
  rw [chosen, ofKey?_key]

/-! ## Lists and arrays -/

section Lists

variable {α : Type} {entry : Document → Except ReadError α} {doc : α → Document}
  {R : α → α → Prop}

theorem decodeItems_ofList_iff (h : ∀ a b, entry (doc a) = .ok b ↔ R a b) (as bs : List α) :
    decodeItems entry (.ofList (as.map doc)) = .ok bs ↔ List.Forall₂ R as bs := by
  induction as generalizing bs with
  | nil =>
    change Except.ok [] = Except.ok bs ↔ _
    rw [Except.ok.injEq, List.forall₂_nil_left_iff, eq_comm]
  | cons a as ih =>
    rw [List.map_cons, Items.ofList, decodeItems, bind_eq_ok_iff, List.forall₂_cons_left_iff]
    simp only [bind_eq_ok_iff, h, ih]
    constructor
    · rintro ⟨b, hb, bs, hbs, ⟨⟩⟩
      exact ⟨b, bs, hb, hbs, rfl⟩
    · rintro ⟨b, bs, hb, hbs, rfl⟩
      exact ⟨b, hb, bs, hbs, rfl⟩

theorem decodeArray_ofList_iff (h : ∀ a b, entry (doc a) = .ok b ↔ R a b)
    (length seen n : Nat) (as : List α) (hn : as.length = n) (v : Vector α n) :
    decodeArray entry length seen n (.ofList (as.map doc)) = .ok v ↔
      List.Forall₂ R as v.toList := by
  induction n generalizing as seen with
  | zero =>
    obtain rfl := List.length_eq_zero_iff.1 hn
    obtain rfl : v = #v[] := Vector.eq_empty
    exact iff_of_true rfl .nil
  | succ n ih =>
    obtain ⟨a, as, rfl⟩ := List.exists_cons_of_length_eq_add_one hn
    have hlen : as.length = n := Nat.succ.inj hn
    change (entry (doc a) >>= fun x => decodeArray entry length (seen + 1) n (.ofList (as.map doc))
      >>= fun xs => .ok ((#v[x] ++ xs).cast (Nat.add_comm 1 n))) = .ok v ↔ _
    simp only [bind_eq_ok_iff, h, List.forall₂_cons_left_iff]
    constructor
    · rintro ⟨b, hb, w, hw, ⟨⟩⟩
      refine ⟨b, w.toList, hb, (ih (seen + 1) as hlen w).1 hw, ?_⟩
      rw [Vector.toList_cast, Vector.toList_append]
      rfl
    · rintro ⟨b, bs, hb, hbs, hv⟩
      let w : Vector α n := ⟨bs.toArray, by simpa using hbs.length_eq.symm.trans hlen⟩
      refine ⟨b, hb, w, (ih (seen + 1) as hlen w).2 hbs, ?_⟩
      apply congrArg Except.ok
      apply Vector.toList_inj.1
      rw [hv, Vector.toList_cast, Vector.toList_append]
      rfl

end Lists

/-! ## Members -/

theorem Fields.keys_members : {β : Type} → (fields : Fields β) → (as : β) →
    (fields.members as).map Prod.fst = fields.keys
  | _, .nil, _ => rfl
  | _, .cons f _ rest, as => congrArg (f.key :: ·) (Fields.keys_members rest as.2)

theorem Shape.decode_optional {α : Type} (value : Shape α) {d : Document}
    (h : d ≠ .word .null) : (Shape.optional value).decode d = some <$> value.decode d := by
  rw [Shape.decode]
  exact h

/-! ## Values -/

mutual

/-- The document of a value decodes to the values alike it whose floats are the reread ones. -/
theorem Shape.decode_document_iff : {α : Type} → (s : Shape α) → s.sound = true → (a b : α) →
    (s.decode (s.document a) = .ok b ↔ s.Alike (fun x y => reread x = some y) a b)
  | _, .real, _, x, y => decodeReal_realDocument_iff x y
  | _, .integer, _, n, m => by
    rw [Shape.decode, Shape.document, decodeInteger_integerNumeral, Except.ok.injEq, Shape.Alike]
  | _, .flag, _, b, c => by
    change Except.ok b = Except.ok c ↔ _
    rw [Except.ok.injEq, Shape.Alike]
  | _, .text, _, s, t => by
    rw [Shape.decode, Shape.document, decodeText, Quoted.decode_ofText, Except.ok.injEq,
      Shape.Alike]
  | _, .choice c, _, a, b => by
    rw [Shape.decode, Shape.document, decodeChoice_key, Except.ok.injEq, Shape.Alike]
  | _, .array n entry, hs, v, w =>
    decodeArray_ofList_iff (Shape.decode_document_iff entry hs) n 0 n v.toList v.length_toList w
  | _, .list entry, hs, l, m => decodeItems_ofList_iff (Shape.decode_document_iff entry hs) l m
  | _, .optional value, hs, o, q => by
    obtain ⟨hrec, hs⟩ := Bool.and_eq_true_iff.1 hs
    cases o with
    | none =>
      change Except.ok none = Except.ok q ↔ Option.Rel _ none q
      cases q <;> simp
    | some a =>
      change (Shape.optional value).decode (value.document a) = _ ↔ Option.Rel _ (some a) q
      rw [Shape.decode_optional value (Shape.document_ne_null hrec a), map_eq_ok_iff]
      simp only [Shape.decode_document_iff value hs]
      cases q <;> simp
  | _, .record name fields view, hs, a, b => by
    rw [Shape.document, Shape.decode_record, view.map_ofParts_eq_ok_iff,
      Fields.decodeAll_members_iff fields hs, Shape.Alike]

theorem Fields.decodeAll_members_iff : {β : Type} → (fields : Fields β) → fields.sound = true →
    (as bs : β) → (fields.decodeAll (.ofList (fields.members as)) = .ok bs ↔
      fields.Alike (fun x y => reread x = some y) as bs)
  | _, .nil, _, _, _ => iff_of_true rfl trivial
  | _, .cons f value rest, hs, (a, as), (b, bs) => by
    obtain ⟨hfresh, -⟩ := List.nodup_cons.1 (Fields.nodup_keys hs)
    obtain ⟨hs, hrest⟩ := Bool.and_eq_true_iff.1 hs
    obtain ⟨-, hs⟩ := Bool.and_eq_true_iff.1 hs
    have hne : ∀ m ∈ rest.members as, m.1 ≠ f.key := by
      intro m hm heq
      apply hfresh
      rw [← heq, ← Fields.keys_members rest as]
      exact List.mem_map_of_mem hm
    have hvalues : valuesAt f.key ((f.key, value.document a) :: rest.members as) =
        [value.document a] := by
      rw [valuesAt_cons_self, valuesAt_eq_nil_iff.2 hne]
    have hothers : ((f.key, value.document a) :: rest.members as).filter (fun m => m.1 ≠ f.key) =
        rest.members as := by
      rw [List.filter_cons_of_neg (by simp), List.filter_eq_self]
      exact fun m hm => decide_eq_true (hne m hm)
    rw [Fields.members, Fields.decodeAll_cons_iff, givenAt_of_valuesAt_eq hvalues, hothers,
      Shape.decode_document_iff value hs, Fields.decodeAll_members_iff rest hrest, Fields.Alike]

end

end Accelerator
