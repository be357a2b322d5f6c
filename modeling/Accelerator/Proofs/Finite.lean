import Accelerator.Proofs.Decimal.Finite
import Accelerator.Proofs.Equivalence
import Accelerator.Proofs.FileComparison

/-!
# What is read is finite

Whatever numbers a text contains, the floats of a record that is read from it are finite: a number
is refused where it leaves the range.  What a reader makes of every number holds of every float of
what it reads (`Shape.allReals_of_decode`).  So an element that is loaded from a file is equal to
itself, and the report on the file and itself says so (`finite_of_read`).
-/

namespace Accelerator

open Json

/-! ## Lists and members -/

section Entries

variable {α : Type} {entry : Document → Except ReadError α} {q : α → Prop}

theorem forall_mem_of_decodeItems (hq : ∀ d a, entry d = .ok a → q a) {items : Items}
    {as : List α} (h : decodeItems entry items = .ok as) : ∀ a ∈ as, q a := by
  fun_induction decodeItems entry items generalizing as with
  | case1 =>
    cases h
    exact nofun
  | case5 d rest ih =>
    obtain ⟨a, ha, h⟩ := bind_eq_ok_iff.1 h
    obtain ⟨bs, hbs, h⟩ := bind_eq_ok_iff.1 h
    cases h
    exact List.forall_mem_cons.2 ⟨hq d a ha, ih hbs⟩
  | _ => cases h

theorem forall_mem_of_decodeArray (hq : ∀ d a, entry d = .ok a → q a) {length seen n : Nat}
    {items : Items} {v : Vector α n} (h : decodeArray entry length seen n items = .ok v) :
    ∀ a ∈ v.toList, q a := by
  induction n generalizing seen items with
  | zero =>
    obtain rfl : v = #v[] := Vector.eq_empty
    exact nofun
  | succ n ih =>
    rw [decodeArray] at h
    obtain ⟨⟨d, rest⟩, -, h⟩ := bind_eq_ok_iff.1 h
    obtain ⟨a, ha, h⟩ := bind_eq_ok_iff.1 h
    obtain ⟨w, hw, h⟩ := bind_eq_ok_iff.1 h
    cases h
    rw [Vector.toList_cast, Vector.toList_append]
    exact List.forall_mem_cons.2 ⟨hq d a ha, ih hw⟩

/-- What every member keeps is kept by all of them. -/
theorem invariant_of_decodeMembers {σ : Type} {isFilled : σ → String → Bool}
    {fill : σ → String → Document → Except ReadError σ} {inv : σ → Prop}
    (hfill : ∀ slots key d slots', inv slots → fill slots key d = .ok slots' → inv slots')
    {members : Members} {slots slots' : σ} (hslots : inv slots)
    (h : decodeMembers isFilled fill slots members = .ok slots') : inv slots' := by
  fun_induction decodeMembers isFilled fill slots members with
  | case1 =>
    cases h
    exact hslots
  | case10 slots key d rest ih =>
    obtain ⟨-, -, h⟩ := bind_eq_ok_iff.1 h
    obtain ⟨name, -, h⟩ := bind_eq_ok_iff.1 h
    obtain ⟨filled, hfilled, h⟩ := bind_eq_ok_iff.1 h
    exact ih filled (hfill _ _ _ _ hslots hfilled) h
  | case7 | case8 | case9 =>
    obtain ⟨-, -, h⟩ := bind_eq_ok_iff.1 h
    cases h
  | _ => cases h

end Entries

/-! ## Values of a shape -/

section Decoding

/-- Every float of the values that are there has a property. -/
def Fields.SlotsHave (p : Float → Prop) : {β : Type} → (fields : Fields β) → fields.Slots → Prop
  | _, .nil, _ => True
  | _, .cons (α := α) _ value rest, slots =>
    let (slot, others) : Option α × rest.Slots := slots
    (∀ a ∈ slot, value.AllReals p a) ∧ rest.SlotsHave p others

variable {p : Float → Prop}

theorem Fields.slotsHave_noValues {β : Type} (fields : Fields β) :
    fields.SlotsHave p fields.noValues := by
  cases fields with
  | nil => trivial
  | cons _ _ rest => exact ⟨nofun, rest.slotsHave_noValues⟩

theorem Shape.allReals_of_absent? {α : Type} {s : Shape α} {a : α} (h : s.absent? = some a) :
    s.AllReals p a := by
  cases s with
  | optional value =>
    obtain rfl := Option.some_inj.1 h
    exact nofun
  | _ => cases h

theorem Fields.allReals_of_collect : {β : Type} → (fields : Fields β) → {slots : fields.Slots} →
    {as : β} → fields.SlotsHave p slots → fields.collect slots = .ok as → fields.AllReals p as
  | _, .nil, _, _, _, _ => trivial
  | _, .cons f value rest, slots, (a, as), h, hcollect => by
    obtain ⟨slot, others⟩ : Option _ × rest.Slots := slots
    obtain ⟨hslot, hothers⟩ := h
    obtain ⟨ha, has⟩ := (Fields.collect_cons_iff slot others a as).1 hcollect
    refine ⟨?_, rest.allReals_of_collect hothers has⟩
    rcases Option.or_eq_some_iff.1 ha with ha | ⟨-, ha⟩
    · exact hslot a ha
    · exact Shape.allReals_of_absent? ha

mutual

/-- What a reader makes of every number holds of every float of what it reads. -/
theorem Shape.allReals_of_decode (hp : ∀ d x, decodeReal d = .ok x → p x) : {α : Type} →
    (s : Shape α) → (d : Document) → (a : α) → s.decode d = .ok a → s.AllReals p a
  | _, .real, d, x, h => hp d x h
  | _, .integer, _, _, _ => trivial
  | _, .flag, _, _, _ => trivial
  | _, .text, _, _, _ => trivial
  | _, .choice _, _, _, _ => trivial
  | _, .array n entry, d, v, h => by
    cases d with
    | list items =>
      exact forall_mem_of_decodeArray (Shape.allReals_of_decode hp entry) h
    | _ => cases h
  | _, .list entry, d, l, h => by
    cases d with
    | list items =>
      exact forall_mem_of_decodeItems (Shape.allReals_of_decode hp entry) h
    | _ => cases h
  | _, .optional value, d, o, h => by
    by_cases hnull : d = .word .null
    · subst hnull
      cases h
      exact nofun
    · rw [Shape.decode_optional value hnull, map_eq_ok_iff] at h
      obtain ⟨a, ha, rfl⟩ := h
      rintro _ ⟨⟩
      exact Shape.allReals_of_decode hp value d a ha
  | _, .record name fields view, d, a, h => by
    cases d with
    | list items =>
      rw [Shape.decode, view.map_ofParts_eq_ok_iff] at h
      exact Fields.allReals_of_decodeItems hp fields _ _ _ _ _ h
    | object members =>
      rw [Shape.decode_record, view.map_ofParts_eq_ok_iff] at h
      obtain ⟨slots, hslots, hcollect⟩ := bind_eq_ok_iff.1 h
      apply fields.allReals_of_collect _ hcollect
      exact invariant_of_decodeMembers (Fields.slotsHave_of_decodeField hp fields)
        fields.slotsHave_noValues hslots
    | _ => cases h

theorem Fields.allReals_of_decodeItems (hp : ∀ d x, decodeReal d = .ok x → p x) : {β : Type} →
    (fields : Fields β) → (name : String) → (count seen : Nat) → (items : Items) → (as : β) →
    fields.decodeItems name count seen items = .ok as → fields.AllReals p as
  | _, .nil, _, _, _, _, _, _ => trivial
  | _, .cons f value rest, name, count, seen, items, as, h => by
    rw [Fields.decodeItems] at h
    obtain ⟨⟨d, others⟩, -, h⟩ := bind_eq_ok_iff.1 h
    obtain ⟨b, hb, h⟩ := bind_eq_ok_iff.1 h
    obtain ⟨bs, hbs, h⟩ := bind_eq_ok_iff.1 h
    cases h
    exact ⟨Shape.allReals_of_decode hp value d b hb,
      Fields.allReals_of_decodeItems hp rest name count (seen + 1) others bs hbs⟩

/-- One member keeps the property. -/
theorem Fields.slotsHave_of_decodeField (hp : ∀ d x, decodeReal d = .ok x → p x) : {β : Type} →
    (fields : Fields β) → (slots : fields.Slots) → (key : String) → (d : Document) →
    (slots' : fields.Slots) → fields.SlotsHave p slots →
    fields.decodeField slots key d = .ok slots' → fields.SlotsHave p slots'
  | _, .nil, _, _, _, _, _, _ => trivial
  | _, .cons f value rest, slots, key, d, slots', hslots, h => by
    obtain ⟨slot, others⟩ : Option _ × rest.Slots := slots
    obtain ⟨hslot, hothers⟩ := hslots
    by_cases hkey : f.key = key
    · subst hkey
      obtain ⟨a, ha, h⟩ := bind_eq_ok_iff.1 ((decodeField_cons_self slot others d).symm.trans h)
      cases h
      refine ⟨?_, hothers⟩
      rintro _ ⟨⟩
      exact Shape.allReals_of_decode hp value d a ha
    · obtain ⟨filled, hfilled, h⟩ :=
        bind_eq_ok_iff.1 ((decodeField_cons_of_ne hkey slot others d).symm.trans h)
      cases h
      exact ⟨hslot, Fields.slotsHave_of_decodeField hp rest others key d filled hothers hfilled⟩

end

end Decoding

/-! ## Records -/

/-- A text is read by decoding the document at its front. -/
theorem Shape.decode_of_readChars {α : Type} {s : Shape α} {text : List Char} {a : α}
    (h : s.readChars text = .ok a) : s.decode (documentOf text) = .ok a := by
  unfold readChars at h
  simp only at h
  obtain ⟨b, hb, h⟩ := bind_eq_ok_iff.1 h
  split at h
  · split_ifs at h
    rwa [← Except.ok.inj h]
  · cases h

/-- The floats of a record that is read are finite. -/
theorem RecordKind.allReals_of_read {k : RecordKind} {text : String} {r : k.Carrier}
    (h : Record.read text = .ok r) : k.shape.AllReals (·.isFinite = true) r :=
  Shape.allReals_of_decode (fun _ _ => isFinite_of_decodeReal) k.shape _ r
    (Shape.decode_of_readChars h)

/-! ## Elements from files -/

/-- An element that is read is equal to itself. -/
theorem Element.beq_self_of_read {text : String} {x : Element} (h : Record.read text = .ok x) :
    (x == x) = true := by
  have hfinite := RecordKind.allReals_of_read (k := .element) h
  refine (RecordKind.beq_iff_inUse .element x x).2 ⟨trivial, trivial, ?_⟩
  rw [Shape.equal_self_iff]
  exact Shape.AllReals.imp (fun _ => isNaN_of_isFinite) _ x hfinite

/-- On elements that are equal every group agrees. -/
theorem groupLine_of_beq {x y : Element} (h : (x == y) = true) : ∀ g ∈ elementGroups,
    groupLine x y g = textBytes (g.label ++ ": 1") := by
  rw [← allMatched_evaluate, allMatched_eq_all_agree, List.all_eq_true] at h
  intro g hg
  rw [groupLine, h g hg, flagDigit, if_pos rfl, String.append_assoc]
  rfl

/-- Every float of a record that is read is finite, whatever the text.  So the contents of a file
that hold an element hold one that is equal to itself: the comparison of the element with itself
succeeds, and all lines of the report end in 1. -/
theorem finite_of_read :
    (∀ (k : RecordKind) (text : String) (r : k.Carrier), Record.read text = .ok r →
      k.shape.AllReals (·.isFinite = true) r) ∧
    ∀ (c : Contents) (path path' : String) (x y : Element),
      elementOf path c = .ok x → elementOf path' c = .ok y → ∀ taken : List UInt8,
        (diffElements x y ⟨none, taken⟩).2.result = .ok true ∧
        ∃ report, (diffElements x y ⟨none, taken⟩).1.taken = taken ++ report ∧
          byteLines report = elementGroups.map (fun g => textBytes (g.label ++ ": 1")) ++
            [textBytes "all: 1"] := by
  refine ⟨fun _ _ _ => RecordKind.allReals_of_read, ?_⟩
  intro c path path' x y hx hy taken
  have hx := Contents.holds_of_elementOf hx
  obtain rfl := hx.unique (Contents.holds_of_elementOf hy)
  obtain ⟨text, -, hread⟩ := hx
  have hself : (x == x) = true := Element.beq_self_of_read hread
  rw [diffElements_unlimited, hself]
  refine ⟨rfl, _, rfl, ?_⟩
  rw [byteLines_reportTexts, hself, List.map_congr_left (groupLine_of_beq hself)]
  rfl

/-- The largest float, a number that is too small, and a zero with a huge exponent. -/
def extreme : String :=
  "\x7b\"tune\":1.7976931348623157e308,\"emit\":-123456789012345678901234567890e-400," ++
    "\"chrom\":0.0e99999999999999999999\x7d"

/-- Numbers near both ends of the range, and a file with the blank element. -/
theorem finite_of_read_extreme :
    (∃ r : PlaneSummary, Record.read extreme = .ok r ∧
      PlaneSummary.shape.AllReals (·.isFinite = true) r) ∧
    let c : Contents := .ok (Record.write Element.shape.blank).toUTF8
    elementOf "a.json" c = .ok Element.shape.blank ∧
      (diffElements Element.shape.blank Element.shape.blank ⟨none, []⟩).2.result = .ok true := by
  constructor
  · have hreads : (Record.read extreme : Except ReadError PlaneSummary).toOption.isSome = true := by
      decide +kernel
    obtain ⟨r, hr⟩ := Option.isSome_iff_exists.1 hreads
    have hr := eq_ok_of_toOption_eq hr
    exact ⟨r, hr, finite_of_read.1 .planeSummary extreme r hr⟩
  · intro c
    have hc : elementOf "a.json" c = .ok Element.shape.blank :=
      Contents.elementOf_of_holds _ ⟨_, rfl, RecordKind.element.read_write_blank⟩
    exact ⟨hc, (finite_of_read.2 c _ _ _ _ hc hc []).1⟩

end Accelerator
