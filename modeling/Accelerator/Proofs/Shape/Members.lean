import Accelerator.Proofs.Equality
import Accelerator.Proofs.Shape.Document

/-!
# Records from members and from items

An object is read into a record iff each field is given its value (`Shape.decode_object_iff`): the
value of the only member with its key, or the value for the case that there is none (`GivenAt`).
All other members are passed over.  A list is read into a record iff its items are the values of the
fields, in order (`Shape.decode_list_iff`).
-/

namespace Accelerator

open Json

section Results

variable {ε α β : Type}

theorem bind_eq_ok_iff {x : Except ε α} {f : α → Except ε β} {b : β} :
    x >>= f = .ok b ↔ ∃ a, x = .ok a ∧ f a = .ok b := by
  cases x with
  | error e => exact iff_of_false nofun nofun
  | ok a =>
    constructor
    · intro h
      exact ⟨a, rfl, h⟩
    · rintro ⟨_, ⟨⟩, h⟩
      exact h

theorem map_eq_ok_iff {x : Except ε α} {f : α → β} {b : β} :
    f <$> x = .ok b ↔ ∃ a, x = .ok a ∧ f a = b := by
  cases x with
  | error e => exact iff_of_false nofun nofun
  | ok a =>
    constructor
    · intro h
      exact ⟨a, rfl, Except.ok.inj h⟩
    · rintro ⟨_, ⟨⟩, rfl⟩
      rfl

theorem map_eq_error_iff {x : Except ε α} {f : α → β} {e : ε} :
    f <$> x = .error e ↔ x = .error e := by
  cases x with
  | error e' =>
    constructor
    · intro h
      exact congrArg Except.error (Except.error.inj h)
    · intro h
      exact congrArg Except.error (Except.error.inj h)
  | ok a => exact iff_of_false nofun nofun

theorem eq_ok_of_toOption_eq {x : Except ε α} {a : α} (h : x.toOption = some a) : x = .ok a := by
  cases x with
  | error e => cases h
  | ok b => exact congrArg Except.ok (Option.some_inj.1 h)

end Results

/-! ## Values of a key -/

section Given

variable {α δ : Type}

/-- The values of the members with a key. -/
def valuesAt (key : String) (ms : List (String × δ)) : List δ :=
  (ms.filter fun m => m.1 = key).map Prod.snd

/-- A key is given a value: the only member with the key reads as it, or there is no such member and
it is the value for that case. -/
def GivenAt (reads : δ → Except ReadError α) (absent? : Option α) (key : String)
    (ms : List (String × δ)) (a : α) : Prop :=
  (∃ d, valuesAt key ms = [d] ∧ reads d = .ok a) ∨ (valuesAt key ms = [] ∧ absent? = some a)

variable {key : String} {ms : List (String × δ)}

theorem valuesAt_cons_self (key : String) (d : δ) (ms : List (String × δ)) :
    valuesAt key ((key, d) :: ms) = d :: valuesAt key ms := by
  rw [valuesAt, List.filter_cons_of_pos (by simp)]
  rfl

theorem valuesAt_cons_of_ne {m : String × δ} (h : m.1 ≠ key) (ms : List (String × δ)) :
    valuesAt key (m :: ms) = valuesAt key ms := by
  rw [valuesAt, List.filter_cons_of_neg (by simpa using h), valuesAt]

theorem valuesAt_eq_nil_iff : valuesAt key ms = [] ↔ ∀ m ∈ ms, m.1 ≠ key := by
  rw [valuesAt, List.map_eq_nil_iff, List.filter_eq_nil_iff]
  simp only [decide_eq_true_eq, ne_eq]

/-- Members are told apart by their keys before or after others are left out. -/
theorem valuesAt_filter {p : String × δ → Bool} (h : ∀ m ∈ ms, m.1 = key → p m = true) :
    valuesAt key (ms.filter p) = valuesAt key ms := by
  rw [valuesAt, List.filter_filter, valuesAt]
  congr 1
  apply List.filter_congr
  intro m hm
  by_cases hkey : m.1 = key
  · rw [h m hm hkey, Bool.and_true]
  · rw [decide_eq_false hkey, Bool.false_and]

theorem perm_valuesAt {ms' : List (String × δ)} {p : String × δ → Bool}
    (hp : ∀ m : String × δ, m.1 = key → p m = true) (h : (ms.filter p).Perm (ms'.filter p)) :
    (valuesAt key ms).Perm (valuesAt key ms') := by
  have hms : valuesAt key (ms.filter p) = valuesAt key ms := valuesAt_filter fun m _ => hp m
  have hms' : valuesAt key (ms'.filter p) = valuesAt key ms' := valuesAt_filter fun m _ => hp m
  rw [← hms, ← hms']
  exact (h.filter _).map _

theorem givenAt_congr_of_perm {reads : δ → Except ReadError α} {absent? : Option α}
    {ms' : List (String × δ)} (h : (valuesAt key ms).Perm (valuesAt key ms')) (a : α) :
    GivenAt reads absent? key ms a ↔ GivenAt reads absent? key ms' a := by
  have hone : ∀ d, valuesAt key ms = [d] ↔ valuesAt key ms' = [d] := by
    intro d
    rw [← List.perm_singleton, ← List.perm_singleton, h.congr_left]
  have hnone : valuesAt key ms = [] ↔ valuesAt key ms' = [] := by
    rw [← List.perm_nil, ← List.perm_nil, h.congr_left]
  simp only [GivenAt, hone, hnone]

/-- Values that are turned into others before they are read. -/
theorem givenAt_map_iff {δ' : Type} {g : δ → δ'} {reads : δ → Except ReadError α}
    {reads' : δ' → Except ReadError α} {absent? : Option α}
    (h : ∀ m ∈ ms, reads' (g m.2) = reads m.2) (a : α) :
    GivenAt reads' absent? key (ms.map fun m => (m.1, g m.2)) a ↔
      GivenAt reads absent? key ms a := by
  have hvalues : valuesAt key (ms.map fun m => (m.1, g m.2)) = (valuesAt key ms).map g := by
    rw [valuesAt, List.filter_map, List.map_map, valuesAt, List.map_map]
    rfl
  have hreads : ∀ d ∈ valuesAt key ms, reads' (g d) = reads d := by
    intro d hd
    obtain ⟨m, hm, rfl⟩ := List.mem_map.1 hd
    exact h m (List.mem_filter.1 hm).1
  rw [GivenAt, GivenAt, hvalues, List.map_eq_nil_iff]
  apply or_congr_left
  constructor
  · rintro ⟨d', hd', ha⟩
    obtain ⟨d, hd, rfl⟩ := List.map_eq_singleton_iff.1 hd'
    exact ⟨d, hd, by rwa [← hreads d (by rw [hd]; exact List.mem_singleton_self d)]⟩
  · rintro ⟨d, hd, ha⟩
    refine ⟨g d, by rw [hd]; rfl, ?_⟩
    rwa [hreads d (by rw [hd]; exact List.mem_singleton_self d)]

theorem exists_givenAt_iff {reads : δ → Except ReadError α} {absent? : Option α} :
    (∃ a, GivenAt reads absent? key ms a) ↔
      (∃ d, valuesAt key ms = [d] ∧ ∃ a, reads d = .ok a) ∨
        (valuesAt key ms = [] ∧ absent?.isSome = true) := by
  simp only [GivenAt, exists_or, Option.isSome_iff_exists, ← exists_and_left]
  rw [exists_comm]

theorem givenAt_of_valuesAt_eq {reads : δ → Except ReadError α} {absent? : Option α} {d : δ}
    (h : valuesAt key ms = [d]) (a : α) :
    GivenAt reads absent? key ms a ↔ reads d = .ok a := by
  rw [GivenAt, h]
  simp

end Given

/-! ## Members -/

section Members

variable {σ : Type} {isFilled : σ → String → Bool}
  {fill : σ → String → Document → Except ReadError σ}

theorem decodeMembers_member {q : Quoted} {key : String} (hkey : q.decode = .ok key) (slots : σ)
    (d : Document) (members : Members) :
    decodeMembers isFilled fill slots (.member q d members) =
      if isFilled slots key then .error (.duplicate key)
      else fill slots key d >>= fun slots => decodeMembers isFilled fill slots members := by
  rw [decodeMembers, decodeMembers.refuse, hkey]
  cases h : isFilled slots key <;> simp only [bind, Except.bind, h] <;> rfl

/-- Members are read by what their keys read as. -/
theorem decodeMembers_ofParts {ns : List (Quoted × Document)} {ms : List (String × Document)}
    (h : List.Forall₂ (fun n m => n.1.decode = .ok m.1 ∧ n.2 = m.2) ns ms) (slots : σ) :
    decodeMembers isFilled fill slots (.ofParts ns) =
      decodeMembers isFilled fill slots (.ofList ms) := by
  induction h generalizing slots with
  | nil => rfl
  | @cons n m ns ms hn _ ih =>
    obtain ⟨q, d⟩ := n
    obtain ⟨key, d⟩ := m
    obtain ⟨hkey, rfl⟩ := hn
    rw [Members.ofParts, Members.ofList, decodeMembers_member hkey,
      decodeMembers_member (Quoted.decode_ofText key)]
    simp only [ih]

end Members

/-! ## Fields -/

/-- Reads the fields of a record from its members. -/
def Fields.decodeAll {β : Type} (fields : Fields β) (members : Members) : Except ReadError β :=
  decodeMembers fields.isFilled fields.decodeField fields.noValues members >>= fields.collect

section Fields

variable {α β : Type} {f : Field} {value : Shape α} {rest : Fields β}

/-- Values for the first field and for some of the others. -/
def Fields.Slots.cons (slot : Option α) (others : rest.Slots) : (Fields.cons f value rest).Slots :=
  (slot, others)

theorem isFilled_cons_self (slot : Option α) (others : rest.Slots) :
    (Fields.cons f value rest).isFilled (.cons slot others) f.key = slot.isSome :=
  if_pos rfl

theorem isFilled_cons_of_ne {key : String} (h : f.key ≠ key) (slot : Option α)
    (others : rest.Slots) :
    (Fields.cons f value rest).isFilled (.cons slot others) key = rest.isFilled others key :=
  if_neg h

theorem decodeField_cons_self (slot : Option α) (others : rest.Slots) (d : Document) :
    (Fields.cons f value rest).decodeField (.cons slot others) f.key d =
      value.decode d >>= fun a => .ok (.cons (some a) others) :=
  if_pos rfl

theorem decodeField_cons_of_ne {key : String} (h : f.key ≠ key) (slot : Option α)
    (others : rest.Slots) (d : Document) :
    (Fields.cons f value rest).decodeField (.cons slot others) key d =
      rest.decodeField others key d >>= fun others => .ok (.cons slot others) :=
  if_neg h

/-- The values of a key are read one after the other; a value is read only where there is none. -/
inductive Fills (reads : Document → Except ReadError α) :
    Option α → List Document → Option α → Prop
  | nil (slot : Option α) : Fills reads slot [] slot
  | cons {d : Document} {ds : List Document} {a : α} {slot : Option α} (ha : reads d = .ok a)
      (hds : Fills reads (some a) ds slot) : Fills reads none (d :: ds) slot

theorem fills_nil_iff {reads : Document → Except ReadError α} {slot slot' : Option α} :
    Fills reads slot [] slot' ↔ slot = slot' := by
  constructor
  · rintro ⟨⟩
    rfl
  · rintro rfl
    exact .nil slot

theorem fills_cons_iff {reads : Document → Except ReadError α} {d : Document} {ds : List Document}
    {slot slot' : Option α} : Fills reads slot (d :: ds) slot' ↔
      slot = none ∧ ∃ a, reads d = .ok a ∧ Fills reads (some a) ds slot' := by
  constructor
  · rintro ⟨⟩
    exact ⟨rfl, _, ‹_›, ‹_›⟩
  · rintro ⟨rfl, a, ha, hds⟩
    exact .cons ha hds

/-- The first field is read from the members with its key, and all others from the other members. -/
theorem decodeMembers_cons_iff (slot slot' : Option α) (others others' : rest.Slots)
    (ms : List (String × Document)) :
    decodeMembers (Fields.cons f value rest).isFilled (Fields.cons f value rest).decodeField
        (.cons slot others) (.ofList ms) = .ok (.cons slot' others') ↔
      Fills value.decode slot (valuesAt f.key ms) slot' ∧
        decodeMembers rest.isFilled rest.decodeField others
          (.ofList (ms.filter fun m => m.1 ≠ f.key)) = .ok others' := by
  induction ms generalizing slot others with
  | nil =>
    change Except.ok (slot, others) = Except.ok (slot', others') ↔
      Fills _ slot [] slot' ∧ Except.ok others = Except.ok others'
    rw [Except.ok.injEq, Except.ok.injEq, Prod.mk.injEq, fills_nil_iff]
  | cons m ms ih =>
    obtain ⟨key, d⟩ := m
    rw [Members.ofList, decodeMembers_member (Quoted.decode_ofText key)]
    by_cases hkey : f.key = key
    · subst hkey
      rw [isFilled_cons_self, decodeField_cons_self, valuesAt_cons_self, fills_cons_iff,
        List.filter_cons_of_neg (by simp)]
      cases slot with
      | some a => exact iff_of_false nofun fun h => nomatch h.1.1
      | none =>
        rw [Option.isSome_none, if_neg Bool.false_ne_true, bind_eq_ok_iff,
          and_iff_right (rfl : (none : Option α) = none)]
        simp only [bind_eq_ok_iff, Except.ok.injEq]
        constructor
        · rintro ⟨_, ⟨a, ha, rfl⟩, h⟩
          obtain ⟨hfills, hrest⟩ := (ih (some a) others).1 h
          exact ⟨⟨a, ha, hfills⟩, hrest⟩
        · rintro ⟨⟨a, ha, hfills⟩, hrest⟩
          exact ⟨_, ⟨a, ha, rfl⟩, (ih (some a) others).2 ⟨hfills, hrest⟩⟩
    · rw [isFilled_cons_of_ne hkey, decodeField_cons_of_ne hkey, valuesAt_cons_of_ne (Ne.symm hkey),
        List.filter_cons_of_pos (by simpa using Ne.symm hkey), Members.ofList,
        decodeMembers_member (Quoted.decode_ofText key)]
      split_ifs with hfilled
      · exact iff_of_false nofun fun h => nomatch h.2
      · simp only [bind_eq_ok_iff, Except.ok.injEq]
        constructor
        · rintro ⟨_, ⟨between, hbetween, rfl⟩, h⟩
          obtain ⟨hfills, hrest⟩ := (ih slot between).1 h
          exact ⟨hfills, between, hbetween, hrest⟩
        · rintro ⟨hfills, between, hbetween, hrest⟩
          exact ⟨_, ⟨between, hbetween, rfl⟩, (ih slot between).2 ⟨hfills, hrest⟩⟩

theorem Fields.collect_cons_iff (slot : Option α) (others : rest.Slots) (a : α) (as : β) :
    (Fields.cons f value rest).collect (.cons slot others) = .ok (a, as) ↔
      slot.or value.absent? = some a ∧ rest.collect others = .ok as := by
  rw [Slots.cons, collect]
  cases slot.or value.absent? with
  | none => exact iff_of_false nofun fun h => nomatch h.1
  | some b =>
    change (rest.collect others >>= fun bs => Except.ok (b, bs)) = _ ↔ _
    rw [bind_eq_ok_iff, Option.some_inj]
    simp only [Except.ok.injEq, Prod.mk.injEq]
    constructor
    · rintro ⟨bs, hbs, rfl, rfl⟩
      exact ⟨rfl, hbs⟩
    · rintro ⟨rfl, has⟩
      exact ⟨as, has, rfl, rfl⟩

/-- A key is given the value that its field has in the end. -/
theorem givenAt_iff_fills {reads : Document → Except ReadError α} {absent? : Option α}
    {key : String} {ms : List (String × Document)} {a : α} : GivenAt reads absent? key ms a ↔
      ∃ slot, Fills reads none (valuesAt key ms) slot ∧ slot.or absent? = some a := by
  rw [GivenAt]
  generalize valuesAt key ms = ds
  constructor
  · rintro (⟨d, rfl, hd⟩ | ⟨rfl, ha⟩)
    · exact ⟨some a, .cons hd (.nil _), rfl⟩
    · exact ⟨none, .nil _, ha⟩
  · rintro ⟨slot, hfills, ha⟩
    cases hfills with
    | nil => exact .inr ⟨rfl, ha⟩
    | cons hd hds =>
      cases hds
      obtain rfl := Option.some_inj.1 ha
      exact .inl ⟨_, rfl, hd⟩

/-- The first field is given its value, and the others are read from the other members. -/
theorem Fields.decodeAll_cons_iff (ms : List (String × Document)) (a : α) (as : β) :
    (Fields.cons f value rest).decodeAll (.ofList ms) = .ok (a, as) ↔
      GivenAt value.decode value.absent? f.key ms a ∧
        rest.decodeAll (.ofList (ms.filter fun m => m.1 ≠ f.key)) = .ok as := by
  have hempty : (Fields.cons f value rest).noValues = .cons none rest.noValues := rfl
  rw [decodeAll, decodeAll, bind_eq_ok_iff, bind_eq_ok_iff, hempty, givenAt_iff_fills]
  constructor
  · rintro ⟨⟨slot, others⟩, hms, hcollect⟩
    obtain ⟨hfills, hrest⟩ := (decodeMembers_cons_iff none slot rest.noValues others ms).1 hms
    obtain ⟨ha, has⟩ := (collect_cons_iff slot others a as).1 hcollect
    exact ⟨⟨slot, hfills, ha⟩, others, hrest, has⟩
  · rintro ⟨⟨slot, hfills, ha⟩, others, hrest, has⟩
    exact ⟨.cons slot others, (decodeMembers_cons_iff ..).2 ⟨hfills, hrest⟩,
      (collect_cons_iff ..).2 ⟨ha, has⟩⟩

theorem Fields.decodeAll_nil_iff (ms : List (String × Document)) (u : Unit) :
    Fields.nil.decodeAll (.ofList ms) = .ok u ↔ ∀ m ∈ ms, m.2.pass = .ok () := by
  induction ms with
  | nil => exact iff_of_true rfl nofun
  | cons m ms ih =>
    rw [List.forall_mem_cons, ← ih, decodeAll, Members.ofList,
      decodeMembers_member (Quoted.decode_ofText m.1), isFilled, if_neg Bool.false_ne_true]
    change ((m.2.pass >>= fun _ => Except.ok PUnit.unit) >>= _) >>= _ = _ ↔ _
    cases m.2.pass with
    | error e => exact iff_of_false nofun fun h => nomatch h.1
    | ok _ => exact (and_iff_right rfl).symm

end Fields

/-! ## Declared fields -/

/-- A field that is declared of a record: its key, how its values are built, and its value. -/
structure Declared (α : Type) where
  key : String
  Value : Type
  shape : Shape Value
  value : α → Value

/-- The field of a part of a record. -/
def Declared.within {α β : Type} (part : α → β) (f : Declared β) : Declared α :=
  ⟨f.key, f.Value, f.shape, f.value ∘ part⟩

/-- The declared fields, in order. -/
def Fields.declared : {β : Type} → Fields β → List (Declared β)
  | _, .nil => []
  | _, .cons f value rest => ⟨f.key, _, value, Prod.fst⟩ :: rest.declared.map (.within Prod.snd)

/-- The declared fields of a record, in order. -/
def Shape.declared : {α : Type} → Shape α → List (Declared α)
  | _, .record _ fields view => fields.declared.map (.within view.parts)
  | _, _ => []

theorem Fields.map_key_declared {β : Type} (fields : Fields β) :
    fields.declared.map Declared.key = fields.keys := by
  cases fields with
  | nil => rfl
  | cons f _ rest =>
    rw [declared, List.map_cons, List.map_map, keys, ← rest.map_key_declared]
    rfl

theorem Shape.map_key_declared {α : Type} (s : Shape α) :
    s.declared.map Declared.key = s.keys := by
  cases s with
  | record name fields view =>
    rw [declared, List.map_map, keys, ← fields.map_key_declared]
    rfl
  | _ => rfl

theorem Fields.nodup_keys : {β : Type} → {fields : Fields β} → fields.sound = true →
    fields.keys.Nodup
  | _, .nil, _ => List.nodup_nil
  | _, .cons f _ rest, h => by
    obtain ⟨h, hrest⟩ := Bool.and_eq_true_iff.1 h
    obtain ⟨hfresh, -⟩ := Bool.and_eq_true_iff.1 h
    refine List.nodup_cons.2 ⟨?_, nodup_keys hrest⟩
    simpa using hfresh

/-- An object is read iff every field is given its value; the other members are passed over. -/
theorem Fields.decodeAll_iff : {β : Type} → (fields : Fields β) → fields.keys.Nodup →
    (ms : List (String × Document)) → (as : β) → (fields.decodeAll (.ofList ms) = .ok as ↔
      (∀ f ∈ fields.declared, GivenAt f.shape.decode f.shape.absent? f.key ms (f.value as)) ∧
        ∀ m ∈ ms, m.1 ∉ fields.keys → m.2.pass = .ok ())
  | _, .nil, _, ms, as => by
    rw [decodeAll_nil_iff]
    simp [declared, keys]
  | _, .cons f value rest, hnodup, ms, (a, as) => by
    obtain ⟨hfresh, hnodup⟩ := List.nodup_cons.1 hnodup
    -- The other fields look at the members of other keys only.
    have hothers : ∀ g ∈ rest.declared, valuesAt g.key (ms.filter fun m => m.1 ≠ f.key) =
        valuesAt g.key ms := by
      intro g hg
      apply valuesAt_filter
      rintro m - hm
      have hmem : g.key ∈ rest.keys := by
        rw [← rest.map_key_declared]
        exact List.mem_map_of_mem hg
      have hne : m.1 ≠ f.key := by
        intro h
        exact hfresh (by rwa [← h, hm])
      exact decide_eq_true hne
    rw [decodeAll_cons_iff, rest.decodeAll_iff hnodup, declared, List.forall_mem_cons, and_assoc,
      List.forall_mem_map]
    refine and_congr_right fun _ => and_congr ?_ ?_
    · apply forall₂_congr
      intro g hg
      rw [GivenAt, hothers g hg]
      rfl
    · simp only [List.mem_filter, decide_eq_true_eq, keys, List.mem_cons, not_or, and_imp, ne_eq]

/-- A list is read iff its items are the values of the fields, in order. -/
theorem Fields.decodeItems_iff : {β : Type} → (fields : Fields β) → (name : String) →
    (count seen : Nat) → (ds : List Document) → (as : β) →
    (fields.decodeItems name count seen (.ofList ds) = .ok as ↔
      List.Forall₂ (fun f d => f.shape.decode d = .ok (f.value as)) fields.declared ds)
  | _, .nil, _, _, _, [], _ => iff_of_true rfl .nil
  | _, .nil, _, _, _, _ :: _, _ => iff_of_false nofun nofun
  | _, .cons .., _, _, _, [], _ => iff_of_false nofun nofun
  | _, .cons f value rest, name, count, seen, d :: ds, (a, as) => by
    change (value.decode d >>= fun b => rest.decodeItems name count (seen + 1) (.ofList ds) >>=
      fun bs => .ok (b, bs)) = .ok (a, as) ↔ _
    rw [bind_eq_ok_iff, declared, List.forall₂_cons, List.forall₂_map_left_iff]
    simp only [bind_eq_ok_iff, Except.ok.injEq, Prod.mk.injEq]
    constructor
    · rintro ⟨b, hb, bs, hbs, rfl, rfl⟩
      exact ⟨hb, (rest.decodeItems_iff name count (seen + 1) ds bs).1 hbs⟩
    · rintro ⟨hb, hbs⟩
      exact ⟨a, hb, as, (rest.decodeItems_iff name count (seen + 1) ds as).2 hbs, rfl, rfl⟩

/-- Values of the declared fields are those of one record. -/
theorem Fields.exists_of_declared {P : {γ : Type} → String → Shape γ → γ → Prop} :
    {β : Type} → (fields : Fields β) → (∀ f ∈ fields.declared, ∃ b, P f.key f.shape b) →
    ∃ as, ∀ f ∈ fields.declared, P f.key f.shape (f.value as)
  | _, .nil, _ => ⟨(), nofun⟩
  | _, .cons f value rest, h => by
    rw [declared, List.forall_mem_cons, List.forall_mem_map] at h
    obtain ⟨⟨a, ha⟩, hrest⟩ := h
    obtain ⟨as, has⟩ := rest.exists_of_declared hrest
    refine ⟨(a, as), ?_⟩
    rw [declared, List.forall_mem_cons, List.forall_mem_map]
    exact ⟨ha, has⟩

/-! ## Records -/

section Records

variable {α : Type} {s : Shape α}

theorem Shape.decode_record {α β : Type} (name : String) (fields : Fields β) (view : View α β)
    (members : Members) : (Shape.record name fields view).decode (.object members) =
      view.ofParts <$> fields.decodeAll members := by
  rw [Shape.decode, Fields.decodeAll]
  cases decodeMembers fields.isFilled fields.decodeField fields.noValues members with
  | error e => rfl
  | ok slots =>
    change (fields.collect slots >>= fun parts => .ok (view.ofParts parts)) =
      view.ofParts <$> fields.collect slots
    cases fields.collect slots <;> rfl

theorem View.map_ofParts_eq_ok_iff {β : Type} (view : View α β) (x : Except ReadError β) (a : α) :
    view.ofParts <$> x = .ok a ↔ x = .ok (view.parts a) := by
  rw [map_eq_ok_iff]
  constructor
  · rintro ⟨b, hb, rfl⟩
    rwa [view.parts_ofParts]
  · intro h
    exact ⟨_, h, view.ofParts_parts a⟩

/-- Members are read by what their keys read as. -/
theorem Shape.decode_object_ofParts (hrec : s.isRecord = true) {ns : List (Quoted × Document)}
    {ms : List (String × Document)}
    (h : List.Forall₂ (fun n m => n.1.decode = .ok m.1 ∧ n.2 = m.2) ns ms) :
    s.decode (.object (.ofParts ns)) = s.decode (.object (.ofList ms)) := by
  cases s with
  | record name fields view =>
    rw [decode_record, decode_record, Fields.decodeAll, Fields.decodeAll, decodeMembers_ofParts h]
  | _ => cases hrec

/-- An object is read into a record iff every field is given its value; the other members are passed
over. -/
theorem Shape.decode_object_iff (hrec : s.isRecord = true) (hs : s.sound = true)
    (ms : List (String × Document)) (a : α) : s.decode (.object (.ofList ms)) = .ok a ↔
      (∀ f ∈ s.declared, GivenAt f.shape.decode f.shape.absent? f.key ms (f.value a)) ∧
        ∀ m ∈ ms, m.1 ∉ s.keys → m.2.pass = .ok () := by
  cases s with
  | record name fields view =>
    rw [decode_record, view.map_ofParts_eq_ok_iff, fields.decodeAll_iff (Fields.nodup_keys hs),
      declared, List.forall_mem_map]
    rfl
  | _ => cases hrec

/-- A list is read into a record iff its items are the values of the fields, in order. -/
theorem Shape.decode_list_iff (hrec : s.isRecord = true) (ds : List Document) (a : α) :
    s.decode (.list (.ofList ds)) = .ok a ↔
      List.Forall₂ (fun f d => f.shape.decode d = .ok (f.value a)) s.declared ds := by
  cases s with
  | record name fields view =>
    rw [decode, view.map_ofParts_eq_ok_iff, fields.decodeItems_iff, declared,
      List.forall₂_map_left_iff]
    rfl
  | _ => cases hrec

theorem Shape.exists_of_declared {P : {γ : Type} → String → Shape γ → γ → Prop}
    (hrec : s.isRecord = true) (h : ∀ f ∈ s.declared, ∃ b, P f.key f.shape b) :
    ∃ a, ∀ f ∈ s.declared, P f.key f.shape (f.value a) := by
  cases s with
  | record name fields view =>
    rw [declared, List.forall_mem_map] at h
    obtain ⟨as, has⟩ := fields.exists_of_declared (P := P) h
    refine ⟨view.ofParts as, ?_⟩
    rw [declared, List.forall_mem_map]
    intro f hf
    change P f.key f.shape (f.value (view.parts (view.ofParts as)))
    rw [view.parts_ofParts]
    exact has f hf
  | _ => cases hrec

end Records

end Accelerator
