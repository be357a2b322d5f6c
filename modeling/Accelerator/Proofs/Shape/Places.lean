import Accelerator.Proofs.Shape.Members
import Accelerator.Shape.Replacement

/-!
# Fields and places of a record

What stands under a key is the declared field with that key (`Shape.field?`): two records are equal
there iff they are in that field, and it is what is written under the key.  A path leads to a part
of a record (`Shape.focus?`), which may be replaced by another one: two such records are equal iff
the parts are and all the rest is (`Shape.lawful_focus?`), and only the field that the part is in
changes (`Shape.value_put_of_focus?`).  The numbers of a record are the floats and the integers in
its places (`Shape.numberAt?`), and equal records have equal numbers
(`Shape.relNumbers_of_equal`).
-/

namespace Accelerator

/-! ## The field of a key -/

section Field

variable {α : Type}

/-- Two values are equal in a declared field, under the rule of that field. -/
def Declared.same (f : Declared α) (x y : α) : Bool :=
  f.shape.equal (f.value x) (f.value y)

/-- The declared field with a key. -/
def Fields.field? {β : Type} (fields : Fields β) (key : String) : Option (Declared β) :=
  fields.declared.find? (·.key = key)

/-- The declared field of a record with a key. -/
def Shape.field? (s : Shape α) (key : String) : Option (Declared α) :=
  s.declared.find? (·.key = key)

theorem Shape.key_of_field? {s : Shape α} {key : String} {f : Declared α}
    (h : s.field? key = some f) : f.key = key := by
  simpa using List.find?_some h

theorem Shape.mem_declared_of_field? {s : Shape α} {key : String} {f : Declared α}
    (h : s.field? key = some f) : f ∈ s.declared :=
  List.mem_of_find?_eq_some h

theorem Shape.exists_field?_of_mem_keys {s : Shape α} {key : String} (h : key ∈ s.keys) :
    ∃ f, s.field? key = some f := by
  rw [← s.map_key_declared] at h
  obtain ⟨f, hf, rfl⟩ := List.mem_map.1 h
  rw [← Option.isSome_iff_exists, field?, List.find?_isSome]
  exact ⟨f, hf, decide_eq_true rfl⟩

theorem Fields.field?_cons_self {β : Type} (f : Field) (value : Shape α) (rest : Fields β) :
    (Fields.cons f value rest).field? f.key = some ⟨f.key, α, value, Prod.fst⟩ := by
  rw [field?, declared, List.find?_cons_of_pos (by simp)]

theorem Fields.field?_cons_of_ne {β : Type} {f : Field} {key : String} (h : f.key ≠ key)
    (value : Shape α) (rest : Fields β) :
    (Fields.cons f value rest).field? key = (rest.field? key).map (.within Prod.snd) := by
  rw [field?, declared, List.find?_cons_of_neg (by simpa using h), List.find?_map]
  rfl

theorem Shape.field?_record {β : Type} (name : String) (fields : Fields β) (view : View α β)
    (key : String) : (Shape.record name fields view).field? key =
      (fields.field? key).map (.within view.parts) := by
  rw [field?, declared, List.find?_map]
  rfl

/-- A law of the field with a key holds if it does for the first field, when that has the key, and
is passed on by a first field that has another one. -/
theorem Fields.field?_induction {key : String}
    {motive : {β : Type} → Fields β → Declared β → Prop}
    (head : ∀ {α β : Type} (g : Field) (value : Shape α) (rest : Fields β), g.key = key →
      motive (.cons g value rest) ⟨g.key, α, value, Prod.fst⟩)
    (tail : ∀ {α β : Type} (g : Field) (value : Shape α) (rest : Fields β) (f : Declared β),
      g.key ≠ key → motive rest f → motive (.cons g value rest) (f.within Prod.snd)) :
    {β : Type} → {fields : Fields β} → {f : Declared β} → fields.field? key = some f →
    motive fields f
  | _, .nil, _, h => nomatch h
  | _, .cons g value rest, f, h => by
    by_cases hkey : g.key = key
    · have hf : some _ = some f := (field?_cons_self g value rest).symm.trans (hkey ▸ h)
      rw [← Option.some_inj.1 hf]
      exact head g value rest hkey
    · rw [field?_cons_of_ne hkey, Option.map_eq_some_iff] at h
      obtain ⟨f', hf', rfl⟩ := h
      exact tail g value rest f' hkey (field?_induction head tail hf')

theorem Fields.equalAt_of_field? {β : Type} {fields : Fields β} {key : String} {f : Declared β}
    (h : fields.field? key = some f) : ∀ x y, fields.equalAt key x y = f.same x y := by
  refine field?_induction (motive := fun fields f => ∀ x y, fields.equalAt key x y = f.same x y)
    ?head ?tail h
  case head => exact fun g value rest hkey x y => if_pos hkey
  case tail => exact fun g value rest f hkey ih x y => (if_neg hkey).trans (ih x.2 y.2)

theorem Fields.writeField?_of_field? {β : Type} {fields : Fields β} {key : String} {f : Declared β}
    (h : fields.field? key = some f) :
    ∀ x, fields.writeField? key x = some (f.shape.write (f.value x)) := by
  refine field?_induction
    (motive := fun fields f => ∀ x, fields.writeField? key x = some (f.shape.write (f.value x)))
    ?head ?tail h
  case head => exact fun g value rest hkey x => if_pos hkey
  case tail => exact fun g value rest f hkey ih x => (if_neg hkey).trans (ih x.2)

/-- Records are equal at a key iff they are equal in the field with the key. -/
theorem Shape.equalAt_of_field? {s : Shape α} {key : String} {f : Declared α}
    (h : s.field? key = some f) (x y : α) : s.equalAt key x y = f.same x y := by
  cases s with
  | record name fields view =>
    rw [field?_record, Option.map_eq_some_iff] at h
    obtain ⟨f', hf', rfl⟩ := h
    exact Fields.equalAt_of_field? hf' (view.parts x) (view.parts y)
  | _ => cases h

/-- The field with a key is what is written under the key. -/
theorem Shape.writeField?_of_field? {s : Shape α} {key : String} {f : Declared α}
    (h : s.field? key = some f) (x : α) :
    s.writeField? key x = some (f.shape.write (f.value x)) := by
  cases s with
  | record name fields view =>
    rw [field?_record, Option.map_eq_some_iff] at h
    obtain ⟨f', hf', rfl⟩ := h
    exact Fields.writeField?_of_field? hf' (view.parts x)
  | _ => cases h

end Field

/-! ## Parts -/

/-- A part of a value: how it is built, what it is, and the values with others in its place. -/
structure Focus (α : Type) where
  Part : Type
  shape : Shape Part
  value : Part
  put : Part → α

/-- The part of a value that is a part of a greater one. -/
def Focus.within {α β : Type} (f : Focus α) (g : α → β) : Focus β :=
  { f with put := g ∘ f.put }

mutual

/-- The part in the place that a path leads to. -/
def Shape.focus? : {α : Type} → Shape α → List Step → α → Option (Focus α)
  | _, s, [], a => some ⟨_, s, a, id⟩
  | _, .array n entry, .index i :: path, v =>
    if h : i < n then (entry.focus? path v[i]).map (·.within (v.set i)) else none
  | _, .list entry, .index i :: path, l =>
    if h : i < l.length then (entry.focus? path l[i]).map (·.within (l.set i)) else none
  | _, .optional value, step :: path, o =>
    o.bind fun a => (value.focus? (step :: path) a).map (·.within some)
  | _, .record _ fields view, .key k :: path, a =>
    (fields.focus? k path (view.parts a)).map (·.within view.ofParts)
  | _, _, _, _ => none

/-- The part in a place of the field with a key. -/
def Fields.focus? : {β : Type} → Fields β → String → List Step → β → Option (Focus β)
  | _, .nil, _, _, _ => none
  | _, .cons f value rest, k, path, (a, as) =>
    if f.key = k then (value.focus? path a).map (·.within (·, as))
    else (rest.focus? k path as).map (·.within (a, ·))

end

/-- Two values with other parts in one place are equal iff the parts are and something else that
does not depend on them holds. -/
def Focus.Separates {α : Type} (f : Focus α) (equal : α → α → Bool) : Prop :=
  ∃ rest : Prop, ∀ b c, equal (f.put b) (f.put c) = true ↔ f.shape.equal b c = true ∧ rest

/-- The laws of a part of a value `a`: `a` is what it is with the part in its place, and a comparison
of two values with other parts there is one of the parts. -/
structure Focus.Lawful {α : Type} (f : Focus α) (equal : α → α → Bool) (a : α) : Prop where
  put_value : f.put f.value = a
  separates : f.Separates equal

/-- The laws of a part are those of it as a part of a greater value, if the comparison of the
greater values is one of their parts together with something that does not depend on them. -/
theorem Focus.Lawful.within {α β : Type} {f : Focus α} {g : α → β} {equal : α → α → Bool}
    {equal' : β → β → Bool} {a : α} {a' : β} (rest : Prop) (h : f.Lawful equal a) (ha : g a = a')
    (hg : ∀ b c, equal' (g b) (g c) = true ↔ equal b c = true ∧ rest) :
    (f.within g).Lawful equal' a' := by
  constructor
  · exact (congrArg g h.put_value).trans ha
  · obtain ⟨rest', h⟩ := h.separates
    refine ⟨rest' ∧ rest, fun b c => ?_⟩
    rw [← and_assoc]
    exact (hg _ _).trans (and_congr_left' (h b c))

theorem allEqual_set_iff {α : Type} (eq : α → α → Bool) (l : List α) {i : Nat} (h : i < l.length)
    (b c : α) : allEqual eq (l.set i b) (l.set i c) = true ↔
      eq b c = true ∧ ∀ k (hk : k < l.length), i ≠ k → eq l[k] l[k] = true := by
  simp only [allEqual_iff_getElem, List.length_set, true_and, List.getElem_set]
  constructor
  · intro hall
    refine ⟨by simpa using hall i h h, fun k hk hne => ?_⟩
    simpa [hne] using hall k hk hk
  · rintro ⟨hbc, hrest⟩ k hk -
    split_ifs with hik
    · exact hbc
    · exact hrest k hk hik

theorem Shape.focus?_nil {α : Type} (s : Shape α) (a : α) :
    s.focus? [] a = some ⟨α, s, a, id⟩ := by
  cases s <;> rfl

mutual

/-- A part that is put back into its place leaves the value as it is, and two values with other
parts in one place are equal iff the parts are and all the rest is. -/
theorem Shape.lawful_focus? : {α : Type} → (s : Shape α) → (path : List Step) → (a : α) →
    {f : Focus α} → s.focus? path a = some f → f.Lawful s.equal a
  | _, s, [], a, f, h => by
    rw [Shape.focus?_nil, Option.some_inj] at h
    subst h
    exact ⟨rfl, True, fun _ _ => (and_iff_left trivial).symm⟩
  | _, .array n entry, .index i :: path, v, f, h => by
    rw [Shape.focus?] at h
    split_ifs at h with hi
    obtain ⟨g, hg, rfl⟩ := Option.map_eq_some_iff.1 h
    have hset := allEqual_set_iff entry.equal v.toList
      (show i < v.toList.length by rwa [Vector.length_toList])
    simp only [← Vector.toList_set hi] at hset
    exact (Shape.lawful_focus? entry path v[i] hg).within _ (Vector.set_getElem_self hi) hset
  | _, .list entry, .index i :: path, l, f, h => by
    rw [Shape.focus?] at h
    split_ifs at h with hi
    obtain ⟨g, hg, rfl⟩ := Option.map_eq_some_iff.1 h
    exact (Shape.lawful_focus? entry path l[i] hg).within _ (List.set_getElem_self hi)
      (allEqual_set_iff entry.equal l hi)
  | _, .optional value, step :: path, o, f, h => by
    rw [Shape.focus?] at h
    obtain ⟨a, rfl, h⟩ := Option.bind_eq_some_iff.1 h
    obtain ⟨g, hg, rfl⟩ := Option.map_eq_some_iff.1 h
    exact (Shape.lawful_focus? value (step :: path) a hg).within True rfl fun b c =>
      (and_iff_left trivial).symm
  | _, .record _ fields view, .key k :: path, a, f, h => by
    obtain ⟨g, hg, rfl⟩ := Option.map_eq_some_iff.1 h
    refine (Fields.lawful_focus? fields k path (view.parts a) hg).within True
      (view.ofParts_parts a) fun b c => ?_
    rw [Shape.equal, view.parts_ofParts, view.parts_ofParts, and_true]

theorem Fields.lawful_focus? : {β : Type} → (fields : Fields β) → (k : String) →
    (path : List Step) → (as : β) → {f : Focus β} → fields.focus? k path as = some f →
    f.Lawful fields.equal as
  | _, .nil, _, _, _, _, h => nomatch h
  | _, .cons g value rest, k, path, (a, as), f, h => by
    rw [Fields.focus?] at h
    split_ifs at h with hkey
    · obtain ⟨g, hg, rfl⟩ := Option.map_eq_some_iff.1 h
      refine (Shape.lawful_focus? value path a hg).within (rest.equal as as = true) rfl
        fun b c => ?_
      rw [Fields.equal, Bool.and_eq_true]
    · obtain ⟨g, hg, rfl⟩ := Option.map_eq_some_iff.1 h
      refine (Fields.lawful_focus? rest k path as hg).within (value.equal a a = true) rfl
        fun b c => ?_
      rw [Fields.equal, Bool.and_eq_true, and_comm]

end

/-- A part of one field leaves the other fields as they are, whatever is put in its place. -/
theorem Fields.value_put_of_focus? : {β : Type} → (fields : Fields β) → {k : String} →
    {path : List Step} → {as : β} → {f : Focus β} → fields.focus? k path as = some f →
    ∀ g ∈ fields.declared, g.key ≠ k → ∀ b, g.value (f.put b) = g.value as
  | _, .nil, _, _, _, _, h => nomatch h
  | _, .cons d value rest, k, path, (a, as), f, h => by
    rw [Fields.focus?] at h
    intro g hg hkey b
    split_ifs at h with hd
    · obtain ⟨f', -, rfl⟩ := Option.map_eq_some_iff.1 h
      rcases List.mem_cons.1 hg with rfl | hg
      · exact absurd hd hkey
      · obtain ⟨g', -, rfl⟩ := List.mem_map.1 hg
        rfl
    · obtain ⟨f', hf', rfl⟩ := Option.map_eq_some_iff.1 h
      rcases List.mem_cons.1 hg with rfl | hg
      · rfl
      · obtain ⟨g', hg', rfl⟩ := List.mem_map.1 hg
        exact Fields.value_put_of_focus? rest hf' g' hg' hkey b

theorem Shape.value_put_of_focus? {α : Type} {s : Shape α} {k : String} {path : List Step} {a : α}
    {f : Focus α} (h : s.focus? (.key k :: path) a = some f) :
    ∀ g ∈ s.declared, g.key ≠ k → ∀ b, g.value (f.put b) = g.value a := by
  intro g hg hkey b
  cases s with
  | record name fields view =>
    obtain ⟨f', hf', rfl⟩ := Option.map_eq_some_iff.1 h
    obtain ⟨g', hg', rfl⟩ := List.mem_map.1 hg
    change g'.value (view.parts (view.ofParts (f'.put b))) = g'.value (view.parts a)
    rw [view.parts_ofParts]
    exact fields.value_put_of_focus? hf' g' hg' hkey b
  | _ => cases hg

/-! ## Numbers -/

/-- The number that a value is, if it is one. -/
def Shape.number? : {α : Type} → Shape α → α → Option Number
  | _, .real, x => some (.real x)
  | _, .integer, n => some (.integer n.toInt)
  | _, .optional value, o => o.bind value.number?
  | _, _, _ => none

/-- The number in a place of a value, if there is one. -/
def Shape.numberAt? {α : Type} (s : Shape α) (path : List Step) (a : α) : Option Number :=
  (s.focus? path a).bind fun f => f.shape.number? f.value

/-- The number in a place of the field with a key. -/
def Fields.numberAt? {β : Type} (fields : Fields β) (k : String) (path : List Step) (as : β) :
    Option Number :=
  (fields.focus? k path as).bind fun f => f.shape.number? f.value

section Numbers

variable {α β : Type}

theorem bind_number?_map_within (o : Option (Focus α)) (g : α → β) :
    ((o.map (·.within g)).bind fun f => f.shape.number? f.value) =
      o.bind fun f => f.shape.number? f.value := by
  cases o <;> rfl

@[simp]
theorem Shape.numberAt?_nil (s : Shape α) (a : α) : s.numberAt? [] a = s.number? a := by
  rw [numberAt?, focus?_nil]
  rfl

@[simp]
theorem Shape.numberAt?_array {n : Nat} (entry : Shape α) (i : Nat) (path : List Step)
    (v : Vector α n) : (Shape.array n entry).numberAt? (.index i :: path) v =
      if h : i < n then entry.numberAt? path v[i] else none := by
  rw [numberAt?, focus?]
  split_ifs
  · exact bind_number?_map_within _ _
  · rfl

@[simp]
theorem Shape.numberAt?_list (entry : Shape α) (i : Nat) (path : List Step) (l : List α) :
    (Shape.list entry).numberAt? (.index i :: path) l = l[i]?.bind (entry.numberAt? path) := by
  rw [numberAt?, focus?]
  split_ifs with h
  · rw [List.getElem?_eq_getElem h]
    exact bind_number?_map_within _ _
  · rw [List.getElem?_eq_none (Nat.le_of_not_lt h)]
    rfl

@[simp]
theorem Shape.numberAt?_optional (value : Shape α) (path : List Step) (o : Option α) :
    (Shape.optional value).numberAt? path o = o.bind (value.numberAt? path) := by
  cases path with
  | nil =>
    rw [numberAt?_nil, number?]
    cases o with
    | none => rfl
    | some a => exact (value.numberAt?_nil a).symm
  | cons step path =>
    rw [numberAt?, focus?]
    cases o with
    | none => rfl
    | some a => exact bind_number?_map_within _ _

@[simp]
theorem Shape.numberAt?_record (name : String) (fields : Fields β) (view : View α β) (k : String)
    (path : List Step) (a : α) : (Shape.record name fields view).numberAt? (.key k :: path) a =
      fields.numberAt? k path (view.parts a) :=
  bind_number?_map_within _ _

theorem Fields.numberAt?_cons (f : Field) (value : Shape α) (rest : Fields β) (k : String)
    (path : List Step) (a : α) (as : β) : (Fields.cons f value rest).numberAt? k path (a, as) =
      if f.key = k then value.numberAt? path a else rest.numberAt? k path as := by
  rw [numberAt?, focus?]
  split_ifs
  · exact bind_number?_map_within _ _
  · exact bind_number?_map_within _ _

/-- The numbers under a key are those of the field with the key. -/
theorem Fields.numberAt?_eq_bind : {β : Type} → (fields : Fields β) → (k : String) →
    (path : List Step) → (as : β) → fields.numberAt? k path as =
      (fields.field? k).bind fun f => f.shape.numberAt? path (f.value as)
  | _, .nil, _, _, _ => rfl
  | _, .cons g value rest, k, path, (a, as) => by
    rw [numberAt?_cons]
    split_ifs with hkey
    · subst hkey
      rw [field?_cons_self]
      rfl
    · rw [field?_cons_of_ne hkey, rest.numberAt?_eq_bind k path as, Option.bind_map]
      rfl

theorem Shape.numberAt?_eq_bind {s : Shape α} (hs : s.isRecord = true) (k : String)
    (path : List Step) (a : α) : s.numberAt? (.key k :: path) a =
      (s.field? k).bind fun f => f.shape.numberAt? path (f.value a) := by
  cases s with
  | record name fields view =>
    rw [numberAt?_record, fields.numberAt?_eq_bind, field?_record, Option.bind_map]
    rfl
  | _ => cases hs

/-- Whether a value has no parts. -/
def Shape.isLeaf : Shape α → Bool
  | .real | .integer | .flag | .text | .choice _ => true
  | _ => false

theorem Shape.numberAt?_cons_of_isLeaf {s : Shape α} (h : s.isLeaf = true) (step : Step)
    (path : List Step) (a : α) : s.numberAt? (step :: path) a = none := by
  cases s <;> cases step <;> first | rfl | cases h

/-! ## Related numbers -/

/-- In each place two values have related numbers, or neither of them has a number. -/
def Shape.RelNumbers (R : Number → Number → Prop) (s : Shape α) (a b : α) : Prop :=
  ∀ path, Option.Rel R (s.numberAt? path a) (s.numberAt? path b)

/-- In each place of a field two values have related numbers, or neither of them has a number. -/
def Fields.RelNumbers (R : Number → Number → Prop) (fields : Fields β) (as bs : β) : Prop :=
  ∀ k path, Option.Rel R (fields.numberAt? k path as) (fields.numberAt? k path bs)

variable {R : Number → Number → Prop}

/-- Values without parts have no number but what they are themselves. -/
theorem Shape.relNumbers_of_isLeaf {s : Shape α} (hs : s.isLeaf = true) {a b : α}
    (h : Option.Rel R (s.number? a) (s.number? b)) : s.RelNumbers R a b
  | [] => by rwa [numberAt?_nil, numberAt?_nil]
  | step :: path => by
    rw [numberAt?_cons_of_isLeaf hs, numberAt?_cons_of_isLeaf hs]
    exact .none

theorem Shape.relNumbers_array {n : Nat} {entry : Shape α} {v w : Vector α n}
    (h : ∀ i (hi : i < n), entry.RelNumbers R v[i] w[i]) : (Shape.array n entry).RelNumbers R v w
  | [] | .key _ :: _ => .none
  | .index i :: path => by
    rw [numberAt?_array, numberAt?_array]
    split_ifs with hi
    · exact h i hi path
    · exact .none

theorem Shape.relNumbers_list {entry : Shape α} {l m : List α} (hlen : l.length = m.length)
    (h : ∀ i (hl : i < l.length) (hm : i < m.length), entry.RelNumbers R l[i] m[i]) :
    (Shape.list entry).RelNumbers R l m
  | [] | .key _ :: _ => .none
  | .index i :: path => by
    rw [numberAt?_list, numberAt?_list]
    by_cases hi : i < l.length
    · rw [List.getElem?_eq_getElem hi, List.getElem?_eq_getElem (hlen ▸ hi)]
      exact h i hi (hlen ▸ hi) path
    · rw [List.getElem?_eq_none (Nat.le_of_not_lt hi),
        List.getElem?_eq_none (hlen ▸ Nat.le_of_not_lt hi)]
      exact .none

theorem Shape.relNumbers_optional {value : Shape α} {o q : Option α}
    (h : Option.Rel (value.RelNumbers R) o q) : (Shape.optional value).RelNumbers R o q := by
  intro path
  rw [numberAt?_optional, numberAt?_optional]
  cases h with
  | none => exact .none
  | some h => exact h path

theorem Shape.relNumbers_record {name : String} {fields : Fields β} {view : View α β} {a b : α}
    (h : fields.RelNumbers R (view.parts a) (view.parts b)) :
    (Shape.record name fields view).RelNumbers R a b
  | [] | .index _ :: _ => .none
  | .key k :: path => by
    rw [numberAt?_record, numberAt?_record]
    exact h k path

theorem Fields.relNumbers_cons {f : Field} {value : Shape α} {rest : Fields β} {a b : α} {as bs : β}
    (h : value.RelNumbers R a b) (hrest : rest.RelNumbers R as bs) :
    (Fields.cons f value rest).RelNumbers R (a, as) (b, bs) := by
  intro k path
  rw [numberAt?_cons, numberAt?_cons]
  split_ifs
  · exact h path
  · exact hrest k path

end Numbers

/-- Two numbers are of one kind and equal. -/
def Number.Same : Number → Number → Prop
  | .integer m, .integer n => m = n
  | .real x, .real y => (x == y) = true
  | _, _ => False

/-- Two numbers are of one kind and not equal. -/
def Number.Differ : Number → Number → Prop
  | .integer m, .integer n => m ≠ n
  | .real x, .real y => (x == y) = false
  | _, _ => False

theorem Number.Same.not_differ {m n : Number} (h : m.Same n) : ¬m.Differ n := by
  cases m <;> cases n
  · exact not_not.2 h
  · exact id
  · exact id
  · exact (Bool.eq_false_iff.1 · h)

mutual

/-- Equal values have equal numbers in all places. -/
theorem Shape.relNumbers_of_equal : {α : Type} → (s : Shape α) → (a b : α) →
    s.equal a b = true → s.RelNumbers Number.Same a b
  | _, .real, _, _, h => Shape.relNumbers_of_isLeaf rfl (.some h)
  | _, .integer, _, _, h =>
    Shape.relNumbers_of_isLeaf rfl (.some (congrArg Int32.toInt (eq_of_beq h)))
  | _, .flag, _, _, _ => Shape.relNumbers_of_isLeaf rfl .none
  | _, .text, _, _, _ => Shape.relNumbers_of_isLeaf rfl .none
  | _, .choice _, _, _, _ => Shape.relNumbers_of_isLeaf rfl .none
  | _, .array n entry, v, w, h => by
    refine Shape.relNumbers_array fun i hi => Shape.relNumbers_of_equal entry v[i] w[i] ?_
    have hall := ((allEqual_iff_getElem _ _ _).1 h).2
    have hvi := hall i (by rwa [Vector.length_toList]) (by rwa [Vector.length_toList])
    rwa [Vector.getElem_toList, Vector.getElem_toList] at hvi
  | _, .list entry, l, m, h => by
    obtain ⟨hlen, hall⟩ := (allEqual_iff_getElem _ _ _).1 h
    exact Shape.relNumbers_list hlen fun i hl hm =>
      Shape.relNumbers_of_equal entry l[i] m[i] (hall i hl hm)
  | _, .optional value, o, q, h => by
    apply Shape.relNumbers_optional
    cases o <;> cases q
    · exact .none
    · cases h
    · cases h
    · exact .some (Shape.relNumbers_of_equal value _ _ h)
  | _, .record _ fields view, a, b, h =>
    Shape.relNumbers_record (Fields.relNumbers_of_equal fields (view.parts a) (view.parts b) h)

theorem Fields.relNumbers_of_equal : {β : Type} → (fields : Fields β) → (as bs : β) →
    fields.equal as bs = true → fields.RelNumbers Number.Same as bs
  | _, .nil, _, _, _ => fun _ _ => .none
  | _, .cons f value rest, (a, as), (b, bs), h => by
    obtain ⟨hhead, htail⟩ := Bool.and_eq_true_iff.1 h
    exact Fields.relNumbers_cons (Shape.relNumbers_of_equal value a b hhead)
      (Fields.relNumbers_of_equal rest as bs htail)

end

end Accelerator
