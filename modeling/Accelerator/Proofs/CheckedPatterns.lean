import Accelerator.Proofs.Records
import Accelerator.Shape.Pattern

/-!
# Patterns in checked arithmetic

Only what depends on the index of a pattern is meant to wrap.  Here everything else is computed in
checked arithmetic, where a number that does not fit is a fault, and so are a division by zero and a
position that a table does not have.  `Shape.inRange` bounds the numbers of all fields, those of the
entries of their lists included; in a shape that is in range there is no fault, whatever the index
is, and the patterns are those that are computed modulo `2 ^ 32` (`Shape.checkedFill_eq`).
-/

namespace Accelerator

/-! ## Computations without a fault -/

section NoFault

variable {ε α β : Type}

theorem ok_bind (a : α) (f : α → Except ε β) : Except.ok a >>= f = f a :=
  rfl

theorem mapM_eq_ok {f : α → Except ε β} {g : α → β} {l : List α} (h : ∀ a ∈ l, f a = .ok (g a)) :
    l.mapM f = .ok (l.map g) := by
  induction l with
  | nil => rfl
  | cons a l ih =>
    rw [List.forall_mem_cons] at h
    rw [List.mapM_cons, h.1, ok_bind, ih h.2, ok_bind]
    rfl

theorem ofFnM_eq_ok {n : Nat} {f : Fin n → Except ε α} {g : Fin n → α}
    (h : ∀ i, f i = .ok (g i)) : Vector.ofFnM f = .ok (Vector.ofFn g) := by
  rw [funext h]
  exact Vector.ofFnM_pure

end NoFault

/-! ## Checked arithmetic -/

/-- What stops a computation in checked arithmetic. -/
inductive PatternFault where
  | sum
  | product
  | conversion
  | divisionByZero
  | outOfBounds (length position : Nat)
deriving DecidableEq

/-- A 32-bit integer, unless the number does not fit. -/
def fitting (fault : PatternFault) (n : Int) : Except PatternFault Int32 :=
  if -2147483648 ≤ n ∧ n ≤ 2147483647 then .ok (Int32.ofInt n) else .error fault

/-- The sum, unless it does not fit. -/
def plainSum (a b : Int32) : Except PatternFault Int32 :=
  fitting .sum (a.toInt + b.toInt)

/-- The product, unless it does not fit. -/
def plainProduct (a b : Int32) : Except PatternFault Int32 :=
  fitting .product (a.toInt * b.toInt)

/-- The number of a position, unless it does not fit. -/
def positionNumber (i : Nat) : Except PatternFault Int32 :=
  fitting .conversion i

/-- The position that a number names, unless it is negative. -/
def positionOf (n : Int) : Except PatternFault Nat :=
  if 0 ≤ n then .ok n.toNat else .error .conversion

/-- A number of one byte, unless it does not fit. -/
def byte (fault : PatternFault) (n : Int) : Except PatternFault Nat :=
  if 0 ≤ n ∧ n ≤ 255 then .ok n.toNat else .error fault

/-- The remainder, from 0 on, unless the divisor is 0. -/
def remainder (n : Int32) (divisor : Nat) : Except PatternFault Int :=
  if divisor = 0 then .error .divisionByZero else .ok (n.toInt % divisor)

theorem fitting_eq {fault : PatternFault} {n : Int} (hlow : 0 ≤ n) (hhigh : n ≤ 2147483647) :
    fitting fault n = .ok (Int32.ofInt n) :=
  if_pos ⟨by omega, hhigh⟩

theorem positionOf_eq {n : Int} (hlow : 0 ≤ n) : positionOf n = .ok n.toNat :=
  if_pos hlow

theorem byte_eq {fault : PatternFault} {n : Int} (hlow : 0 ≤ n) (hhigh : n ≤ 255) :
    byte fault n = .ok n.toNat :=
  if_pos ⟨hlow, hhigh⟩

theorem remainder_eq {divisor : Nat} (h : 0 < divisor) (n : Int32) :
    remainder n divisor = .ok (n.toInt % divisor) ∧ 0 ≤ n.toInt % divisor ∧
      n.toInt % divisor < divisor :=
  ⟨if_neg h.ne', Int.emod_nonneg _ (by omega), Int.emod_lt_of_pos _ (by omega)⟩

/-- The number is not negative, and at most `limit`. -/
def Within (limit : Nat) (n : Int32) : Prop :=
  0 ≤ n.toInt ∧ n.toInt ≤ limit

instance (limit : Nat) (n : Int32) : Decidable (Within limit n) :=
  inferInstanceAs (Decidable (_ ∧ _))

theorem Within.mono {limit limit' : Nat} {n : Int32} (h : Within limit n) (hle : limit ≤ limit') :
    Within limit' n :=
  ⟨h.1, by have := h.2; omega⟩

theorem within_ofNat {n : Nat} (hn : n ≤ 2147483647) : Within n (Int32.ofNat n) := by
  rw [Within, Int32.toInt_ofNat_of_lt (by omega)]
  omega

/-- Numbers whose limits have a sum that fits have a sum, below the sum of the limits. -/
theorem plainSum_eq {limit limit' : Nat} {a b : Int32} (ha : Within limit a) (hb : Within limit' b)
    (hlimit : limit + limit' ≤ 2147483647) :
    plainSum a b = .ok (a + b) ∧ Within (limit + limit') (a + b) := by
  obtain ⟨ha₀, ha⟩ := ha
  obtain ⟨hb₀, hb⟩ := hb
  have hsum : Int32.ofInt (a.toInt + b.toInt) = a + b := by
    rw [Int32.ofInt_add, Int32.ofInt_toInt, Int32.ofInt_toInt]
  have hvalue : (a + b).toInt = a.toInt + b.toInt := by
    rw [← hsum, Int32.toInt_ofInt_of_le (by omega) (by omega)]
  exact ⟨by rw [plainSum, fitting_eq (by omega) (by omega), hsum], by rw [Within]; omega⟩

theorem plainProduct_eq {limit limit' : Nat} {a b : Int32} (ha : Within limit a)
    (hb : Within limit' b) (hlimit : limit * limit' ≤ 2147483647) :
    plainProduct a b = .ok (a * b) ∧ Within (limit * limit') (a * b) := by
  obtain ⟨ha₀, ha⟩ := ha
  obtain ⟨hb₀, hb⟩ := hb
  have hlow : 0 ≤ a.toInt * b.toInt := Int.mul_nonneg ha₀ hb₀
  have hhigh : a.toInt * b.toInt ≤ (limit * limit' : Nat) := by
    rw [Int.natCast_mul]
    exact Int.mul_le_mul ha hb hb₀ (by omega)
  have hproduct : Int32.ofInt (a.toInt * b.toInt) = a * b := by
    rw [Int32.ofInt_mul, Int32.ofInt_toInt, Int32.ofInt_toInt]
  have hvalue : (a * b).toInt = a.toInt * b.toInt := by
    rw [← hproduct, Int32.toInt_ofInt_of_le (by omega) (by omega)]
  exact ⟨by rw [plainProduct, fitting_eq (by omega) (by omega), hproduct], by rw [Within]; omega⟩

theorem positionNumber_eq {i : Nat} (hi : i ≤ 2147483647) :
    positionNumber i = .ok (Int32.ofNat i) := by
  rw [positionNumber, fitting_eq (by omega) (by omega), Int32.ofInt_eq_ofNat]

/-! ## Texts and choices -/

/-- The letter that a number stands for. -/
def checkedLetter (n : Int32) : Except PatternFault Char := do
  let rest ← remainder n 26
  let place ← byte .conversion rest
  let code ← byte .sum (97 + place)
  .ok (Char.ofNat code)

/-- The eight letters of a text field whose number is `n`. -/
def checkedText (n : Int32) : Except PatternFault String := do
  let letters ← (List.range 8).mapM fun i => do
    let position ← positionNumber i
    let entryNumber ← plainSum 101 position
    checkedLetter (n + entryNumber)
  .ok (String.ofList letters)

/-- The alternative of a number. -/
def checkedChoice {α : Type} (c : Choice α) (n : Int32) : Except PatternFault α := do
  let rest ← remainder n (min c.all.length 2147483647)
  let position ← positionOf rest
  match c.all[position]? with
  | some a => .ok a
  | none => .error (.outOfBounds c.all.length position)

theorem checkedLetter_eq (n : Int32) : checkedLetter n = .ok (letter n) := by
  obtain ⟨hrest, hlow, hhigh⟩ := remainder_eq (by decide : 0 < 26) n
  rw [checkedLetter, hrest, ok_bind, byte_eq hlow (by omega), ok_bind,
    byte_eq (by omega) (by omega), ok_bind, letter]
  congr 2

theorem checkedText_eq (n : Int32) : checkedText n = .ok (patternText n) := by
  rw [checkedText, mapM_eq_ok (g := fun i => letter (n + Int32.ofNat (101 + i)))]
  · rfl
  intro i hi
  have hi : i < 8 := List.mem_range.1 hi
  have hfirst : Within 101 101 := by decide
  have hsum := (plainSum_eq hfirst (within_ofNat (n := i) (by omega)) (by omega)).1
  rw [positionNumber_eq (by omega), ok_bind, hsum, ok_bind, checkedLetter_eq, Int32.ofNat_add]
  rfl

theorem checkedChoice_eq {α : Type} {c : Choice α} (h : c.all.length ≤ 2147483647) (n : Int32) :
    checkedChoice c n = .ok (c.cyclic (n.toInt % c.all.length).toNat) := by
  have hpos : 0 < c.all.length := by simp [Choice.all]
  obtain ⟨hrest, hlow, hhigh⟩ := remainder_eq hpos n
  have hposition : (n.toInt % c.all.length).toNat < c.all.length := by omega
  rw [checkedChoice, min_eq_left h, hrest, ok_bind, positionOf_eq hlow, ok_bind]
  simp only [List.getElem?_eq_getElem hposition, Choice.cyclic, List.get_eq_getElem,
    Nat.mod_eq_of_lt hposition]

/-! ## Values of a shape -/

/-- What the entry `i` of an array or a list adds to the number of its field. -/
def Shape.checkedEntryNumber {α : Type} (entry : Shape α) (inRow : Bool) (i : Nat) :
    Except PatternFault Int32 := do
  let position ← positionNumber i
  match entry with
  | .record .. => plainSum position 1
  | _ =>
    if inRow then
      let column ← plainSum position 1
      plainProduct 10 column
    else plainSum 101 position

/-- The number of the entry `i` of an array or a list in a field that has a number. -/
def Shape.checkedNumber {α : Type} (entry : Shape α) (inRow : Bool) (number : Int32) (i : Nat) :
    Except PatternFault Int32 := do
  let entryNumber ← entry.checkedEntryNumber inRow i
  plainSum number entryNumber

mutual

/-- The value of a field in a record of the index `ix`, as `Shape.fill` has it. -/
def Shape.checkedFill : {α : Type} → Shape α → (inRow : Bool) → (size : Nat) →
    (number ix : Int32) → Except PatternFault α
  | _, .real, _, _, number, ix => .ok (realOfInt (patternNumber number ix).toInt)
  | _, .integer, _, _, number, ix => .ok (patternNumber number ix)
  | _, .flag, _, _, number, ix => do
    let rest ← remainder (patternNumber number ix) 2
    .ok (rest == 0)
  | _, .text, _, _, number, ix => checkedText (patternNumber number ix)
  | _, .choice c, _, _, number, ix => checkedChoice c (patternNumber number ix)
  | _, .array n entry, inRow, size, number, ix =>
    Vector.ofFnM fun i : Fin n => do
      let number ← entry.checkedNumber inRow number i
      entry.checkedFill true size number ix
  | _, .list entry, inRow, size, number, ix =>
    (List.range size).mapM fun i => do
      let number ← entry.checkedNumber inRow number i
      entry.checkedFill true size number ix
  | _, .optional value, inRow, size, number, ix => do
    let a ← value.checkedFill inRow size number ix
    .ok (some a)
  | _, .record _ fields view, _, _, number, ix => do
    let parts ← fields.checkedFill (ix + number)
    .ok (view.ofParts parts)

/-- The values of the fields of a record of the index `ix`, as `Fields.fill` has them. -/
def Fields.checkedFill : {β : Type} → Fields β → (ix : Int32) → Except PatternFault β
  | _, .nil, _ => .ok ()
  | _, .cons f value rest, ix => do
    let a ← value.checkedFill false f.size f.number ix
    let as ← rest.checkedFill ix
    .ok (a, as)

end

/-- How much the entries of a field add to its number at most. -/
def Shape.reach : {α : Type} → Shape α → (size : Nat) → Nat
  | _, .array n entry, size => 101 + 10 * n + entry.reach size
  | _, .list entry, size => 101 + 10 * size + entry.reach size
  | _, .optional value, size => value.reach size
  | _, _, _ => 0

mutual

/-- The numbers of all fields fit, those of their entries included, and so do the lengths of all
tables. -/
def Shape.inRange : {α : Type} → Shape α → Bool
  | _, .choice c => decide (c.all.length ≤ 2147483647)
  | _, .array _ entry => entry.inRange
  | _, .list entry => entry.inRange
  | _, .optional value => value.inRange
  | _, .record _ fields _ => fields.inRange
  | _, _ => true

/-- `Shape.inRange` for fields. -/
def Fields.inRange : {β : Type} → Fields β → Bool
  | _, .nil => true
  | _, .cons f value rest =>
    decide (0 ≤ f.number.toInt ∧ f.number.toInt + value.reach f.size ≤ 2147483647) &&
      value.inRange && rest.inRange

end

theorem Shape.checkedEntryNumber_eq {α : Type} (entry : Shape α) (inRow : Bool) {n i : Nat}
    (hi : i < n) (hn : 101 + 10 * n ≤ 2147483647) :
    entry.checkedEntryNumber inRow i = .ok (entry.entryNumber inRow i) ∧
      Within (101 + 10 * n) (entry.entryNumber inRow i) := by
  have hposition : Within i (Int32.ofNat i) := within_ofNat (by omega)
  have hone : Within 1 1 := by decide
  have hten : Within 10 10 := by decide
  have hfirst : Within 101 101 := by decide
  have hsucc : Int32.ofNat (i + 1) = Int32.ofNat i + 1 := Int32.ofNat_add i 1
  have hmul : Int32.ofNat (10 * (i + 1)) = 10 * Int32.ofNat (i + 1) := Int32.ofNat_mul 10 (i + 1)
  have hadd : Int32.ofNat (101 + i) = 101 + Int32.ofNat i := Int32.ofNat_add 101 i
  obtain ⟨hnext, hrecord⟩ := plainSum_eq hposition hone (by omega)
  rw [← hsucc] at hnext hrecord
  obtain ⟨hcolumn, hinRow⟩ := plainProduct_eq hten hrecord (by omega)
  rw [← hmul] at hcolumn hinRow
  obtain ⟨hplace, houtside⟩ := plainSum_eq hfirst hposition (by omega)
  rw [← hadd] at hplace houtside
  have hcolumn : (plainSum (Int32.ofNat i) 1 >>= fun column => plainProduct 10 column) =
      .ok (Int32.ofNat (10 * (i + 1))) := by
    rw [hnext, ok_bind, hcolumn]
  rw [Shape.checkedEntryNumber, positionNumber_eq (by omega), ok_bind]
  cases entry
  case record => exact ⟨hnext, hrecord.mono (by omega)⟩
  all_goals
    cases inRow with
    | true => exact ⟨hcolumn, hinRow.mono (by omega)⟩
    | false => exact ⟨hplace, houtside.mono (by omega)⟩

theorem Shape.checkedNumber_eq {α : Type} (entry : Shape α) (inRow : Bool) {limit n i : Nat}
    {number : Int32} (hnumber : Within limit number) (hi : i < n)
    (hn : limit + (101 + 10 * n) ≤ 2147483647) :
    entry.checkedNumber inRow number i = .ok (number + entry.entryNumber inRow i) ∧
      Within (limit + (101 + 10 * n)) (number + entry.entryNumber inRow i) := by
  obtain ⟨hentry, hwithin⟩ := entry.checkedEntryNumber_eq inRow hi (by omega)
  rw [Shape.checkedNumber, hentry, ok_bind]
  exact plainSum_eq hnumber hwithin hn

mutual

/-- There is no fault where the number of a field, and all that its entries add to it, fits.  The
index is free: only `patternNumber` and the index of a record depend on it, and both wrap. -/
theorem Shape.checkedFill_eq {size limit : Nat} : {α : Type} → (s : Shape α) → (inRow : Bool) →
    (number ix : Int32) → s.inRange = true → Within limit number →
    limit + s.reach size ≤ 2147483647 →
    s.checkedFill inRow size number ix = .ok (s.fill inRow size number ix)
  | _, .real, _, _, _, _, _, _ => rfl
  | _, .integer, _, _, _, _, _, _ => rfl
  | _, .flag, _, _, _, _, _, _ => rfl
  | _, .text, _, _, _, _, _, _ => checkedText_eq _
  | _, .choice c, _, _, _, h, _, _ => checkedChoice_eq (of_decide_eq_true h) _
  | _, .array n entry, inRow, number, ix, h, hnumber, hreach => by
    rw [Shape.reach] at hreach
    refine ofFnM_eq_ok fun i => ?_
    obtain ⟨hentry, hwithin⟩ := entry.checkedNumber_eq inRow hnumber i.isLt (by omega)
    rw [hentry, ok_bind]
    exact Shape.checkedFill_eq entry true _ ix h hwithin (by omega)
  | _, .list entry, inRow, number, ix, h, hnumber, hreach => by
    rw [Shape.reach] at hreach
    refine mapM_eq_ok fun i hi => ?_
    have hi := List.mem_range.1 hi
    obtain ⟨hentry, hwithin⟩ := entry.checkedNumber_eq inRow hnumber hi (by omega)
    rw [hentry, ok_bind]
    exact Shape.checkedFill_eq entry true _ ix h hwithin (by omega)
  | _, .optional value, inRow, number, ix, h, hnumber, hreach => by
    rw [Shape.checkedFill, Shape.checkedFill_eq value inRow number ix h hnumber hreach]
    rfl
  | _, .record _ fields view, _, number, ix, h, _, _ => by
    rw [Shape.checkedFill, Fields.checkedFill_eq fields (ix + number) h]
    rfl

theorem Fields.checkedFill_eq : {β : Type} → (fields : Fields β) → (ix : Int32) →
    fields.inRange = true → fields.checkedFill ix = .ok (fields.fill ix)
  | _, .nil, _, _ => rfl
  | _, .cons f value rest, ix, h => by
    rw [Fields.inRange, Bool.and_eq_true, Bool.and_eq_true, decide_eq_true_eq] at h
    obtain ⟨⟨⟨hlow, hhigh⟩, hvalue⟩, hrest⟩ := h
    have hnumber : Within f.number.toInt.toNat f.number := ⟨hlow, Int.self_le_toNat _⟩
    rw [Fields.checkedFill, Shape.checkedFill_eq value false f.number ix hvalue hnumber (by omega),
      ok_bind, Fields.checkedFill_eq rest ix hrest]
    rfl

end

/-- The first entry of a list does not fit into a field of the largest number. -/
example (ix : Int32) :
    (Shape.list .integer).checkedFill false 1 Int32.maxValue ix = .error .sum :=
  rfl

/-! ## Records -/

namespace RecordKind

/-- The pattern of an index, in checked arithmetic. -/
def checkedPattern : (k : RecordKind) → (ix : Int32) → Except PatternFault k.Carrier
  | .lattice, ix => do
    let l ← Lattice.shape.checkedFill false 0 0 ix
    .ok { l with nEleUse := 2, nEleMax := 2, nControlMax := 2, nIcMax := 3 }
  | k, ix => k.shape.checkedFill false 0 0 ix

theorem inRange_shape (k : RecordKind) : k.shape.inRange = true := by
  cases k <;> decide

theorem reach_shape (k : RecordKind) (size : Nat) : k.shape.reach size = 0 := by
  cases k <;> rfl

/-- The patterns of all indices are computed without a fault. -/
theorem checkedPattern_eq (k : RecordKind) (ix : Int32) :
    k.checkedPattern ix = .ok (Record.pattern ix) := by
  have hzero : Within 0 0 := by decide
  have hreach : 0 + k.shape.reach 0 ≤ 2147483647 := by
    rw [k.reach_shape]
    decide
  have hfill : k.shape.checkedFill false 0 0 ix = .ok (k.shape.pattern ix) :=
    Shape.checkedFill_eq k.shape false 0 ix k.inRange_shape hzero hreach
  cases k
  case lattice =>
    have hlattice : Lattice.shape.checkedFill false 0 0 ix = .ok (Lattice.shape.pattern ix) := hfill
    rw [checkedPattern, hlattice, ok_bind]
    rfl
  all_goals exact hfill

end RecordKind

end Accelerator
