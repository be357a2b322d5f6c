import Accelerator.Proofs.Decimal.Whole
import Accelerator.Proofs.Equivalence
import Accelerator.Proofs.Shape.Places
import Accelerator.Proofs.Translation

/-!
# The patterns of all indices

All that a pattern depends on is a hundred times its index, modulo `2 ^ 32`.  So two patterns are
equal iff their indices are congruent modulo `2 ^ 30`; if they are not, then every number of one is
different from the number in its place in the other, but for the header counts of lattices
(`RecordKind.pattern_beq_iff_modEq`).  The floats of a pattern are whole numbers of 32 bits, so that
it comes back from its own text as it is, whatever its index is (`RecordKind.pattern_comes_back`).
-/

namespace Accelerator

/-! ## Numbers of a pattern -/

theorem natAbs_toInt_le (n : Int32) : n.toInt.natAbs ≤ 2 ^ 31 := by
  have hlow := n.le_toInt
  have hhigh := n.toInt_lt
  omega

/-- A hundred is four times an odd number. -/
theorem mul_hundred_eq_iff (i j : Int32) :
    i * 100 = j * 100 ↔ i.toInt ≡ j.toInt [ZMOD 2 ^ 30] := by
  have hundred : (100 : Int32).toInt = 100 := rfl
  have hfactors : i.toInt * 100 - j.toInt * 100 = 4 * (25 * (i.toInt - j.toInt)) := by ring
  have hmodulus : ((2 ^ 32 : Nat) : Int) = 4 * 2 ^ 30 := by norm_num
  have hodd : IsCoprime (2 ^ 30 : Int) 25 := by
    apply IsCoprime.pow_left
    exact Int.isCoprime_iff_gcd_eq_one.2 (by decide)
  rw [← Int32.toInt_inj, Int32.toInt_mul, Int32.toInt_mul, hundred,
    Int.bmod_eq_bmod_iff_bmod_sub_eq_zero, ← Int.dvd_iff_bmod_eq_zero, hfactors, hmodulus,
    mul_dvd_mul_iff_left (by decide), Int.modEq_comm, Int.modEq_iff_dvd]
  exact ⟨hodd.dvd_of_dvd_mul_left, fun h => Dvd.dvd.mul_left h 25⟩

theorem add_mul_hundred_eq_iff (i j number : Int32) :
    (i + number) * 100 = (j + number) * 100 ↔ i * 100 = j * 100 := by
  rw [Int32.add_mul, Int32.add_mul, Int32.add_left_inj]

theorem patternNumber_inj (number i j : Int32) :
    patternNumber number i = patternNumber number j ↔ i * 100 = j * 100 :=
  Int32.add_right_inj number

theorem differ_realOfInt {m n : Int32} (h : m ≠ n) :
    (Number.real (realOfInt m.toInt)).Differ (.real (realOfInt n.toInt)) := by
  have hm := natAbs_toInt_le m
  have hn := natAbs_toInt_le n
  change (realOfInt m.toInt == realOfInt n.toInt) = false
  rw [← Bool.not_eq_true, beq_realOfInt_iff (by omega) (by omega), Int32.toInt_inj]
  exact h

/-- A whole number of 32 bits comes back from its text as it is. -/
theorem reread_realOfInt (n : Int32) : reread (realOfInt n.toInt) = some (realOfInt n.toInt) := by
  have hn := natAbs_toInt_le n
  rw [reread_of_isFinite (isFinite_realOfInt _), value_numeralOf_realOfInt (by omega)]
  rfl

/-! ## Values of a shape -/

mutual

/-- A pattern depends on a hundred times its index. -/
theorem Shape.fill_congr {i j : Int32} (h : i * 100 = j * 100) : {α : Type} → (s : Shape α) →
    (inRow : Bool) → (size : Nat) → (number : Int32) →
    s.fill inRow size number i = s.fill inRow size number j
  | _, .real, _, _, number => by
    rw [Shape.fill, Shape.fill, (patternNumber_inj number i j).2 h]
  | _, .integer, _, _, number => (patternNumber_inj number i j).2 h
  | _, .flag, _, _, number => by
    rw [Shape.fill, Shape.fill, (patternNumber_inj number i j).2 h]
  | _, .text, _, _, number => congrArg patternText ((patternNumber_inj number i j).2 h)
  | _, .choice c, _, _, number => by
    rw [Shape.fill, Shape.fill, (patternNumber_inj number i j).2 h]
  | _, .array n entry, inRow, size, number => by
    rw [Shape.fill, Shape.fill]
    simp only [Shape.fill_congr h entry]
  | _, .list entry, inRow, size, number => by
    rw [Shape.fill, Shape.fill]
    simp only [Shape.fill_congr h entry]
  | _, .optional value, inRow, size, number =>
    congrArg some (Shape.fill_congr h value inRow size number)
  | _, .record _ fields view, _, _, number =>
    congrArg view.ofParts (Fields.fill_congr ((add_mul_hundred_eq_iff i j number).2 h) fields)

theorem Fields.fill_congr {i j : Int32} (h : i * 100 = j * 100) : {β : Type} →
    (fields : Fields β) → fields.fill i = fields.fill j
  | _, .nil => rfl
  | _, .cons f value rest => by
    rw [Fields.fill, Fields.fill, Shape.fill_congr h value, Fields.fill_congr h rest]

end

mutual

/-- All numbers of a pattern depend on a hundred times its index. -/
theorem Shape.relNumbers_fill {i j : Int32} (h : i * 100 ≠ j * 100) : {α : Type} →
    (s : Shape α) → (inRow : Bool) → (size : Nat) → (number : Int32) →
    s.RelNumbers Number.Differ (s.fill inRow size number i) (s.fill inRow size number j)
  | _, .real, _, _, number =>
    Shape.relNumbers_of_isLeaf rfl
      (.some (differ_realOfInt (mt (patternNumber_inj number i j).1 h)))
  | _, .integer, _, _, number =>
    Shape.relNumbers_of_isLeaf rfl
      (.some fun hsame => h ((patternNumber_inj number i j).1 (Int32.toInt_inj.1 hsame)))
  | _, .flag, _, _, _ => Shape.relNumbers_of_isLeaf rfl .none
  | _, .text, _, _, _ => Shape.relNumbers_of_isLeaf rfl .none
  | _, .choice _, _, _, _ => Shape.relNumbers_of_isLeaf rfl .none
  | _, .array n entry, inRow, size, number => by
    refine Shape.relNumbers_array fun k hk => ?_
    simp only [Shape.fill, Vector.getElem_ofFn]
    exact Shape.relNumbers_fill h entry true size _
  | _, .list entry, inRow, size, number => by
    refine Shape.relNumbers_list ?_ fun k hl hm => ?_
    · simp only [Shape.fill, List.length_map]
    · simp only [Shape.fill, List.getElem_map]
      exact Shape.relNumbers_fill h entry true size _
  | _, .optional value, inRow, size, number =>
    Shape.relNumbers_optional (.some (Shape.relNumbers_fill h value inRow size number))
  | _, .record _ fields view, _, _, number => by
    apply Shape.relNumbers_record
    rw [Shape.fill, Shape.fill, view.parts_ofParts, view.parts_ofParts]
    exact Fields.relNumbers_fill (mt (add_mul_hundred_eq_iff i j number).1 h) fields

theorem Fields.relNumbers_fill {i j : Int32} (h : i * 100 ≠ j * 100) : {β : Type} →
    (fields : Fields β) → fields.RelNumbers Number.Differ (fields.fill i) (fields.fill j)
  | _, .nil => fun _ _ => .none
  | _, .cons f value rest =>
    Fields.relNumbers_cons (Shape.relNumbers_fill h value false f.size f.number)
      (Fields.relNumbers_fill h rest)

end

mutual

/-- The floats of a pattern are whole numbers of 32 bits. -/
theorem Shape.allReals_fill {p : Float → Prop} (h : ∀ n : Int32, p (realOfInt n.toInt)) :
    {α : Type} → (s : Shape α) → (inRow : Bool) → (size : Nat) → (number ix : Int32) →
    s.AllReals p (s.fill inRow size number ix)
  | _, .real, _, _, number, ix => h (patternNumber number ix)
  | _, .integer, _, _, _, _ => trivial
  | _, .flag, _, _, _, _ => trivial
  | _, .text, _, _, _, _ => trivial
  | _, .choice _, _, _, _, _ => trivial
  | _, .array n entry, inRow, size, number, ix => by
    intro a ha
    rw [Shape.fill, Vector.toList_ofFn] at ha
    obtain ⟨i, rfl⟩ := List.mem_ofFn.1 ha
    exact Shape.allReals_fill h entry true size _ ix
  | _, .list entry, inRow, size, number, ix => by
    intro a ha
    obtain ⟨i, -, rfl⟩ := List.mem_map.1 ha
    exact Shape.allReals_fill h entry true size _ ix
  | _, .optional value, inRow, size, number, ix => by
    rintro _ ⟨⟩
    exact Shape.allReals_fill h value inRow size number ix
  | _, .record _ fields view, _, _, number, ix => by
    rw [Shape.AllReals, Shape.fill, view.parts_ofParts]
    exact Fields.allReals_fill h fields (ix + number)

theorem Fields.allReals_fill {p : Float → Prop} (h : ∀ n : Int32, p (realOfInt n.toInt)) :
    {β : Type} → (fields : Fields β) → (ix : Int32) → fields.AllReals p (fields.fill ix)
  | _, .nil, _ => trivial
  | _, .cons f value rest, ix =>
    ⟨Shape.allReals_fill h value false f.size f.number ix, Fields.allReals_fill h rest ix⟩

end

/-! ## Lattices -/

namespace Lattice

/-- The keys of the header counts. -/
def countKeys : List String :=
  ["n_ele_use", "n_ele_max", "n_control_max", "n_ic_max"]

theorem isLeaf_of_mem_countKeys :
    ∀ f ∈ Lattice.shape.declared, f.key ∈ countKeys → f.shape.isLeaf = true := by
  have hother {key : String} {p : Prop} (h : key ∉ countKeys) : key ∈ countKeys → p :=
    fun hmem => absurd hmem h
  simp only [Lattice.shape, Shape.declared, Fields.declared, List.map_cons, List.map_nil,
    List.forall_mem_cons, List.not_mem_nil, false_imp_iff, implies_true, and_true,
    Declared.within]
  and_intros <;> first
    | exact fun _ => rfl
    | exact hother (by decide)

/-- The other fields of a lattice do not depend on the header counts. -/
theorem value_withCounts (l : Lattice) (use last links references : Int32) :
    ∀ f ∈ Lattice.shape.declared, f.key ∉ countKeys →
      f.value { l with
        nEleUse := use, nEleMax := last, nControlMax := links, nIcMax := references } =
          f.value l := by
  have hcount {key : String} {p : Prop} (h : key ∈ countKeys) : key ∉ countKeys → p :=
    fun hnot => absurd h hnot
  simp only [Lattice.shape, Shape.declared, Fields.declared, List.map_cons, List.map_nil,
    List.forall_mem_cons, List.not_mem_nil, false_imp_iff, implies_true, and_true, true_and,
    Declared.within, Function.comp_def]
  exact ⟨hcount (by decide), hcount (by decide), hcount (by decide), hcount (by decide)⟩

theorem allReals_withCounts {p : Float → Prop} {l : Lattice} (h : Lattice.shape.AllReals p l)
    (use last links references : Int32) : Lattice.shape.AllReals p { l with
      nEleUse := use, nEleMax := last, nControlMax := links, nIcMax := references } :=
  h

/-- The numbers of the header counts. -/
theorem numberAt?_counts (l : Lattice) :
    Lattice.shape.numberAt? [.key "n_ele_use"] l = some (.integer l.nEleUse.toInt) ∧
    Lattice.shape.numberAt? [.key "n_ele_max"] l = some (.integer l.nEleMax.toInt) ∧
    Lattice.shape.numberAt? [.key "n_control_max"] l = some (.integer l.nControlMax.toInt) ∧
    Lattice.shape.numberAt? [.key "n_ic_max"] l = some (.integer l.nIcMax.toInt) :=
  ⟨rfl, rfl, rfl, rfl⟩

theorem exists_numberAt?_pattern {path : List Step}
    (hpath : path ∈ countKeys.map fun key => [.key key]) :
    ∃ n, ∀ ix, Lattice.shape.numberAt? path (pattern ix) = some n := by
  have hcounts (ix : Int32) := numberAt?_counts (pattern ix)
  simp only [countKeys, List.map_cons, List.map_nil, List.mem_cons, List.not_mem_nil,
    or_false] at hpath
  rcases hpath with rfl | rfl | rfl | rfl
  · exact ⟨.integer 2, fun ix => (hcounts ix).1⟩
  · exact ⟨.integer 2, fun ix => (hcounts ix).2.1⟩
  · exact ⟨.integer 2, fun ix => (hcounts ix).2.2.1⟩
  · exact ⟨.integer 3, fun ix => (hcounts ix).2.2.2⟩

/-- The elements that a pattern has are those that its header counts. -/
theorem withoutSpares_pattern (ix : Int32) : (pattern ix).withoutSpares = pattern ix :=
  rfl

theorem isSome_active?_pattern (ix : Int32) : (pattern ix).active?.isSome = true := by
  rw [isSome_active?_iff]
  right
  change (2 : Int) < 3
  decide

theorem rel_numberAt?_pattern {i j : Int32} (h : i * 100 ≠ j * 100) {path : List Step}
    (hpath : path ∉ countKeys.map fun key => [.key key]) :
    Option.Rel Number.Differ (Lattice.shape.numberAt? path (pattern i))
      (Lattice.shape.numberAt? path (pattern j)) := by
  match path, hpath with
  | [], _ => exact .none
  | .index _ :: _, _ => exact .none
  | .key key :: path, hpath =>
    have hfill := Shape.relNumbers_fill h Lattice.shape false 0 0 (.key key :: path)
    rw [Shape.numberAt?_eq_bind rfl, Shape.numberAt?_eq_bind rfl] at hfill ⊢
    cases hf : Lattice.shape.field? key with
    | none => exact .none
    | some f =>
      rw [hf] at hfill
      have hmem := Shape.mem_declared_of_field? hf
      by_cases hcount : f.key ∈ countKeys
      · cases path with
        | nil =>
          refine absurd (List.mem_map.2 ⟨f.key, hcount, ?_⟩) hpath
          rw [Shape.key_of_field? hf]
        | cons step path =>
          have hleaf := isLeaf_of_mem_countKeys f hmem hcount
          rw [Option.bind_some, Option.bind_some, Shape.numberAt?_cons_of_isLeaf hleaf,
            Shape.numberAt?_cons_of_isLeaf hleaf]
          exact .none
      · have hvalue (ix : Int32) : f.value (pattern ix) = f.value (Lattice.shape.pattern ix) :=
          value_withCounts _ _ _ _ _ f hmem hcount
        rw [Option.bind_some, Option.bind_some, hvalue, hvalue]
        exact hfill

end Lattice

/-! ## Records -/

namespace RecordKind

variable (k : RecordKind)

/-- The pattern of an index. -/
abbrev pattern (ix : Int32) : k.Carrier :=
  Record.pattern ix

/-- The places of the header counts of a lattice, which are the same in all patterns. -/
def headerCounts : RecordKind → List (List Step)
  | .lattice => Lattice.countKeys.map fun key => [.key key]
  | _ => []

theorem pattern_congr {i j : Int32} (h : i * 100 = j * 100) : k.pattern i = k.pattern j := by
  have hfill : k.shape.pattern i = k.shape.pattern j := Shape.fill_congr h k.shape false 0 0
  cases k
  case lattice =>
    exact congrArg (fun l : Lattice => { l with
      nEleUse := 2, nEleMax := 2, nControlMax := 2, nIcMax := 3 }) hfill
  all_goals exact hfill

theorem rel_numberAt?_pattern {i j : Int32} (h : i * 100 ≠ j * 100) {path : List Step}
    (hpath : path ∉ k.headerCounts) :
    Option.Rel Number.Differ (k.shape.numberAt? path (k.pattern i))
      (k.shape.numberAt? path (k.pattern j)) := by
  cases k
  case lattice => exact Lattice.rel_numberAt?_pattern h hpath
  all_goals exact Shape.relNumbers_fill h _ false 0 0 path

theorem inUse_pattern (ix : Int32) : k.inUse (k.pattern ix) = k.pattern ix := by
  cases k
  case lattice => exact Lattice.withoutSpares_pattern ix
  all_goals rfl

theorem answers_pattern (ix : Int32) : k.Answers (k.pattern ix) := by
  cases k
  case lattice => exact Lattice.isSome_active?_pattern ix
  all_goals trivial

/-- Every pattern has a number that depends on its index. -/
theorem exists_numberAt?_pattern (ix : Int32) : ∃ path, path ∉ k.headerCounts ∧
    (k.shape.numberAt? path (k.pattern ix)).isSome = true := by
  cases k with
  | phaseSpace => exact ⟨[.key "vec", .index 0], by decide, rfl⟩
  | twiss => exact ⟨[.key "beta"], by decide, rfl⟩
  | dispersion => exact ⟨[.key "eta"], by decide, rfl⟩
  | floorPosition => exact ⟨[.key "x"], by decide, rfl⟩
  | wigglerTerm => exact ⟨[.key "coef"], by decide, rfl⟩
  | taylorTerm => exact ⟨[.key "coef"], by decide, rfl⟩
  | taylorSeries => exact ⟨[.key "ref"], by decide, rfl⟩
  | wakeSample => exact ⟨[.key "z"], by decide, rfl⟩
  | pseudoMode => exact ⟨[.key "amp"], by decide, rfl⟩
  | cavityMode => exact ⟨[.key "freq"], by decide, rfl⟩
  | wakefield => exact ⟨[.key "sr_table", .index 0, .key "z"], by decide, rfl⟩
  | controlLink => exact ⟨[.key "coef"], by decide, rfl⟩
  | beamParameters => exact ⟨[.key "n_part"], by decide, rfl⟩
  | normalMode => exact ⟨[.key "emittance"], by decide, rfl⟩
  | linacIntegrals => exact ⟨[.key "i2_e4"], by decide, rfl⟩
  | radiationIntegrals => exact ⟨[.key "synch_int1"], by decide, rfl⟩
  | trackingSettings => exact ⟨[.key "d_orb", .index 0], by decide, rfl⟩
  | fieldSample => exact ⟨[.key "e", .index 0], by decide, rfl⟩
  | planeSummary => exact ⟨[.key "tune"], by decide, rfl⟩
  | element => exact ⟨[.key "gamma_c"], by decide, rfl⟩
  | lattice => exact ⟨[.key "version"], by decide, rfl⟩

theorem allReals_pattern {p : Float → Prop} (h : ∀ n : Int32, p (realOfInt n.toInt))
    (ix : Int32) : k.shape.AllReals p (k.pattern ix) := by
  have hfill : k.shape.AllReals p (k.shape.pattern ix) := Shape.allReals_fill h _ false 0 0 ix
  cases k
  case lattice => exact Lattice.allReals_withCounts hfill 2 2 2 3
  all_goals exact hfill

theorem pattern_beq_self (ix : Int32) : (k.pattern ix == k.pattern ix) = true := by
  have hanswers := k.answers_pattern ix
  rw [beq_iff_inUse, and_iff_right hanswers, and_iff_right hanswers, inUse_pattern,
    Shape.equal_self_iff]
  exact k.allReals_pattern (fun n => isNaN_of_isFinite (isFinite_realOfInt n.toInt)) ix

theorem pattern_beq_iff (i j : Int32) :
    (k.pattern i == k.pattern j) = true ↔ i * 100 = j * 100 := by
  constructor
  -- Otherwise a number that depends on the index is different.
  · intro heq
    by_contra h
    obtain ⟨path, hpath, hsome⟩ := k.exists_numberAt?_pattern i
    have hequal := ((k.beq_iff_inUse _ _).1 heq).2.2
    rw [inUse_pattern, inUse_pattern] at hequal
    have hsame := Shape.relNumbers_of_equal k.shape _ _ hequal path
    have hdiffer := k.rel_numberAt?_pattern h hpath
    generalize k.shape.numberAt? path (k.pattern i) = m at hsome hsame hdiffer
    generalize k.shape.numberAt? path (k.pattern j) = n at hsame hdiffer
    cases hsame with
    | none => cases hsome
    | some hsame =>
      cases hdiffer with
      | some hdiffer => exact hsame.not_differ hdiffer
  · intro h
    rw [k.pattern_congr h]
    exact k.pattern_beq_self j

/-- Each float of a pattern is read from its own text as it is. -/
theorem reads_pattern (ix : Int32) :
    k.shape.AllReals (fun x => reread x = some x) (k.pattern ix) :=
  k.allReals_pattern reread_realOfInt ix

theorem read_write_pattern (ix : Int32) :
    Record.read (Record.write (k.pattern ix)) = .ok (k.pattern ix) := by
  rw [read_write_iff_alike, Shape.alike_self_iff]
  exact k.reads_pattern ix

/-- Two patterns are equal iff their indices are congruent modulo `2 ^ 30`. If they are not, then
the patterns have different numbers in all places but those of the header counts of a lattice. -/
theorem pattern_beq_iff_modEq (i j : Int32) :
    ((k.pattern i == k.pattern j) = true ↔ i.toInt ≡ j.toInt [ZMOD 2 ^ 30]) ∧
    (¬i.toInt ≡ j.toInt [ZMOD 2 ^ 30] → ∀ path, path ∉ k.headerCounts →
      Option.Rel Number.Differ (k.shape.numberAt? path (k.pattern i))
        (k.shape.numberAt? path (k.pattern j))) ∧
    ∀ path ∈ k.headerCounts, ∃ n, k.shape.numberAt? path (k.pattern i) = some n ∧
      k.shape.numberAt? path (k.pattern j) = some n := by
  rw [← mul_hundred_eq_iff]
  refine ⟨k.pattern_beq_iff i j, fun h path => k.rel_numberAt?_pattern h, ?_⟩
  cases k
  case lattice =>
    intro path hpath
    obtain ⟨n, hn⟩ := Lattice.exists_numberAt?_pattern hpath
    exact ⟨n, hn i, hn j⟩
  all_goals exact nofun

/-- Patterns of indices that are `2 ^ 30` apart are the same; those of other indices are told apart
by a float of the template element. -/
theorem pattern_beq_iff_modEq_far :
    (RecordKind.lattice.pattern (-5) == RecordKind.lattice.pattern 1073741819) = true ∧
    ¬(-5 : Int32).toInt ≡ (7 : Int32).toInt [ZMOD 2 ^ 30] ∧
    Option.Rel Number.Differ
      (Lattice.shape.numberAt? [.key "ele_init", .key "gamma_c"] (RecordKind.lattice.pattern (-5)))
      (Lattice.shape.numberAt? [.key "ele_init", .key "gamma_c"] (RecordKind.lattice.pattern 7)) ∧
    ∃ n, Lattice.shape.numberAt? [.key "n_ic_max"] (RecordKind.lattice.pattern (-5)) = some n ∧
      Lattice.shape.numberAt? [.key "n_ic_max"] (RecordKind.lattice.pattern 7) = some n := by
  have hfar : ¬(-5 : Int32).toInt ≡ (7 : Int32).toInt [ZMOD 2 ^ 30] := by decide
  refine ⟨(pattern_beq_iff_modEq .lattice (-5) 1073741819).1.2 (by decide), hfar, ?_, ?_⟩
  · exact (pattern_beq_iff_modEq .lattice (-5) 7).2.1 hfar _ (by decide)
  · exact (pattern_beq_iff_modEq .lattice (-5) 7).2.2 _ (by decide)

/-- A pattern is equal to itself. Each of its floats is read from its own text as it is, and so is
the pattern. -/
theorem pattern_comes_back (ix : Int32) :
    (k.pattern ix == k.pattern ix) = true ∧
    k.shape.AllReals (fun x => reread x = some x) (k.pattern ix) ∧
    Record.read (Record.write (k.pattern ix)) = .ok (k.pattern ix) :=
  ⟨k.pattern_beq_self ix, k.reads_pattern ix, k.read_write_pattern ix⟩

end RecordKind

end Accelerator
