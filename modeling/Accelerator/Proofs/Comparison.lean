import Accelerator.Proofs.Groups

/-!
# The comparison of two elements

The report on two elements says what their equality says: its verdict and its last line are those of
`==`, for all elements, whatever their floats are.
-/

namespace Accelerator

/-! ## The report -/

/-- The texts of the lines for the groups. -/
def groupTexts (x y : Element) : List String :=
  (evaluate x y).result.flatMap fun r => flagLine r.label r.matched

/-- The texts of the whole report. -/
def reportTexts (x y : Element) : List String :=
  groupTexts x y ++ flagLine "all" (x == y)

theorem diffElements_unlimited (x y : Element) (taken : List UInt8) :
    diffElements x y ⟨none, taken⟩ =
      (⟨none, taken ++ bytesOf (reportTexts x y)⟩, ⟨.ok (x == y), (evaluate x y).events⟩) := by
  simp only [diffElements, writeResults, Sink.putAll_unlimited, allMatched_evaluate, reportTexts,
    bytesOf_append, List.append_assoc]
  rfl

/-- Each line of a flag ends with a line feed, and has no other. -/
theorem bytesOf_flagLine (name : String) (b : Bool) :
    bytesOf (flagLine name b) = textBytes (name ++ ": " ++ flagDigit b) ++ [10] := by
  rw [show ([10] : List UInt8) = textBytes "\n" by decide]
  simp only [flagLine, bytesOf_cons, bytesOf_nil, textBytes_append, List.append_nil,
    List.append_assoc]

/-- The lines for the groups end with a line feed. -/
theorem bytesOf_groupTexts (x y : Element) : ∃ s, bytesOf (groupTexts x y) = s ++ [10] := by
  obtain ⟨init, last, h⟩ : ∃ init last, (evaluate x y).result = init ++ [last] :=
    ⟨_, _, (List.dropLast_append_getLast (by simp [evaluate, elementGroups])).symm⟩
  refine ⟨bytesOf (init.flatMap fun r => flagLine r.label r.matched) ++
    textBytes (last.label ++ ": " ++ flagDigit last.matched), ?_⟩
  rw [groupTexts, h, List.flatMap_append, bytesOf_append, List.flatMap_singleton, bytesOf_flagLine,
    List.append_assoc]

theorem lineFeed_notMem_verdict (b : Bool) : 10 ∉ textBytes ("all: " ++ flagDigit b) := by
  cases b <;> decide

theorem getLast?_byteLines_report (x y : Element) (taken : List UInt8) :
    (byteLines (taken ++ bytesOf (reportTexts x y))).getLast? =
      some (textBytes ("all: " ++ flagDigit (x == y))) := by
  obtain ⟨s, h⟩ := bytesOf_groupTexts x y
  rw [reportTexts, bytesOf_append, h, bytesOf_flagLine,
    show taken ++ (s ++ [10] ++ (textBytes ("all" ++ ": " ++ flagDigit (x == y)) ++ [10])) =
      taken ++ s ++ 10 :: (textBytes ("all: " ++ flagDigit (x == y)) ++ [10]) by simp]
  exact getLast?_byteLines _ (lineFeed_notMem_verdict _)

theorem textBytes_flagDigit_iff (b : Bool) :
    textBytes ("all: " ++ flagDigit b) = textBytes "all: 1" ↔ b = true := by
  cases b <;> decide

/-! ## The verdict of the report is that of equality -/

/-- For any two elements, all groups match iff the elements are equal.  On a sink without a limit
the comparison succeeds with that verdict, and the last line of what the sink holds is `all: 1`
exactly for equal elements. -/
theorem report_agrees_with_equality (x y : Element) :
    allMatched (evaluate x y).result = (x == y) ∧
    ∀ taken : List UInt8,
      (diffElements x y ⟨none, taken⟩).2.result = .ok (x == y) ∧
      ((byteLines (diffElements x y ⟨none, taken⟩).1.taken).getLast? = some (textBytes "all: 1") ↔
        (x == y) = true) := by
  refine ⟨allMatched_evaluate x y, ?_⟩
  intro taken
  rw [diffElements_unlimited]
  refine ⟨rfl, ?_⟩
  rw [getLast?_byteLines_report, Option.some_inj]
  exact textBytes_flagDigit_iff _

end Accelerator
