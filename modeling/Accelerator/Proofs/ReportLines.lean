import Accelerator.Proofs.FileComparison
import Accelerator.Proofs.SelfTest
import Mathlib.Data.Fintype.Prod

/-!
# What a report tells

A report has a line for each of its entries: the name of the entry, which may be any text without a
line feed, and an ending that tells all else about it.  No ending is the last part of another one,
so that every line tells where the name ends (`LineFormat.line_injective`), and so a report tells
the entries in their order (`LineFormat.text_inj`).  The lines that tell of failed checks are those
of the outcomes that did not pass (`isFailure_line_iff`), whatever the names of the records are, and
the exit code tells whether there are any (`Request.reportTested_unlimited`).
-/

namespace Accelerator

/-! ## Lines of names and endings -/

/-- A way to write entries in lines.  A line is the name of the entry and an ending for its flags,
and no ending is the last part of another one. -/
structure LineFormat (β ι : Type) where
  name : β → String
  flags : β → ι
  ending : ι → String
  eq_of : ∀ b c, name b = name c → flags b = flags c → b = c
  telling : ∀ i j, textBytes (ending i) <:+ textBytes (ending j) → i = j
  lineFeed_notMem : ∀ i, 10 ∉ textBytes (ending i)

namespace LineFormat

variable {β ι : Type} (F : LineFormat β ι)

/-- The line of an entry. -/
def line (b : β) : List UInt8 :=
  textBytes (F.name b) ++ textBytes (F.ending (F.flags b))

/-- The lines of entries, each with a line feed. -/
def text (bs : List β) : List UInt8 :=
  (bs.map F.line).flatMap (· ++ [10])

/-- A line tells its entry: the shorter one of two endings of the line is the last part of the
other one, so that they are the same. -/
theorem line_injective : Function.Injective F.line := by
  intro b c h
  have hflags : F.flags b = F.flags c := by
    rcases List.suffix_or_suffix_of_suffix ⟨_, h⟩ (List.suffix_append _ _) with hsuffix | hsuffix
    · exact F.telling _ _ hsuffix
    · exact (F.telling _ _ hsuffix).symm
  rw [line, line, hflags, List.append_cancel_right_eq, textBytes_inj] at h
  exact F.eq_of b c h hflags

variable {F} {bs cs : List β}

theorem lineFeed_notMem_line {b : β} (h : '\n' ∉ (F.name b).toList) : 10 ∉ F.line b := by
  rw [line, List.mem_append, not_or, lineFeed_mem_textBytes_iff]
  exact ⟨h, F.lineFeed_notMem _⟩

/-- The lines of a report are those of its entries. -/
theorem byteLines_text (h : ∀ b ∈ bs, '\n' ∉ (F.name b).toList) :
    byteLines (F.text bs) = bs.map F.line := by
  apply byteLines_flatMap
  rw [List.forall_mem_map]
  exact fun b hb => lineFeed_notMem_line (h b hb)

/-- A report tells its entries. -/
theorem text_inj (hbs : ∀ b ∈ bs, '\n' ∉ (F.name b).toList)
    (hcs : ∀ c ∈ cs, '\n' ∉ (F.name c).toList) : F.text bs = F.text cs ↔ bs = cs := by
  constructor
  · intro h
    have hlines := congrArg byteLines h
    rw [byteLines_text hbs, byteLines_text hcs] at hlines
    exact List.map_injective_iff.2 F.line_injective hlines
  · rintro rfl
    rfl

end LineFormat

/-! ## The two formats -/

/-- The format of the results for groups. -/
def resultFormat : LineFormat GroupResult Bool where
  name r := r.label
  flags r := r.matched
  ending b := ": " ++ flagDigit b
  eq_of := by
    rintro ⟨_, _⟩ ⟨_, _⟩ rfl rfl
    rfl
  telling := by decide +kernel
  lineFeed_notMem := by decide +kernel

/-- What a line tells of the checks of a record. -/
def CheckOutcome.ending (o : CheckOutcome) : String :=
  if o.passed then ": ok" else ": FAILED (" ++ ", ".intercalate o.failedChecks ++ ")"

/-- The format of the outcomes of checks. -/
def outcomeFormat : LineFormat CheckOutcome (Bool × Bool × Bool) where
  name o := o.record
  flags o := (o.reflexive, o.distinct, o.roundTrip)
  ending f := (CheckOutcome.mk "" f.1 f.2.1 f.2.2).ending
  eq_of := by
    rintro ⟨_, _, _, _⟩ ⟨_, _, _, _⟩ rfl hflags
    cases hflags
    rfl
  telling := by decide +kernel
  lineFeed_notMem := by decide +kernel

/-- Entries that are written as their lines, each with a line feed, are written as a text. -/
theorem LineFormat.bytesOf_flatMap {β ι : Type} {F : LineFormat β ι} {texts : β → List String}
    (h : ∀ b, bytesOf (texts b) = F.line b ++ [10]) (bs : List β) :
    bytesOf (bs.flatMap texts) = F.text bs := by
  rw [bytesOf, List.flatMap_assoc, text, List.flatMap_map]
  exact congrArg (List.flatMap · bs) (funext h)

theorem bytesOf_flagLine_eq (r : GroupResult) :
    bytesOf (flagLine r.label r.matched) = resultFormat.line r ++ [10] := by
  rw [bytesOf_flagLine, String.append_assoc, textBytes_append]
  rfl

theorem bytesOf_line (o : CheckOutcome) : bytesOf o.line = outcomeFormat.line o ++ [10] := by
  have hok : textBytes ": ok\n" = textBytes ": ok" ++ [10] := by decide
  have hfailed : textBytes ")\n" = textBytes ")" ++ [10] := by decide
  change _ = textBytes o.record ++ textBytes o.ending ++ [10]
  rw [CheckOutcome.line, CheckOutcome.ending]
  split_ifs
  · simp only [bytesOf_cons, bytesOf_nil, hok, List.append_nil, List.append_assoc]
  · simp only [bytesOf_cons, bytesOf_nil, hfailed, textBytes_append, List.append_nil,
      List.append_assoc]

/-! ## Lines of failures -/

/-- A line of the form `<record>: FAILED (<checks>)`. -/
def IsFailure (line : List UInt8) : Prop :=
  ∃ record checks, line = record ++ textBytes ": FAILED (" ++ checks ++ textBytes ")"

theorem isFailure_iff (line : List UInt8) : IsFailure line ↔
    textBytes ": FAILED (" <:+: line.dropLast ∧ line.getLast? = some 41 := by
  have hclosing : textBytes ")" = [41] := by decide
  rw [IsFailure, hclosing]
  constructor
  · rintro ⟨record, checks, rfl⟩
    rw [List.dropLast_concat, List.getLast?_concat]
    exact ⟨⟨record, checks, rfl⟩, rfl⟩
  · rintro ⟨⟨record, checks, hparts⟩, hlast⟩
    refine ⟨record, checks, ?_⟩
    rw [hparts, List.dropLast_append_getLast? 41 hlast]

instance : DecidablePred IsFailure := fun line =>
  decidable_of_iff _ (isFailure_iff line).symm

/-- A line tells of a failure iff its outcome is one: a name in front cannot make one of the line of
an outcome that passed, since that line does not end with a bracket. -/
theorem isFailure_line_iff (o : CheckOutcome) :
    IsFailure (outcomeFormat.line o) ↔ o.passed = false := by
  change IsFailure (textBytes o.record ++ textBytes o.ending) ↔ _
  rw [CheckOutcome.ending]
  split_ifs with hpassed
  · have hok : textBytes ": ok" = [58, 32, 111] ++ [107] := by decide
    rw [isFailure_iff, hok, ← List.append_assoc, List.getLast?_concat, hpassed]
    simp
  · refine iff_of_true ?_ (Bool.eq_false_of_not_eq_true hpassed)
    refine ⟨textBytes o.record, textBytes (", ".intercalate o.failedChecks), ?_⟩
    simp only [textBytes_append, List.append_assoc]

/-! ## What can be read off a report -/

/-- The bytes of the results for groups, and of the outcomes of checks, on a sink without a limit.
-/
theorem taken_writeResults (results : List GroupResult) :
    (writeResults results (Sink.empty none)).1.taken = resultFormat.text results := by
  rw [writeResults, Sink.empty, Sink.putAll_unlimited,
    LineFormat.bytesOf_flatMap bytesOf_flagLine_eq]
  rfl

theorem writeReport_unlimited (outcomes : List CheckOutcome) (taken : List UInt8) :
    writeReport outcomes ⟨none, taken⟩ =
      (⟨none, taken ++ outcomeFormat.text outcomes⟩, .ok ()) := by
  rw [writeReport, Sink.putAll_unlimited, LineFormat.bytesOf_flatMap bytesOf_line]

theorem taken_writeReport (outcomes : List CheckOutcome) :
    (writeReport outcomes (Sink.empty none)).1.taken = outcomeFormat.text outcomes := by
  rw [Sink.empty, writeReport_unlimited]
  rfl

/-- As many lines tell of failures as there are outcomes that did not pass. -/
theorem countP_isFailure {outcomes : List CheckOutcome}
    (h : ∀ o ∈ outcomes, '\n' ∉ o.record.toList) :
    (byteLines (outcomeFormat.text outcomes)).countP (fun line => IsFailure line) =
      outcomes.countP (fun o => !o.passed) := by
  rw [LineFormat.byteLines_text h, List.countP_map]
  apply List.countP_congr
  intro o _
  simp [isFailure_line_iff]

/-- On a sink without a limit the report on outcomes is written, and the exit code is 0 iff all of
them passed. -/
theorem Request.reportTested_unlimited (outcomes : List CheckOutcome) (events : List Event)
    (taken : List UInt8) : Request.reportTested ⟨.ok outcomes, events⟩ ⟨none, taken⟩ =
      (⟨none, taken ++ outcomeFormat.text outcomes⟩,
        ⟨verdictCode (failedCount outcomes == 0), events ++ [finishedEvent outcomes], []⟩) := by
  simp only [reportTested, writeReport_unlimited]

/-- Reports tell all that they are made from, if no name has a line feed: the same text is only
written for the same results in the same order, and for the same outcomes in the same order.  The
lines of the form `<record>: FAILED (<checks>)` are as many as the outcomes that did not pass.  If
these are the outcomes of a self-test, then that report is what is written, and the exit code is 0
iff it has no such line; the self-test of the program has outcomes, and no line feed in a name. -/
theorem reports_lose_nothing :
    (∀ results results' : List GroupResult, (∀ r ∈ results, '\n' ∉ r.label.toList) →
      (∀ r ∈ results', '\n' ∉ r.label.toList) →
      ((writeResults results (Sink.empty none)).1.taken =
        (writeResults results' (Sink.empty none)).1.taken ↔ results = results')) ∧
    (∀ outcomes outcomes' : List CheckOutcome, (∀ o ∈ outcomes, '\n' ∉ o.record.toList) →
      (∀ o ∈ outcomes', '\n' ∉ o.record.toList) →
      ((writeReport outcomes (Sink.empty none)).1.taken =
        (writeReport outcomes' (Sink.empty none)).1.taken ↔ outcomes = outcomes')) ∧
    (∀ outcomes : List CheckOutcome, (∀ o ∈ outcomes, '\n' ∉ o.record.toList) →
      let failures := (byteLines (writeReport outcomes (Sink.empty none)).1.taken).countP
        (fun line => IsFailure line)
      failures = outcomes.countP (fun o => !o.passed) ∧
      ∀ events,
        let run := Request.reportTested ⟨.ok outcomes, events⟩ (Sink.empty none)
        run.1 = (writeReport outcomes (Sink.empty none)).1 ∧
        (run.2.exitCode = 0 ↔ failures = 0)) ∧
    ∃ outcomes, selfTest.result = .ok outcomes ∧ (∀ o ∈ outcomes, '\n' ∉ o.record.toList) ∧
      Request.runSelfTest = Request.reportTested ⟨.ok outcomes, selfTest.events⟩ := by
  refine ⟨?_, ?_, ?_, ?_⟩
  · intro results results' h h'
    rw [taken_writeResults, taken_writeResults]
    exact LineFormat.text_inj h h'
  · intro outcomes outcomes' h h'
    rw [taken_writeReport, taken_writeReport]
    exact LineFormat.text_inj h h'
  · intro outcomes h failures
    have hfailures : failures = outcomes.countP (fun o => !o.passed) := by
      rw [← countP_isFailure h, ← taken_writeReport]
    refine ⟨hfailures, ?_⟩
    intro events run
    have hrun : run = _ := Request.reportTested_unlimited outcomes events []
    rw [hrun, hfailures, Request.verdictCode_eq_zero_iff, beq_iff_eq, Sink.empty,
      writeReport_unlimited]
    exact ⟨rfl, Iff.rfl⟩
  · refine ⟨_, congrArg Reported.result selfTest_eq, ?_, ?_⟩
    · rw [List.forall_mem_map]
      exact fun k _ => k.lineFeed_notMem_name
    · change Request.reportTested selfTest = _
      rw [selfTest_eq]

/-- A label that looks like a whole line; a record that passed with a name that tells of a failure,
before one that did not pass; and the same two records in the other order. -/
theorem reports_lose_nothing_confusing :
    let passed : CheckOutcome := ⟨"ele: FAILED (distinct)", true, true, true⟩
    let failed : CheckOutcome := ⟨"ele: ok, ele", true, false, false⟩
    (writeResults [⟨"wig: 0", true⟩] (Sink.empty none)).1.taken ≠
      (writeResults [⟨"wig", false⟩] (Sink.empty none)).1.taken ∧
    (writeReport [passed, failed] (Sink.empty none)).1.taken ≠
      (writeReport [failed, passed] (Sink.empty none)).1.taken ∧
    (byteLines (writeReport [passed, failed] (Sink.empty none)).1.taken).countP
      (fun line => IsFailure line) = 1 ∧
    (Request.reportTested ⟨.ok [passed, failed], []⟩ (Sink.empty none)).2.exitCode ≠ 0 := by
  intro passed failed
  obtain ⟨hresults, hreport, hcount, -⟩ := reports_lose_nothing
  obtain ⟨hfailures, hexit⟩ := hcount [passed, failed] (by decide)
  refine ⟨?_, ?_, hfailures, ?_⟩
  · exact (hresults _ _ (by decide) (by decide)).not.2 (by decide)
  · exact (hreport [passed, failed] [failed, passed] (by decide) (by decide)).not.2 (by decide)
  · rw [ne_eq, (hexit []).2, hfailures]
    decide

end Accelerator
