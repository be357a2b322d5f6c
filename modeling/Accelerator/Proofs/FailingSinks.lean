import Accelerator.Proofs.Comparison
import Accelerator.SelfTest

/-!
# Sinks that fail

Every report is written from its first byte on until it ends or the sink refuses a byte, and nothing
is written after that (`Delivers`).  So there is a verdict only after the whole report, whichever
byte the sink refuses and whatever error it gives (`failing_sinks_give_no_verdict`).
-/

namespace Accelerator

/-! ## Reports on any sink -/

/-- A writer delivers a report, and then a verdict: any sink takes what it accepts of the report.
If that is all of it, then there is the verdict, and if it is not, then there is the failure that
tells why the sink refuses the rest. -/
structure Delivers {ε α : Type} (write : Sink → Sink × Except ε α) (report : List UInt8)
    (verdict : α) (failure : SinkError → ε) : Prop where
  unlimited : ∀ taken, write ⟨none, taken⟩ = (⟨none, taken ++ report⟩, .ok verdict)
  taken : ∀ out : Sink, (write out).1.taken = out.taken ++ out.accepted report
  initial : ∀ out : Sink, out.accepted report <+: report
  ok_iff : ∀ out v, (write out).2 = .ok v ↔ v = verdict ∧ out.accepted report = report
  error_iff : ∀ out e, (write out).2 = .error e ↔
    out.accepted report ≠ report ∧ ∃ l, out.limit = some l ∧ e = failure l.refusal

theorem Delivers.of_eq {ε α : Type} {write : Sink → Sink × Except ε α} {report : List UInt8}
    {verdict : α} {failure : SinkError → ε}
    (h : ∀ out, write out = (out.after report, out.answer report verdict failure)) :
    Delivers write report verdict failure where
  unlimited taken := h ⟨none, taken⟩
  taken out := by
    rw [h]
    rfl
  initial out := out.accepted_isPrefix report
  ok_iff out v := by
    rw [h]
    exact Sink.answer_eq_ok_iff
  error_iff out e := by
    rw [h]
    exact Sink.answer_eq_error_iff

/-! ## The writers -/

theorem delivers_putAll (texts : List String) :
    Delivers (Sink.putAll texts) (bytesOf texts) () id := by
  apply Delivers.of_eq
  intro out
  rw [Sink.putAll_eq_putBytes, Sink.putBytes_eq]

theorem delivers_writeReport (outcomes : List CheckOutcome) :
    Delivers (writeReport outcomes) (bytesOf (outcomes.flatMap (·.line))) () CheckError.write := by
  apply Delivers.of_eq
  intro out
  rw [writeReport, Sink.putAll_eq_putBytes, Sink.putBytes_eq,
    Sink.answer_eq_match _ _ _ CheckError.write]
  cases out.answer (bytesOf (outcomes.flatMap (·.line))) () id <;> rfl

/-- The lines for the groups and the line of the verdict are written like one text. -/
theorem diffElements_eq (x y : Element) (out : Sink) : diffElements x y out =
    (out.after (bytesOf (reportTexts x y)),
      ⟨out.answer (bytesOf (reportTexts x y)) (x == y) CheckError.write,
        (evaluate x y).events⟩) := by
  have hwhole : (out.putBytes (bytesOf (groupTexts x y ++ flagLine "all" (x == y)))) = _ :=
    Sink.putBytes_eq (bytesOf (reportTexts x y)) out
  rw [bytesOf_append, Sink.putBytes_append] at hwhole
  rw [diffElements, allMatched_evaluate, writeResults, ← groupTexts, Sink.putAll_eq_putBytes,
    Sink.answer_eq_match]
  rcases hgroups : out.putBytes (bytesOf (groupTexts x y)) with ⟨between, ⟨⟩ | ⟨⟩⟩
  -- The sink fails within the lines for the groups.
  · rw [hgroups] at hwhole
    obtain ⟨rfl, hresult⟩ := Prod.mk.inj hwhole
    rw [← hresult]
  · rw [hgroups] at hwhole
    simp only at hwhole
    simp only [Sink.putAll_eq_putBytes, hwhole]
    cases out.answer (bytesOf (reportTexts x y)) () id <;> rfl

theorem delivers_diffElements (x y : Element) :
    Delivers (fun out => (diffElements x y out).map id (·.result)) (bytesOf (reportTexts x y))
      (x == y) CheckError.write := by
  apply Delivers.of_eq
  intro out
  rw [diffElements_eq]
  rfl

/-! ## No verdict without the whole report -/

/-- The lines for results, for the outcomes of checks and for two elements are delivered to every
sink, and so is the report on two elements that ends with the line of the verdict: what the sink has
taken is always a first part of it, and if that is not all, then the error of the sink comes back.
A verdict on two elements is that of their equality, and its line is then complete. -/
theorem failing_sinks_give_no_verdict :
    (∀ results : List GroupResult, Delivers (writeResults results)
      (bytesOf (results.flatMap fun r => flagLine r.label r.matched)) () id) ∧
    (∀ outcomes : List CheckOutcome, Delivers (writeReport outcomes)
      (bytesOf (outcomes.flatMap (·.line))) () CheckError.write) ∧
    ∀ x y : Element,
      Delivers (compareElements x y) (bytesOf (groupTexts x y)) () id ∧
      Delivers (fun out => (diffElements x y out).map id (·.result))
        (bytesOf (groupTexts x y) ++ textBytes ("all: " ++ flagDigit (x == y) ++ "\n")) (x == y)
        CheckError.write ∧
      ∀ out flag, (diffElements x y out).2.result = .ok flag → flag = (x == y) ∧
        (diffElements x y out).1.taken = out.taken ++ bytesOf (groupTexts x y) ++
          textBytes ("all: " ++ flagDigit flag ++ "\n") := by
  refine ⟨fun _ => delivers_putAll _, delivers_writeReport, fun x y => ?_⟩
  have hreport : bytesOf (reportTexts x y) =
      bytesOf (groupTexts x y) ++ textBytes ("all: " ++ flagDigit (x == y) ++ "\n") := by
    rw [reportTexts, bytesOf_append, bytesOf_flagLine, textBytes_append]
    rfl
  refine ⟨delivers_putAll _, hreport ▸ delivers_diffElements x y, ?_⟩
  intro out flag hok
  rw [diffElements_eq] at hok ⊢
  obtain ⟨rfl, hall⟩ := Sink.answer_eq_ok_iff.1 hok
  refine ⟨rfl, ?_⟩
  rw [Sink.after, hall, hreport, List.append_assoc]

/-- The blank element compared with itself on a sink without a limit, and a line of seven bytes on
sinks with room for six and for seven of them that are full then. -/
theorem failing_sinks_give_no_verdict_cut :
    let blank : Element := Element.shape.blank
    let line : Sink → Sink × Except SinkError Unit := writeResults [⟨"wig", false⟩]
    let full : SinkError := ⟨"no space left"⟩
    ((diffElements blank blank ⟨none, []⟩).2.result = .ok true ∧
      ∃ groups, (diffElements blank blank ⟨none, []⟩).1.taken = groups ++ textBytes "all: 1\n") ∧
    ((line ⟨some ⟨6, full⟩, []⟩).2 = .error full ∧
      (line ⟨some ⟨6, full⟩, []⟩).1.taken = textBytes "wig: 0") ∧
    (line ⟨some ⟨7, full⟩, []⟩).2 = .ok () := by
  intro blank line full
  obtain ⟨hresults, -, helements⟩ := failing_sinks_give_no_verdict
  obtain ⟨-, -, hverdict⟩ := helements blank blank
  have hok : (diffElements blank blank ⟨none, []⟩).2.result = .ok true := by
    rw [diffElements_unlimited]
    exact congrArg Except.ok (by decide +kernel)
  refine ⟨⟨hok, _, (hverdict ⟨none, []⟩ true hok).2⟩, ⟨?_, ?_⟩, ?_⟩
  · exact ((hresults [⟨"wig", false⟩]).error_iff _ full).2 ⟨by decide, _, rfl, rfl⟩
  · exact ((hresults [⟨"wig", false⟩]).taken ⟨some ⟨6, full⟩, []⟩).trans (by decide)
  · exact ((hresults [⟨"wig", false⟩]).ok_iff ⟨some ⟨7, full⟩, []⟩ ()).2 ⟨rfl, by decide⟩

end Accelerator
