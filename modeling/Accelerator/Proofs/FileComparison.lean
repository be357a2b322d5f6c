import Accelerator.CommandLine
import Accelerator.Proofs.Comparison
import Accelerator.Proofs.Translation

/-!
# The comparison of two files

The contents of a file either hold an element (`Contents.Holds`) or there is an error about them
(`Contents.Fails`), and loading a file finds out which (`Contents.elementOf_of_holds`,
`Contents.elementOf_of_fails`).  `Request.answered` answers a request for files with given contents,
and notes which of them are read; `fileDiff` is what the comparison behind the answer comes to.  What
the answer to `diff` is follows for each of the three cases: the first file fails, the second one
does, or both hold elements (`Request.diff_answers`).
-/

namespace Accelerator

/-! ## The contents of a file -/

theorem fromUTF8?_eq_some_iff (bytes : ByteArray) (text : String) :
    String.fromUTF8? bytes = some text ↔ text.toUTF8 = bytes := by
  unfold String.fromUTF8?
  split
  · rw [Option.some_inj]
    constructor
    · rintro rfl
      rfl
    · rintro rfl
      rfl
  · next h =>
    apply iff_of_false nofun
    rintro rfl
    exact h text.isValidUTF8

namespace Contents

/-- The contents are the text of an element. -/
def Holds (c : Contents) (x : Element) : Prop :=
  ∃ text : String, c = .ok text.toUTF8 ∧ Record.read text = .ok x

/-- The error about contents of the file at a path that hold no element: they cannot be had, or they
are no text, or they are a text that is not read as an element. -/
inductive Fails (path : String) : Contents → CheckError → Prop
  | unread (cause : FileError) : Fails path (.error cause) (.read path cause)
  | notText (bytes : ByteArray) (h : ∀ text : String, text.toUTF8 ≠ bytes) :
      Fails path (.ok bytes) (.read path .notUtf8)
  | malformed (text : String) (cause : ReadError)
      (h : (Record.read text : Except ReadError Element) = .error cause) :
      Fails path (.ok text.toUTF8) (.parse path cause)

theorem holds_or_fails (path : String) (c : Contents) :
    (∃ x, c.Holds x) ∨ ∃ e, Fails path c e := by
  cases c with
  | error cause => exact .inr ⟨_, .unread cause⟩
  | ok bytes =>
    by_cases h : ∃ text : String, text.toUTF8 = bytes
    · obtain ⟨text, rfl⟩ := h
      cases hread : (Record.read text : Except ReadError Element) with
      | error cause => exact .inr ⟨_, .malformed text cause hread⟩
      | ok x => exact .inl ⟨x, text, rfl, hread⟩
    · exact .inr ⟨_, .notText bytes (not_exists.1 h)⟩

variable {path : String} {c : Contents} {x y : Element} {e : CheckError}

theorem elementOf_of_holds (path : String) (h : c.Holds x) : elementOf path c = .ok x := by
  obtain ⟨text, rfl, hread⟩ := h
  simp only [elementOf, (fromUTF8?_eq_some_iff text.toUTF8 text).2 rfl, hread]

theorem elementOf_of_fails (h : Fails path c e) : elementOf path c = .error e := by
  cases h with
  | unread => rfl
  | notText bytes h =>
    have hnone : String.fromUTF8? bytes = none := by
      rw [Option.eq_none_iff_forall_ne_some]
      intro text htext
      exact h text ((fromUTF8?_eq_some_iff bytes text).1 htext)
    simp only [elementOf, hnone]
  | malformed text cause hread =>
    simp only [elementOf, (fromUTF8?_eq_some_iff text.toUTF8 text).2 rfl, hread]

theorem holds_of_elementOf (h : elementOf path c = .ok x) : c.Holds x := by
  rcases c.holds_or_fails path with ⟨y, hy⟩ | ⟨e, he⟩
  · rw [elementOf_of_holds path hy] at h
    rwa [← Except.ok.inj h]
  · rw [elementOf_of_fails he] at h
    cases h

theorem Fails.not_holds (h : Fails path c e) : ¬∃ x, c.Holds x := by
  rintro ⟨x, hx⟩
  have hok := elementOf_of_holds path hx
  rw [elementOf_of_fails h] at hok
  cases hok

theorem Holds.unique (hx : c.Holds x) (hy : c.Holds y) : x = y := by
  have hok := elementOf_of_holds "" hx
  rw [elementOf_of_holds "" hy, Except.ok.injEq] at hok
  exact hok.symm

end Contents

/-! ## Files that are read -/

/-- Reads a file, and notes its path after those that were read before. -/
def recorded (files : String → Contents) (path : String) : StateM (List String) Contents := do
  modify (· ++ [path])
  return files path

/-- The answer to a request if files have these contents, and the paths of those that are read. -/
def Request.answered (files : String → Contents) (env : Environment) (out : Sink) (r : Request) :
    Answer × List String :=
  (r.run (recorded files) env out).run []

/-- What comparing two files comes to if files have these contents. -/
def fileDiff (files : String → Contents) (a b : String) (out : Sink) : FileDiff :=
  ((diffFiles (recorded files) a b out).run []).1.result

section Reading

variable {files : String → Contents} {a b : String} {x y : Element} {e : CheckError} {out : Sink}
  {read : List String}

theorem run_recorded_bind {α : Type} (path : String) (f : Contents → StateM (List String) α) :
    (recorded files path >>= f).run read = (f (files path)).run (read ++ [path]) := rfl

theorem diffFiles_of_fails (h : (files a).Fails a e) :
    (diffFiles (recorded files) a b out).run read = (⟨.unloaded a e, []⟩, read ++ [a]) := by
  rw [diffFiles, run_recorded_bind, Contents.elementOf_of_fails h]
  rfl

theorem diffFiles_of_holds_of_fails (hx : (files a).Holds x) (h : (files b).Fails b e) :
    (diffFiles (recorded files) a b out).run read =
      (⟨.unloaded b e, [loadedEvent a]⟩, read ++ [a] ++ [b]) := by
  rw [diffFiles, run_recorded_bind, Contents.elementOf_of_holds a hx]
  simp only
  rw [run_recorded_bind, Contents.elementOf_of_fails h]
  rfl

theorem diffFiles_of_holds (hx : (files a).Holds x) (hy : (files b).Holds y) (taken : List UInt8) :
    (diffFiles (recorded files) a b ⟨none, taken⟩).run read =
      (⟨.compared ⟨none, taken ++ bytesOf (reportTexts x y)⟩ (.ok (x == y)),
        [loadedEvent a, loadedEvent b] ++ (evaluate x y).events⟩, read ++ [a] ++ [b]) := by
  rw [diffFiles, run_recorded_bind, Contents.elementOf_of_holds a hx]
  simp only
  rw [run_recorded_bind, Contents.elementOf_of_holds b hy]
  simp only [diffElements_unlimited]
  rfl

end Reading

/-! ## The answer -/

namespace Request

section Answers

variable {files : String → Contents} {verbose : Bool} {env : Environment} {a b path : String}
  {x y : Element} {e : CheckError} {events : List Event} {out out' : Sink} {read : List String}

theorem runDiff_of_unloaded
    (h : (diffFiles (recorded files) a b out).run [] = (⟨.unloaded path e, events⟩, read)) :
    (runDiff (recorded files) a b out).run [] =
      ((out, ⟨1, events, failureLines ("loading " ++ path) e⟩), read) := by
  rw [runDiff, StateT.run_bind, h]
  rfl

theorem runDiff_of_compared {equal : Bool} (h : (diffFiles (recorded files) a b out).run [] =
      (⟨.compared out' (.ok equal), events⟩, read)) :
    (runDiff (recorded files) a b out).run [] =
      ((out', ⟨verdictCode equal, events, []⟩), read) := by
  rw [runDiff, StateT.run_bind, h]
  rfl

/-- The lines about a failure come last in the log. -/
theorem answered_of_runDiff {ending : Ending}
    (h : (runDiff (recorded files) a b out).run [] = ((out', ending), read)) :
    ∃ shown, answered files env out ⟨verbose, .diff a b⟩ =
      (⟨ending.exitCode, out', shown ++ ending.failure⟩, read) := by
  let config := logConfig ⟨verbose, .diff a b⟩ env
  let filter := LogFilter.ofSetting (env.logFilter.getD config.filter)
  refine ⟨logLines config.format filter (config.startEvents ++ ending.events), ?_⟩
  unfold answered run
  simp only
  rw [StateT.run_bind, h]
  rfl

end Answers

theorem verdictCode_eq_zero_iff (good : Bool) : verdictCode good = 0 ↔ good = true := by
  cases good <;> decide

end Request

/-! ## The report -/

/-- The text of the line for a group. -/
def groupLine (x y : Element) (g : FieldGroup) : List UInt8 :=
  textBytes (g.label ++ ": " ++ flagDigit (g.agree x y))

theorem bytesOf_groupTexts_eq (x y : Element) :
    bytesOf (groupTexts x y) = (elementGroups.map (groupLine x y)).flatMap (· ++ [10]) := by
  rw [groupTexts, evaluate, List.flatMap_map, List.flatMap_map]
  induction elementGroups with
  | nil => rfl
  | cons g gs ih =>
    rw [List.flatMap_cons, List.flatMap_cons, bytesOf_append, ih, bytesOf_flagLine]
    rfl

theorem lineFeed_notMem_groupLine (x y : Element) : ∀ g ∈ elementGroups, 10 ∉ groupLine x y g := by
  have h : ∀ g ∈ elementGroups, ∀ b, 10 ∉ textBytes (g.label ++ ": " ++ flagDigit b) := by
    simp only [elementGroups, List.forall_mem_cons, List.not_mem_nil, false_imp_iff, implies_true,
      and_true]
    decide
  intro g hg
  exact h g hg _

/-- The report on two elements has one line for each group. -/
theorem byteLines_groupTexts (x y : Element) :
    byteLines (bytesOf (groupTexts x y)) = elementGroups.map (groupLine x y) := by
  rw [bytesOf_groupTexts_eq]
  apply byteLines_flatMap
  rw [List.forall_mem_map]
  exact lineFeed_notMem_groupLine x y

/-- The whole report has the line of the verdict after these. -/
theorem byteLines_reportTexts (x y : Element) : byteLines (bytesOf (reportTexts x y)) =
    elementGroups.map (groupLine x y) ++ [textBytes ("all: " ++ flagDigit (x == y))] := by
  have hlines : bytesOf (reportTexts x y) = (elementGroups.map (groupLine x y) ++
      [textBytes ("all: " ++ flagDigit (x == y))]).flatMap (· ++ [10]) := by
    rw [reportTexts, bytesOf_append, bytesOf_groupTexts_eq, bytesOf_flagLine, List.flatMap_append,
      List.flatMap_singleton]
    rfl
  rw [hlines]
  apply byteLines_flatMap
  rw [List.forall_mem_append, List.forall_mem_map, List.forall_mem_singleton]
  exact ⟨lineFeed_notMem_groupLine x y, lineFeed_notMem_verdict _⟩

theorem compareElements_empty (x y : Element) :
    compareElements x y (Sink.empty none) = (⟨none, bytesOf (groupTexts x y)⟩, .ok ()) :=
  Sink.putAll_unlimited _ []

/-! ## The three cases -/

namespace Request

/-- An answer tells the failure to load the file at a path, and nothing is written. -/
structure Refuses (path : String) (e : CheckError) (taken : List UInt8) (answer : Answer) :
    Prop where
  exitCode : answer.exitCode = 1
  output : answer.output.taken = taken
  log : failureLines ("loading " ++ path) e <:+ answer.log

/-- An answer compares two elements: the report on the 17 groups is written, then the line of the
verdict. -/
structure Compares (x y : Element) (taken : List UInt8) (answer : Answer) : Prop where
  exitCode : answer.exitCode = verdictCode (x == y)
  output : ∃ groups, compareElements x y (Sink.empty none) = (⟨none, groups⟩, .ok ()) ∧
    (byteLines groups).length = 17 ∧ answer.output.taken =
      taken ++ groups ++ textBytes ("all: " ++ flagDigit (x == y) ++ "\n")

theorem Refuses.exitCode_ne_zero {path : String} {e : CheckError} {taken : List UInt8}
    {answer : Answer} (h : Refuses path e taken answer) : answer.exitCode ≠ 0 := by
  rw [h.exitCode]
  decide

theorem Compares.exitCode_eq_zero_iff {x y : Element} {taken : List UInt8} {answer : Answer}
    (h : Compares x y taken answer) : answer.exitCode = 0 ↔ (x == y) = true := by
  rw [h.exitCode, verdictCode_eq_zero_iff]

theorem Compares.exitCode_eq_or {x y : Element} {taken : List UInt8} {answer : Answer}
    (h : Compares x y taken answer) : answer.exitCode = 0 ∨ answer.exitCode = 1 := by
  rw [h.exitCode, verdictCode]
  split <;> simp

section Cases

variable {files : String → Contents} (verbose : Bool) (env : Environment) {a b : String}
  {x y : Element} {e : CheckError} (taken : List UInt8)

theorem refuses_first (h : (files a).Fails a e) :
    ∃ answer, answered files env ⟨none, taken⟩ ⟨verbose, .diff a b⟩ = (answer, [a]) ∧
      fileDiff files a b ⟨none, taken⟩ = .unloaded a e ∧ Refuses a e taken answer := by
  have hdiff : (diffFiles (recorded files) a b ⟨none, taken⟩).run [] = _ := diffFiles_of_fails h
  obtain ⟨shown, hanswer⟩ := answered_of_runDiff (runDiff_of_unloaded hdiff)
  exact ⟨_, hanswer, congrArg (·.1.result) hdiff, rfl, rfl, shown, rfl⟩

theorem refuses_second (hx : (files a).Holds x) (h : (files b).Fails b e) :
    ∃ answer, answered files env ⟨none, taken⟩ ⟨verbose, .diff a b⟩ = (answer, [a, b]) ∧
      fileDiff files a b ⟨none, taken⟩ = .unloaded b e ∧ Refuses b e taken answer := by
  have hdiff : (diffFiles (recorded files) a b ⟨none, taken⟩).run [] = _ :=
    diffFiles_of_holds_of_fails hx h
  obtain ⟨shown, hanswer⟩ := answered_of_runDiff (runDiff_of_unloaded hdiff)
  exact ⟨_, hanswer, congrArg (·.1.result) hdiff, rfl, rfl, shown, rfl⟩

theorem compares (hx : (files a).Holds x) (hy : (files b).Holds y) :
    ∃ answer, answered files env ⟨none, taken⟩ ⟨verbose, .diff a b⟩ = (answer, [a, b]) ∧
      fileDiff files a b ⟨none, taken⟩ = .compared answer.output (.ok (x == y)) ∧
      Compares x y taken answer := by
  have hdiff : (diffFiles (recorded files) a b ⟨none, taken⟩).run [] = _ :=
    diffFiles_of_holds hx hy taken
  obtain ⟨shown, hanswer⟩ := answered_of_runDiff (runDiff_of_compared hdiff)
  refine ⟨_, hanswer, congrArg (·.1.result) hdiff, rfl, _, compareElements_empty x y, ?_, ?_⟩
  · rw [byteLines_groupTexts, List.length_map]
    rfl
  · show taken ++ bytesOf (reportTexts x y) = _
    rw [reportTexts, bytesOf_append, List.append_assoc, bytesOf_flagLine, textBytes_append]
    rfl

end Cases

/-- The elements of two files are compared.  The exit code is 0 iff both files hold elements that
are equal, and 1 otherwise.  If a file does not load, nothing is written, and the failure that the
comparison comes to and that is told is that of the first such file; if that is the first file, the
second one is not read.  If both load, the report on the groups is written, and the line of the
verdict. -/
theorem diff_answers (files : String → Contents) (verbose : Bool) (env : Environment)
    (a b : String) (taken : List UInt8) :
    ∃ answer read, answered files env ⟨none, taken⟩ ⟨verbose, .diff a b⟩ = (answer, read) ∧
    (answer.exitCode = 0 ↔ ∃ x y, (files a).Holds x ∧ (files b).Holds y ∧ (x == y) = true) ∧
    (answer.exitCode = 0 ∨ answer.exitCode = 1) ∧
    ((¬∃ x, (files a).Holds x) →
      read = [a] ∧ ∃ e, (files a).Fails a e ∧
        fileDiff files a b ⟨none, taken⟩ = .unloaded a e ∧ Refuses a e taken answer) ∧
    (∀ x, (files a).Holds x → (¬∃ y, (files b).Holds y) →
      read = [a, b] ∧ ∃ e, (files b).Fails b e ∧
        fileDiff files a b ⟨none, taken⟩ = .unloaded b e ∧ Refuses b e taken answer) ∧
    ∀ x y, (files a).Holds x → (files b).Holds y → read = [a, b] ∧
      fileDiff files a b ⟨none, taken⟩ = .compared answer.output (.ok (x == y)) ∧
      Compares x y taken answer := by
  rcases (files a).holds_or_fails a with ⟨x, hx⟩ | ⟨e, he⟩
  · rcases (files b).holds_or_fails b with ⟨y, hy⟩ | ⟨e, he⟩
    -- Both files load.
    · obtain ⟨answer, hanswer, hdiff, h⟩ := compares verbose env taken hx hy
      refine ⟨answer, _, hanswer, ?_, h.exitCode_eq_or, fun hno => absurd ⟨x, hx⟩ hno,
        fun _ _ hno => absurd ⟨y, hy⟩ hno, ?_⟩
      · rw [h.exitCode_eq_zero_iff]
        constructor
        · intro heq
          exact ⟨x, y, hx, hy, heq⟩
        · rintro ⟨x', y', hx', hy', heq⟩
          rwa [hx.unique hx', hy.unique hy']
      · intro x' y' hx' hy'
        obtain rfl := hx.unique hx'
        obtain rfl := hy.unique hy'
        exact ⟨rfl, hdiff, h⟩
    -- The second file does not load.
    · obtain ⟨answer, hanswer, hdiff, h⟩ := refuses_second verbose env taken hx he
      refine ⟨answer, _, hanswer, ?_, .inr h.exitCode, fun hno => absurd ⟨x, hx⟩ hno,
        fun _ _ _ => ⟨rfl, e, he, hdiff, h⟩, ?_⟩
      · apply iff_of_false h.exitCode_ne_zero
        rintro ⟨_, y, -, hy, -⟩
        exact he.not_holds ⟨y, hy⟩
      · intro _ y _ hy
        exact absurd ⟨y, hy⟩ he.not_holds
  -- The first file does not load.
  · obtain ⟨answer, hanswer, hdiff, h⟩ := refuses_first (b := b) verbose env taken he
    refine ⟨answer, _, hanswer, ?_, .inr h.exitCode, fun _ => ⟨rfl, e, he, hdiff, h⟩, ?_, ?_⟩
    · apply iff_of_false h.exitCode_ne_zero
      rintro ⟨x, _, hx, -, -⟩
      exact he.not_holds ⟨x, hx⟩
    · intro x hx
      exact absurd ⟨x, hx⟩ he.not_holds
    · intro x _ hx
      exact absurd ⟨x, hx⟩ he.not_holds

/-- The blank element in one file, and no others. -/
def blankFile (path : String) : Contents :=
  if path = "a.json" then .ok (Record.write Element.shape.blank).toUTF8 else .error .missing

/-- A file that holds the blank element, compared with itself and with a file that is missing. -/
theorem diff_answers_blank :
    let diff (a b : String) := answered blankFile ⟨none, none⟩ ⟨none, []⟩ ⟨false, .diff a b⟩
    (blankFile "a.json").Holds Element.shape.blank ∧ (¬∃ x, (blankFile "b.json").Holds x) ∧
    (∃ answer, diff "a.json" "a.json" = (answer, ["a.json", "a.json"]) ∧
      Compares Element.shape.blank Element.shape.blank [] answer) ∧
    (∃ answer e, diff "a.json" "b.json" = (answer, ["a.json", "b.json"]) ∧
      fileDiff blankFile "a.json" "b.json" ⟨none, []⟩ = .unloaded "b.json" e ∧
      answer.output.taken = []) ∧
    ∃ answer e, diff "b.json" "a.json" = (answer, ["b.json"]) ∧
      fileDiff blankFile "b.json" "a.json" ⟨none, []⟩ = .unloaded "b.json" e ∧
      answer.output.taken = [] := by
  intro diff
  have hblank : (blankFile "a.json").Holds Element.shape.blank :=
    ⟨Record.write Element.shape.blank, rfl, RecordKind.element.read_write_blank⟩
  have hfails : (blankFile "b.json").Fails "b.json" (.read "b.json" .missing) := .unread .missing
  have hmissing : ¬∃ x, (blankFile "b.json").Holds x := hfails.not_holds
  refine ⟨hblank, hmissing, ?_, ?_, ?_⟩
  · obtain ⟨answer, _, hanswer, -, -, -, -, hboth⟩ :=
      diff_answers blankFile false ⟨none, none⟩ "a.json" "a.json" []
    obtain ⟨rfl, -, hcompares⟩ := hboth _ _ hblank hblank
    exact ⟨answer, hanswer, hcompares⟩
  · obtain ⟨answer, _, hanswer, -, -, -, hsecond, -⟩ :=
      diff_answers blankFile false ⟨none, none⟩ "a.json" "b.json" []
    obtain ⟨rfl, e, -, hdiff, hrefuses⟩ := hsecond _ hblank hmissing
    exact ⟨answer, e, hanswer, hdiff, hrefuses.output⟩
  · obtain ⟨answer, _, hanswer, -, -, hfirst, -, -⟩ :=
      diff_answers blankFile false ⟨none, none⟩ "b.json" "a.json" []
    obtain ⟨rfl, e, -, hdiff, hrefuses⟩ := hfirst hmissing
    exact ⟨answer, e, hanswer, hdiff, hrefuses.output⟩

end Request

end Accelerator
