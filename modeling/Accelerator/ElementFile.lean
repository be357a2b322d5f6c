import Accelerator.Catalogue
import Accelerator.Comparison.Report

/-!
# Elements in files

Loading an element from the contents of a file, and comparing the elements of two files. How a file
is read is a parameter: `diffFiles` asks for the second file only if the first one holds an element.
-/

namespace Accelerator

/-- What reading a file comes to. -/
abbrev Contents := Except FileError ByteArray

/-- The element that the contents of a file hold. -/
def elementOf (path : String) (contents : Contents) : Except CheckError Element :=
  match contents with
  | .error e => .error (.read path e)
  | .ok bytes =>
    match String.fromUTF8? bytes with
    | none => .error (.read path .notUtf8)
    | some text =>
      match (Record.read text : Except ReadError Element) with
      | .error e => .error (.parse path e)
      | .ok element => .ok element

/-- The report that an element is loaded. -/
def loadedEvent (path : String) : Event where
  level := .debug
  message := "loaded element"
  values := [("path", .display path)]

/-- What comparing two files comes to: the error of the file that does not load, or what writing the
report comes to. -/
inductive FileDiff where
  | unloaded (path : String) (e : CheckError)
  | compared (out : Sink) (equal : Except CheckError Bool)

/-- Compares the elements of two files, and writes the report. -/
def diffFiles {m : Type → Type} [Monad m] (readFile : String → m Contents) (a b : String)
    (out : Sink) : m (Reported FileDiff) := do
  match elementOf a (← readFile a) with
  | .error e => return ⟨.unloaded a e, []⟩
  | .ok x =>
    match elementOf b (← readFile b) with
    | .error e => return ⟨.unloaded b e, [loadedEvent a]⟩
    | .ok y =>
      let (out, report) := diffElements x y out
      return ⟨.compared out report.result, [loadedEvent a, loadedEvent b] ++ report.events⟩

end Accelerator
