import Accelerator.ElementFile
import Accelerator.Logging.Line
import Accelerator.SelfTest

/-!
# The command line

Two commands: `self-test` checks the record types, `diff` compares the elements of two files.
`Asked.ofArguments` reads the arguments, and `Request.run` answers with what is written to the two
output streams and the exit code. What is shown for help or for wrong arguments is left open here.
-/

namespace Accelerator

/-- What to do. -/
inductive Command where
  | selfTest
  | diff (a b : String)
deriving DecidableEq, Repr

/-- A command, and whether to report in detail. -/
structure Request where
  verbose : Bool
  command : Command
deriving DecidableEq, Repr

/-- What arguments ask for. -/
inductive Asked where
  | request (r : Request)
  | help
  | usageError
deriving DecidableEq, Repr

/-- What an option stands for. -/
inductive Switch where
  | verbose
  | help
  | unknown
deriving DecidableEq, Repr

namespace Switch

/-- The switch of a letter. -/
def ofLetter (c : Char) : Switch :=
  if c = 'v' then .verbose else if c = 'h' then .help else .unknown

/-- The switches of an argument: one with a long name, or several with letters. No switch takes a
value, and an argument without a leading dash, or of a dash alone, has none. -/
def ofArgument? (arg : String) : Option (List Switch) :=
  match arg.toList with
  | ['-'] => none
  | '-' :: '-' :: name =>
    if name = "verbose".toList then some [.verbose]
    else if name = "help".toList then some [.help]
    else some [.unknown]
  | '-' :: letters => some (letters.map ofLetter)
  | _ => none

/-- Whether to report in detail, after more switches; that may be asked for once. -/
def apply (verbose : Bool) : List Switch → Except Asked Bool
  | [] => .ok verbose
  | .verbose :: rest => if verbose then .error .usageError else apply true rest
  | .help :: _ => .error .help
  | .unknown :: _ => .error .usageError

end Switch

/-- Operands of a command that takes `count` more of them; after `--` no argument is an option. An
operand may not be empty. -/
def takeOperands (count : Nat) (args : List String) : Except Asked (List String) :=
  if args.length = count ∧ ¬args.contains "" then .ok args else .error .usageError

/-- The arguments of a command that takes `count` more operands. -/
def commandArguments (verbose : Bool) (count : Nat) :
    List String → Except Asked (Bool × List String)
  | [] => if count = 0 then .ok (verbose, []) else .error .usageError
  | arg :: rest =>
    if arg = "--" then do
      let operands ← takeOperands count rest
      .ok (verbose, operands)
    else
      match Switch.ofArgument? arg, count with
      | some switches, _ => do
        let verbose ← Switch.apply verbose switches
        commandArguments verbose count rest
      | none, 0 => .error .usageError
      | none, count + 1 => do
        if arg.isEmpty then .error .usageError
        let (verbose, operands) ← commandArguments verbose count rest
        .ok (verbose, arg :: operands)

namespace Asked

/-- The arguments after the name of a command. Details may be asked for before the name and after
it. -/
def ofCommand (verbose : Bool) (name : String) (args : List String) : Except Asked Request :=
  match name with
  | "self-test" => do
    let (more, _) ← commandArguments false 0 args
    .ok ⟨verbose || more, .selfTest⟩
  | "diff" => do
    let (more, operands) ← commandArguments false 2 args
    match operands with
    | [a, b] => .ok ⟨verbose || more, .diff a b⟩
    | _ => .error .usageError
  | "help" =>
    match args with
    | [] | ["self-test"] | ["diff"] | ["help"] => .error .help
    | _ => .error .usageError
  | _ => .error .usageError

/-- The arguments up to the name of a command. -/
def read (verbose : Bool) : List String → Except Asked Request
  | [] => .error .usageError
  | arg :: rest =>
    match Switch.ofArgument? arg with
    | some switches => do
      let verbose ← Switch.apply verbose switches
      read verbose rest
    | none => ofCommand verbose arg rest

/-- What the arguments of the program ask for. -/
def ofArguments (args : List String) : Asked :=
  match read false args with
  | .ok r => .request r
  | .error asked => asked

end Asked

/-- What the environment says about the log. -/
structure Environment where
  logFormat : Option String
  logFilter : Option String

/-- What the program answers. -/
structure Answer where
  exitCode : Nat
  output : Sink
  log : List String

/-- A cause of a failure, numbered; its further lines are indented. -/
def causeLines (number : Nat) (message : String) : List String :=
  match message.splitOn "\n" with
  | [] => []
  | first :: rest =>
    ("    " ++ String.ofList (natText number) ++ ": " ++ first) :: rest.map ("       " ++ ·)

/-- The lines about a failure. -/
def failureLines (doing : String) (e : CheckError) : List String :=
  ["Error: " ++ doing, "", "Caused by:"] ++ causeLines 0 e.message ++ causeLines 1 e.causeMessage

namespace Request

/-- The exit code of a verdict. -/
def verdictCode (good : Bool) : Nat :=
  if good then 0 else 1

/-- How many outcomes are failures. -/
def failedCount (outcomes : List CheckOutcome) : Nat :=
  outcomes.countP fun o => !o.passed

/-- The report that the self-test is done. -/
def finishedEvent (outcomes : List CheckOutcome) : Event where
  level := .info
  message := "self-test finished"
  values := [("records", .number outcomes.length), ("failed", .number (failedCount outcomes))]

/-- What a command comes to: the exit code, what was reported, and the lines about a failure. -/
structure Ending where
  exitCode : Nat
  events : List Event
  failure : List String

/-- Writes the report on what a test of the record types came to. -/
def reportTested (tested : Reported (Except CheckError (List CheckOutcome))) (out : Sink) :
    Sink × Ending :=
  match tested.result with
  | .error e => (out, ⟨1, tested.events, failureLines "running record self-test" e⟩)
  | .ok outcomes =>
    match writeReport outcomes out with
    | (out, .error e) => (out, ⟨1, tested.events, failureLines "writing self-test report" e⟩)
    | (out, .ok ()) =>
      (out, ⟨verdictCode (failedCount outcomes == 0),
        tested.events ++ [finishedEvent outcomes], []⟩)

/-- Tests the record types. -/
def runSelfTest : Sink → Sink × Ending :=
  reportTested Accelerator.selfTest

/-- Compares the elements of two files. -/
def runDiff {m : Type → Type} [Monad m] (readFile : String → m Contents) (a b : String)
    (out : Sink) : m (Sink × Ending) := do
  let report ← diffFiles readFile a b out
  match report.result with
  | .unloaded path e => return (out, ⟨1, report.events, failureLines ("loading " ++ path) e⟩)
  | .compared out (.error e) =>
    return (out, ⟨1, report.events, failureLines "writing diff report" e⟩)
  | .compared out (.ok equal) => return (out, ⟨verdictCode equal, report.events, []⟩)

/-- The log settings of a request. -/
def logConfig (r : Request) (env : Environment) : LogConfig :=
  let config := LogConfig.ofFormat env.logFormat
  if r.verbose then config.withFilter "debug" else config

/-- Answers a request, writing to `out`. -/
def run {m : Type → Type} [Monad m] (readFile : String → m Contents) (env : Environment)
    (out : Sink) (r : Request) : m Answer := do
  let config := r.logConfig env
  let filter := LogFilter.ofSetting (env.logFilter.getD config.filter)
  let (out, ending) ←
    match r.command with
    | .selfTest => pure (runSelfTest out)
    | .diff a b => runDiff readFile a b out
  return {
    exitCode := ending.exitCode
    output := out
    log := logLines config.format filter (config.startEvents ++ ending.events) ++ ending.failure }

end Request

end Accelerator
