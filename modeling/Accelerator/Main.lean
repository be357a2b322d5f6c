import Accelerator.CommandLine

/-!
# The program

Reads the arguments, the environment and the files, and writes the answer.
-/

namespace Accelerator

/-- The error of the system as an error about a file. -/
def FileError.ofSystem : IO.Error → FileError
  | .noFileOrDirectory .. => .missing
  | .inappropriateType _ code _ => if code = 21 then .isADirectory else .notADirectory
  | .illegalOperation code _ => if code = 21 then .isADirectory else .notADirectory
  | e => .other (toString e)

/-- The contents of a file. -/
def readContents (path : String) : IO Contents := do
  try
    return .ok (← IO.FS.readBinFile path)
  catch e =>
    return .error (.ofSystem e)

/-- How the program is called. -/
def usage : String :=
  "Usage: accelerator [-v|--verbose] <self-test | diff A B>"

end Accelerator

open Accelerator in
/-- Runs the program. -/
def main (args : List String) : IO UInt32 := do
  match Asked.ofArguments args with
  | .usageError =>
    IO.eprintln usage
    return 2
  | .help =>
    IO.println usage
    return 0
  | .request r =>
    let env : Environment :=
      { logFormat := ← IO.getEnv logFormatVariable
        logFilter := ← IO.getEnv logFilterVariable }
    let answer ← r.run readContents env (Sink.empty none)
    let out ← IO.getStdout
    out.write ⟨answer.output.taken.toArray⟩
    out.flush
    for line in answer.log do
      IO.eprintln line
    return answer.exitCode.toUInt32
