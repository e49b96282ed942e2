import DotScribe.Program

/-!
# The command line

Reads the environment, hands the document to the standard output, and writes the rest. What is
written is decided by `Program.run`.
-/

open DotScribe

def specificationVariable : String := "RUST_LOG"

/-- Hands the bytes to the standard output, and tells what it turned out to be. -/
def handOver (bytes : Array UInt8) : IO Program.Outlet := do
  let stdout ← IO.getStdout
  try
    stdout.write ⟨bytes⟩
    stdout.flush
    return .ready
  catch
    | .resourceVanished .. => return .closed
    | _ => return .full

def main (arguments : List String) : IO UInt32 := do
  let specification ← IO.getEnv specificationVariable
  let hoped := Program.run { arguments, specification, outlet := .ready }
  let outlet ← handOver hoped.stdout
  let result := Program.run { arguments, specification, outlet }
  (← IO.getStderr).putStr result.stderr
  return result.code
