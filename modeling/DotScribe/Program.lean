import DotScribe.Filter
import DotScribe.Sample

/-!
# The program

The program emits the sample tree with a fresh builder to its standard output, and shows on its
standard error what the filter specification of its environment asks for. A failed delivery is
reported there too, and in the exit code. Arguments are not looked at.

* `Program.run` says what an invocation writes and how it ends.
-/

namespace DotScribe.Program

/-- What the standard output leads to. -/
inductive Outlet
  | ready
  | full
  | closed
deriving DecidableEq

def Outlet.sink : Outlet → Sink
  | ready => Sink.unlimited
  | full => Sink.broken .noSpace
  | closed => Sink.broken .brokenPipe

structure Invocation where
  arguments : List String
  /-- The filter specification, if the environment has one. -/
  specification : Option String
  outlet : Outlet

structure Result where
  code : UInt32
  stdout : Array UInt8
  stderr : String

def Invocation.read (invocation : Invocation) : Specification :=
  (invocation.specification.map Specification.parse).getD Specification.empty

def recordLine (record : Record) : String :=
  "[" ++ record.severity.name ++ "] " ++ record.message ++ "\n"

/-- The lines of the records that the specification asks for. -/
def recordLines (specification : Specification) (records : List Record) : List String :=
  (records.filter fun record => (Filter.preset.configure specification).admits record).map
    recordLine

def warningLines (specification : Specification) : List String :=
  specification.warnings.map fun warning => warning.message ++ "\n"

/-- The report of a failed delivery: the failure, and what it was caused by. -/
def report (failure : Failure) : String :=
  "Error: " ++ failure.message ++ "\n\nCaused by:\n    " ++ failure.cause.text ++ "\n"

/-- The report of a delivery, which is empty unless the delivery failed. -/
def closing : Except Failure Unit → String
  | .ok () => ""
  | .error failure => report failure

def exitCode : Except Failure Unit → UInt32
  | .ok () => 0
  | .error _ => 1

/-- What the program writes, and how it ends. -/
def run (invocation : Invocation) : Result :=
  let specification := invocation.read
  let work := Sample.emit Builder.fresh invocation.outlet.sink
  let emission := work.result (.upTo .trace)
  let records := work.records (.upTo .trace)
  { code := exitCode emission.outcome
    stdout := emission.sink.written
    stderr := String.join (warningLines specification) ++
      String.join (recordLines specification records) ++ closing emission.outcome }

end DotScribe.Program
