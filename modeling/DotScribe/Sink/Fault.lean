/-!
# Faults of a sink

What can go wrong when bytes are handed over. A fault has a kind, which decides how a caller
goes on, and a text for people.

* `Fault.kind` and `Fault.text` are the two.
* `Fault.incomplete` is the fault of a sink that takes no more bytes and gives no reason.
-/

namespace DotScribe

inductive FaultKind
  | notFound
  | permissionDenied
  | connectionReset
  | brokenPipe
  | alreadyExists
  | wouldBlock
  | invalidInput
  | invalidData
  | timedOut
  | writeZero
  | interrupted
  | unsupported
  | unexpectedEof
  | outOfMemory
  | storageFull
  | inputOutput
  | other
deriving DecidableEq

/-- What is said of a fault of which only the kind is known. -/
def FaultKind.text : FaultKind → String
  | notFound => "entity not found"
  | permissionDenied => "permission denied"
  | connectionReset => "connection reset"
  | brokenPipe => "broken pipe"
  | alreadyExists => "entity already exists"
  | wouldBlock => "operation would block"
  | invalidInput => "invalid input parameter"
  | invalidData => "invalid data"
  | timedOut => "timed out"
  | writeZero => "write zero"
  | interrupted => "operation interrupted"
  | unsupported => "unsupported"
  | unexpectedEof => "unexpected end of file"
  | outOfMemory => "out of memory"
  | storageFull => "no storage space"
  | inputOutput => "input/output error"
  | other => "other error"

/-- The faults that an operating system reports of a stream. -/
inductive SystemFault
  | inputOutput
  | noSpace
  | brokenPipe
deriving DecidableEq

namespace SystemFault

/-- The number under which the system knows the fault. -/
def code : SystemFault → Nat
  | inputOutput => 5
  | noSpace => 28
  | brokenPipe => 32

def ofCode? (number : Nat) : Option SystemFault :=
  [inputOutput, noSpace, brokenPipe].find? fun fault => fault.code = number

/-- The system's own words. -/
def words : SystemFault → String
  | inputOutput => "Input/output error"
  | noSpace => "No space left on device"
  | brokenPipe => "Broken pipe"

def kind : SystemFault → FaultKind
  | inputOutput => .inputOutput
  | noSpace => .storageFull
  | brokenPipe => .brokenPipe

end SystemFault

/-- A fault: reported by the system, known by its kind only, or with a message of its own. -/
inductive Fault
  | system (fault : SystemFault)
  | plain (kind : FaultKind)
  | custom (kind : FaultKind) (message : String)
deriving DecidableEq

namespace Fault

def kind : Fault → FaultKind
  | system fault => fault.kind
  | plain kind => kind
  | custom kind _ => kind

def text : Fault → String
  | system fault => fault.words ++ " (os error " ++ Nat.repr fault.code ++ ")"
  | plain kind => kind.text
  | custom _ message => message

/-- The fault of a sink that takes nothing more although bytes are left. -/
def incomplete : Fault :=
  custom .writeZero "failed to write whole buffer"

end Fault

end DotScribe
