import DotScribe.Sink.Fault

/-!
# Sinks

A sink takes bytes, a call at a time. A call may be interrupted, may take fewer bytes than it is
offered, and may fail once the sink is full. Whoever has bytes to hand over offers the rest again
until all are taken, and starts over after an interruption.

* `Sink.offer` is one call.
* `Sink.writeAll` is the loop around it. It ends, because every call uses up an interruption or
  takes a byte or fails for good.
* `Sink.flush` asks for what was taken to be passed on. It is asked once.
* `Sink.deliver` delivers a document: the document, a line end behind it, and the request to pass
  both on. It is the one step of the library that can fail, and it fails only through the sink.
  `Failure` is what a caller gets to know then.
-/

namespace DotScribe

/-! ## Text as bytes -/

namespace Text

def utf8 (text : String) : List UInt8 :=
  text.toByteArray.data.toList

/-- The text that the bytes encode; `none` if they encode none. -/
def ofUtf8? (bytes : Array UInt8) : Option String :=
  String.fromUTF8? ⟨bytes⟩

@[simp] theorem utf8_append (first second : String) :
    utf8 (first ++ second) = utf8 first ++ utf8 second := by
  simp [utf8]

@[simp] theorem length_utf8 (text : String) : (utf8 text).length = text.utf8ByteSize := by
  rfl

end Text

/-! ## Sinks -/

/-- A sink: how it takes bytes, and what has happened to it so far. -/
structure Sink where
  /-- How many bytes it takes over its life, if there is a bound. -/
  limit : Option Nat
  /-- How many bytes it takes in one call, if there is a bound. -/
  chunk : Option Nat
  /-- How many more calls are interrupted. -/
  interrupts : Nat
  /-- The fault of a call once the sink is full. Without one such a call takes nothing. -/
  onFull : Option Fault
  onFlush : Option Fault
  written : Array UInt8
  flushes : Nat
  /-- A call that is not bounded otherwise takes at least one byte. -/
  chunk_pos : ∀ most ∈ chunk, 0 < most
  /-- A full sink does not ask to be called again. -/
  onFull_lasting : ∀ fault ∈ onFull, fault.kind ≠ .interrupted

namespace Sink

/-- A sink that has taken nothing yet; `none` if it would take nothing in a call, or would ask
    for ever to be called again. -/
def make? (limit chunk : Option Nat) (interrupts : Nat) (onFull onFlush : Option Fault) :
    Option Sink :=
  if valid : (∀ most ∈ chunk, 0 < most) ∧ (∀ fault ∈ onFull, fault.kind ≠ .interrupted) then
    some
      { limit, chunk, interrupts, onFull, onFlush, written := #[], flushes := 0,
        chunk_pos := valid.1, onFull_lasting := valid.2 }
  else none

def unlimited : Sink :=
  { limit := none, chunk := none, interrupts := 0, onFull := none, onFlush := none,
    written := #[], flushes := 0, chunk_pos := by simp, onFull_lasting := by simp }

/-- A sink that takes nothing and reports the system's fault. -/
def broken (fault : SystemFault) : Sink :=
  { limit := some 0, chunk := none, interrupts := 0, onFull := some (.system fault),
    onFlush := none, written := #[], flushes := 0, chunk_pos := by simp,
    onFull_lasting := by cases fault <;> simp [Fault.kind, SystemFault.kind] }

/-! ## One call -/

inductive Response
  | took (count : Nat)
  | failed (fault : Fault)

/-- How many bytes fit under the limit, if there is one. -/
def space (sink : Sink) : Option Nat :=
  sink.limit.map fun most => most - sink.written.size

/-- The smaller of two bounds, of which either may be missing. -/
def bound : Option Nat → Option Nat → Option Nat
  | none, other => other
  | some most, none => some most
  | some most, some other => some (min most other)

/-- The part of the bytes that one uninterrupted call takes. -/
def taken (sink : Sink) (bytes : List UInt8) : List UInt8 :=
  match bound sink.chunk sink.space with
  | none => bytes
  | some most => bytes.take most

def offer (sink : Sink) (bytes : List UInt8) : Response × Sink :=
  if 0 < sink.interrupts then
    (.failed (.plain .interrupted), { sink with interrupts := sink.interrupts - 1 })
  else
    match sink.taken bytes, sink.onFull with
    | [], some fault => (.failed fault, sink)
    | part, _ => (.took part.length, { sink with written := sink.written ++ part })

theorem interrupts_offer_lt {sink after : Sink} {bytes : List UInt8} {fault : Fault}
    (failed : sink.offer bytes = (.failed fault, after)) (again : fault.kind = .interrupted) :
    after.interrupts < sink.interrupts := by
  unfold offer at failed
  split at failed
  · cases failed
    simp only
    omega
  · split at failed
    · next lasting =>
      cases failed
      exact absurd again (sink.onFull_lasting fault lasting)
    · cases failed

theorem interrupts_offer_of_took {sink after : Sink} {bytes : List UInt8} {count : Nat}
    (took : sink.offer bytes = (.took count, after)) : after.interrupts = sink.interrupts := by
  unfold offer at took
  split at took
  · cases took
  · split at took
    · cases took
    · cases took
      rfl

/-! ## The loop -/

/-- Hands over all bytes: whether that came to a good end, and the sink afterwards. -/
def writeAll (sink : Sink) (bytes : List UInt8) : Except Fault Unit × Sink :=
  if bytes.isEmpty then (.ok (), sink)
  else
    match answer : sink.offer bytes with
    | (.took 0, after) => (.error .incomplete, after)
    | (.took (count + 1), after) => after.writeAll (bytes.drop (count + 1))
    | (.failed fault, after) =>
      if fault.kind = .interrupted then after.writeAll bytes else (.error fault, after)
termination_by sink.interrupts + bytes.length
decreasing_by
  · have same := interrupts_offer_of_took answer
    have some : 0 < bytes.length := List.length_pos_iff.2 (by simpa using ‹¬bytes.isEmpty›)
    simp only [List.length_drop]
    omega
  · have fewer := interrupts_offer_lt answer ‹_›
    omega

def flush (sink : Sink) : Except Fault Unit × Sink :=
  let after := { sink with flushes := sink.flushes + 1 }
  match sink.onFlush with
  | none => (.ok (), after)
  | some fault => (.error fault, after)

end Sink

/-! ## Delivery -/

/-- A document could not be delivered, because of a fault of the sink. -/
structure Failure where
  fault : Fault
deriving DecidableEq

def Failure.message (failure : Failure) : String :=
  failure.fault.text

def Failure.cause (failure : Failure) : Fault :=
  failure.fault

/-- Hands over the document, then a line end, then flushes: the first fault, if any, and the sink
    afterwards. After a fault nothing more is tried. -/
def Sink.deliver (sink : Sink) (document : String) : Except Failure Unit × Sink :=
  match sink.writeAll (Text.utf8 document) with
  | (.error fault, after) => (.error ⟨fault⟩, after)
  | (.ok (), after) =>
    match after.writeAll (Text.utf8 "\n") with
    | (.error fault, after) => (.error ⟨fault⟩, after)
    | (.ok (), after) =>
      match after.flush with
      | (.error fault, after) => (.error ⟨fault⟩, after)
      | (.ok (), after) => (.ok (), after)

end DotScribe
