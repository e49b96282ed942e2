import DotScribe.Proofs.Program.Streams

/-!
# Which lines are shown

A line of the program is shown exactly if the specification asks for its record. This is read off
the pieces of the specification, so pieces of no use change nothing, wherever they stand, and the
order of pieces with different scopes does not count.
-/

namespace DotScribe.Program

open Specification (Shows Idle DistinctScopes ending list pieces)

variable {invocation : Invocation} {specification : String}

theorem fine_of_mem_records {record : Record} (mem : record ∈ invocation.records) :
    Specification.initial.verbosity.admits record.severity = false := by
  obtain ⟨severity, -⟩ | ⟨severity, -⟩ := Sample.source_of_mem_emit mem <;> rw [severity] <;> rfl

/-- Two records of one run that share a line are the same. -/
theorem eq_of_recordLine_eq {first second : Record} (mem : first ∈ invocation.records)
    (memToo : second ∈ invocation.records) (same : recordLine first = recordLine second) :
    first = second := by
  obtain ⟨severities, messages⟩ := recordLine_inj.1 same
  have origins : first.origin = second.origin :=
    Sample.origin_eq_of_severity_eq mem memToo severities
  obtain ⟨_, _, _⟩ := first
  obtain ⟨_, _, _⟩ := second
  simp only at severities messages origins
  rw [severities, messages, origins]

theorem admits_iff_shows (given : invocation.specification = some specification) {record : Record}
    (mem : record ∈ invocation.records) :
    (Filter.preset.configure invocation.read).admits record = true ↔ Shows specification record := by
  rw [Invocation.read, given]
  exact Specification.admits_configure_iff_shows (fine_of_mem_records mem) specification

theorem recordLine_mem_lines_iff (given : invocation.specification = some specification)
    {record : Record} (mem : record ∈ invocation.records) :
    recordLine record ∈ invocation.lines ↔ Shows specification record := by
  rw [Invocation.lines, recordLines, List.mem_map, ← admits_iff_shows given mem]
  constructor
  · rintro ⟨other, among, same⟩
    obtain ⟨memOther, admitted⟩ := List.mem_filter.1 among
    rw [← eq_of_recordLine_eq memOther mem same]
    exact admitted
  · intro admitted
    exact ⟨record, List.mem_filter.2 ⟨mem, admitted⟩, rfl⟩

/-- Specifications that ask for the same records show the same lines. -/
theorem lines_congr (given : invocation.specification = some specification) {other : String}
    (same : ∀ record, Shows other record ↔ Shows specification record) :
    { invocation with specification := some other }.lines = invocation.lines := by
  have givenOther : { invocation with specification := some other }.specification = some other :=
    rfl
  rw [Invocation.lines, Invocation.lines, recordLines, recordLines]
  apply congrArg (List.map recordLine)
  apply List.filter_congr
  intro record mem
  rw [Bool.eq_iff_iff, admits_iff_shows givenOther mem, admits_iff_shows given mem, same]

/-- All that concerns the graph and names the edges of one node; two pieces are of no use. -/
def edgesOnly : String := "trace, astdot=off,astdot::graph= Trace,a=b=c/edge x0"

def edgesOnlyBusy : String := "astdot=off,astdot::graph= Trace/edge x0"

def edgesOnlyTurned : String := "astdot::graph= Trace,a=b=c, trace,astdot=off/edge x0"

def idleOnly : String := "trace,a=b=c,ast=trace"

def closedInvocation (specification : String) : Invocation :=
  { arguments := [], specification := some specification, outlet := .closed }

end DotScribe.Program
