import DotScribe.Program
import DotScribe.Proofs.Filter.Rule
import DotScribe.Proofs.Sample.Records
import DotScribe.Proofs.Sink.Intake
import Mathlib.Data.List.Basic

/-!
# What an invocation writes

The filter specification chooses among the records that are shown, and does nothing else: the
document and the exit code depend on the standard output alone. If that fails, the document is
missing, the record of its delivery is missing with it, and a report stands at the end of what is
shown.
-/

namespace DotScribe.Program

/-! ## The parts of a run -/

/-- What comes of emitting the sample tree. -/
def Invocation.emission (invocation : Invocation) : Sample.Emission :=
  (Sample.emit Builder.fresh invocation.outlet.sink).result (.upTo .trace)

/-- All records of the run, shown or not. -/
def Invocation.records (invocation : Invocation) : List Record :=
  (Sample.emit Builder.fresh invocation.outlet.sink).records (.upTo .trace)

/-- The lines of the records that are shown. -/
def Invocation.lines (invocation : Invocation) : List String :=
  recordLines invocation.read invocation.records

theorem code_run (invocation : Invocation) :
    (run invocation).code = exitCode invocation.emission.outcome := rfl

theorem stdout_run (invocation : Invocation) :
    (run invocation).stdout = invocation.emission.sink.written := rfl

theorem stderr_run (invocation : Invocation) :
    (run invocation).stderr = String.join (warningLines invocation.read) ++
      String.join invocation.lines ++ closing invocation.emission.outcome := rfl

/-! ## The document -/

/-- The document of the sample tree with the program's own identifiers. -/
def reference : String :=
  "strict digraph X \x7b\n" ++
  "x0 [label=\"-\",shape=circle]\n" ++
  "x1 [label=\"+\",shape=circle]\n" ++
  "x2 [label=\"1\",shape=circle]\n" ++
  "x3 [label=\"2\",shape=circle]\n" ++
  "x4 [label=\"3\",shape=circle]\n" ++
  "x0 -> x2\n" ++
  "x0 -> x3\n" ++
  "x1 -> x0\n" ++
  "x1 -> x4\n" ++
  "\x7d"

theorem wrap_text_fresh : Document.wrap (Sample.text Builder.fresh) = reference := by
  decide +kernel

/-! ## The three kinds of standard output -/

/-- The fault that every attempt to write meets, if there is one. -/
def Outlet.fault? : Outlet → Option SystemFault
  | ready => none
  | full => some .noSpace
  | closed => some .brokenPipe

/-- A broken sink takes nothing and reports its fault. -/
theorem deliver_broken (fault : SystemFault) (document : String) :
    ((Sink.broken fault).deliver document).1 = .error ⟨.system fault⟩ ∧
      ((Sink.broken fault).deliver document).2.written = #[] := by
  have nothing : (Sink.broken fault).fitting (Sink.lineBytes document) = [] := rfl
  have short : (Sink.broken fault).fitting (Sink.lineBytes document) ≠ Sink.lineBytes document := by
    rw [nothing]
    exact (List.append_ne_nil_of_right_ne_nil _ (by decide)).symm
  obtain ⟨written, -, outcome⟩ := Sink.deliver_of_short short
  rw [nothing, List.append_nil] at written
  exact ⟨outcome, Array.toList_inj.1 written⟩

theorem deliver_unlimited (document : String) :
    (Sink.unlimited.deliver document).1 = .ok () ∧
      (Sink.unlimited.deliver document).2.written.toList = Sink.lineBytes document := by
  have fits : Sink.unlimited.fitting (Sink.lineBytes document) = Sink.lineBytes document := rfl
  obtain ⟨written, -, outcome, -⟩ := Sink.deliver_of_fits fits
  exact ⟨outcome rfl, written⟩

/-- The outcome of the run: the document arrives whole, or nothing of it does. -/
theorem emission_cases (invocation : Invocation) :
    (invocation.outlet.fault? = none ∧ invocation.emission.outcome = .ok () ∧
        invocation.emission.sink.written.toList = Text.utf8 (reference ++ "\n")) ∨
      ∃ fault, invocation.outlet.fault? = some fault ∧
        invocation.emission.outcome = .error ⟨.system fault⟩ ∧
        invocation.emission.sink.written = #[] := by
  simp only [Invocation.emission, Sample.result_emit, wrap_text_fresh]
  cases invocation.outlet with
  | ready =>
    obtain ⟨outcome, written⟩ := deliver_unlimited reference
    refine .inl ⟨rfl, outcome, written.trans ?_⟩
    rw [Sink.lineBytes, ← Text.utf8_append]
  | full => exact .inr ⟨.noSpace, rfl, deliver_broken .noSpace reference⟩
  | closed => exact .inr ⟨.brokenPipe, rfl, deliver_broken .brokenPipe reference⟩

/-- The records of a run are those of the tree, and one more if the document arrived. -/
theorem records_eq (invocation : Invocation) :
    invocation.records = Sample.journal Builder.fresh ++
      Sample.deliveryJournal reference invocation.emission.outcome := by
  rw [Invocation.records, Sample.records_emit, Verbosity.kept_trace, wrap_text_fresh,
    Invocation.emission, Sample.result_emit, wrap_text_fresh]

/-! ## The lines -/

/-- A line tells the severity and the message of its record. -/
theorem recordLine_inj {first second : Record} :
    recordLine first = recordLine second ↔
      first.severity = second.severity ∧ first.message = second.message := by
  obtain ⟨severity, origin, message⟩ := first
  obtain ⟨severityToo, originToo, messageToo⟩ := second
  cases severity <;> cases severityToo <;>
    simp [recordLine, Severity.name, ← String.toList_inj]

theorem recordLines_append (specification : Specification) (first second : List Record) :
    recordLines specification (first ++ second) =
      recordLines specification first ++ recordLines specification second := by
  simp only [recordLines, List.filter_append, List.map_append]

/-- The line of the document that arrived. -/
def arrivalLine : String := "[DEBUG] emitted document of 197 bytes\n"

theorem recordLine_emitted : recordLine (Sample.emitted reference) = arrivalLine := by
  decide +kernel

theorem arrivalLine_not_mem (specification : Specification) (builder : Builder) :
    arrivalLine ∉ recordLines specification (Sample.journal builder) := by
  intro mem
  obtain ⟨record, among, same⟩ := List.mem_map.1 mem
  rw [← recordLine_emitted, recordLine_inj] at same
  apply Sample.head?_of_mem_sample (List.mem_filter.1 among).1
  rw [same.2]
  simp [Sample.emitted]

/-- Without the record of the delivery the lines of the tree are left. -/
theorem erase_arrivalLine (specification : Specification) (builder : Builder)
    (outcome : Except Failure Unit) :
    (recordLines specification (Sample.journal builder ++
      Sample.deliveryJournal reference outcome)).erase arrivalLine =
        recordLines specification (Sample.journal builder) := by
  rw [recordLines_append, List.erase_append_right _ (arrivalLine_not_mem specification builder)]
  have nothing : (recordLines specification
      (Sample.deliveryJournal reference outcome)).erase arrivalLine = [] := by
    cases outcome with
    | error failure => rfl
    | ok done =>
      rw [Sample.deliveryJournal, recordLines, List.filter_cons]
      split
      · rw [List.filter_nil, List.map_singleton, recordLine_emitted, List.erase_cons_head]
      · rfl
  rw [nothing, List.append_nil]

/-- The specification that asks for all that the program records. -/
def everything : String := "astdot=trace"

theorem admits_everything (record : Record) :
    (Filter.preset.configure (Specification.parse everything)).admits record = true := by
  have told : Filter.preset.configure (Specification.parse everything) =
      { directives := [{ scope := some "astdot", verbosity := .upTo .trace }], needle := none } :=
    rfl
  have fits : ({ scope := some "astdot", verbosity := .upTo .trace } : Directive).fits
      record.origin.path = true :=
    List.isPrefixOf_iff_prefix.2 (Specification.inside_path record.origin)
  have fine : (Verbosity.upTo .trace).admits record.severity = true := by
    cases record.severity <;> rfl
  rw [told]
  simp [Filter.admits, Filter.decisive?, Filter.stronger, Filter.matchesNeedle, fits, fine]

/-- A specification shows some of the records that can be shown, in their order. -/
theorem recordLines_sublist (specification : Specification) (records : List Record) :
    (recordLines specification records).Sublist
      (recordLines (Specification.parse everything) records) := by
  have all : records.filter (Filter.preset.configure (Specification.parse everything)).admits =
      records := List.filter_eq_self.2 fun record _ => admits_everything record
  rw [recordLines, recordLines, all]
  exact List.filter_sublist.map recordLine

/-! ## The streams -/

/-- The report of a fault with the given text. -/
def faultReport (text : String) : String :=
  "Error: " ++ text ++ "\n\nCaused by:\n    " ++ text ++ "\n"

theorem run_depends_on_outlet (invocation : Invocation) :
    (∀ other : Invocation, other.outlet = invocation.outlet →
      (run other).code = (run invocation).code ∧ (run other).stdout = (run invocation).stdout) ∧
    (invocation.outlet.fault? = none →
      (run invocation).code = 0 ∧
      (run invocation).stdout.toList = Text.utf8 (reference ++ "\n")) ∧
    (∀ fault ∈ invocation.outlet.fault?,
      (run invocation).code = 1 ∧ (run invocation).stdout = #[]) ∧
    (run invocation).stderr =
      String.join (invocation.read.warnings.map fun warning => warning.message ++ "\n") ++
      String.join invocation.lines ++
      (invocation.outlet.fault?.map fun fault => faultReport (Fault.system fault).text).getD "" ∧
    invocation.lines.Sublist { invocation with specification := some everything }.lines ∧
    (invocation.outlet.fault? ≠ none →
      invocation.lines = { invocation with outlet := .ready }.lines.erase arrivalLine) := by
  rw [code_run, stdout_run, stderr_run]
  refine ⟨?_, ?_, ?_, ?_, recordLines_sublist _ _, ?_⟩
  · intro other same
    rw [code_run, stdout_run, Invocation.emission, same]
    exact ⟨rfl, rfl⟩
  · intro working
    obtain ⟨-, outcome, written⟩ | ⟨fault, failing, -⟩ := emission_cases invocation
    · rw [outcome]
      exact ⟨rfl, written⟩
    · rw [working] at failing
      cases failing
  · intro fault failing
    obtain ⟨working, -⟩ | ⟨other, -, outcome, written⟩ := emission_cases invocation
    · rw [working] at failing
      cases failing
    · rw [outcome]
      exact ⟨rfl, written⟩
  · obtain ⟨working, outcome, -⟩ | ⟨fault, failing, outcome, -⟩ := emission_cases invocation
    · rw [working, outcome]
      rfl
    · rw [failing, outcome]
      rfl
  · intro failing
    obtain ⟨working, -⟩ | ⟨fault, -, outcome, -⟩ := emission_cases invocation
    · exact absurd working failing
    · rw [Invocation.lines, records_eq, outcome, Invocation.lines, records_eq, erase_arrivalLine,
        Sample.deliveryJournal, List.append_nil]
      rfl

/-- An invocation with an argument and a malformed piece, whose standard output is full. -/
def fullInvocation : Invocation :=
  { arguments := ["--help"], specification := some "astdot=debug,a=b=c", outlet := .full }

/-- An invocation without either, whose standard output works. -/
def plainInvocation : Invocation :=
  { arguments := [], specification := none, outlet := .ready }

theorem run_depends_on_outlet_full :
    { fullInvocation with outlet := .ready }.outlet = plainInvocation.outlet ∧
      (run { fullInvocation with outlet := .ready }).stdout = (run plainInvocation).stdout ∧
      plainInvocation.outlet.fault? = none ∧ (run plainInvocation).code = 0 ∧
      .noSpace ∈ fullInvocation.outlet.fault? ∧ (run fullInvocation).code = 1 ∧
      (run fullInvocation).stdout = #[] ∧ fullInvocation.outlet.fault? ≠ none ∧
      fullInvocation.lines = { fullInvocation with outlet := .ready }.lines.erase arrivalLine := by
  obtain ⟨alike, working, -⟩ := run_depends_on_outlet plainInvocation
  obtain ⟨-, -, failing, -, -, shorter⟩ := run_depends_on_outlet fullInvocation
  have faulty : .noSpace ∈ fullInvocation.outlet.fault? := rfl
  have fault : fullInvocation.outlet.fault? ≠ none := by decide
  obtain ⟨code, stdout⟩ := failing .noSpace faulty
  exact ⟨rfl, (alike _ rfl).2, rfl, (working rfl).1, faulty, code, stdout, fault, shorter fault⟩

end DotScribe.Program
