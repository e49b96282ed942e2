import DotScribe.Proofs.Builder.Allocation
import DotScribe.Proofs.Crew.Run
import DotScribe.Proofs.Sample.Records
import DotScribe.Proofs.Sink.Intake
import Mathlib.Algebra.Group.Nat.Defs

/-!
# Deliveries leave nothing behind

Two runs that differ only in the sinks of their deliveries have the same builders, nodes, texts
and documents after every step. All that a delivery adds to the journal is one record of its
success, and the number in that record is the number of bytes that the sink took.

The counter moves before the sink is asked for anything, so an attempt that fails has used up its
identifiers, and a second attempt gets others. The five nodes of the attempt are those of the
document that was attempted, and those that the journal tells of; the later nodes are those of
what the builder hands back from then on.
-/

namespace DotScribe.Crew

/-- Two steps that are equal but for the sink of a delivery. -/
inductive Step.AlikeButSink : Step → Step → Prop
  | same (step : Step) : AlikeButSink step step
  | emit (handle : Nat) (first second : Sink) :
      AlikeButSink (.ask handle (.emitSample first)) (.ask handle (.emitSample second))

/-- An attempt to deliver: the sink before and after, and how it ended. -/
structure Delivery where
  before : Sink
  outcome : Except Failure Unit
  after : Sink

def Delivery.ofSink (sink : Sink) (document : String) : Delivery :=
  { before := sink
    outcome := (sink.deliver document).1
    after := (sink.deliver document).2 }

/-- How many bytes the sink took in the delivery. -/
def Delivery.received (delivery : Delivery) : Nat :=
  delivery.after.written.size - delivery.before.written.size

def Report.delivery (report : Report) : Option Delivery :=
  match report.step, report.answer with
  | .ask _ (.emitSample before), .yielded (.emission outcome after) =>
    some { before, outcome, after }
  | _, _ => none

/-- The record of a delivery in which the sink took that many bytes. -/
def emittedBytes (count : Nat) : Record :=
  { severity := .debug, origin := .sample,
    message := "emitted document of " ++ Nat.repr count ++ " bytes" }

/-- The record that a delivery adds: there is one only if it succeeded and is to be recorded. -/
def Delivery.records (verbosity : Verbosity) (delivery : Delivery) : List Record :=
  match delivery.outcome with
  | .ok () => if verbosity.admits .debug then [emittedBytes delivery.received] else []
  | .error _ => []

/-- The report is that of an attempt to deliver the document, which is made of the sample tree that
    the builder gives. -/
def Report.Attempts (verbosity : Verbosity) (report : Report) (document : String) : Prop :=
  ∃ (handle : Nat) (sink : Sink) (builder : Builder),
    report.step = .ask handle (.emitSample sink) ∧
    report.before[handle]? = some builder ∧
    document = Document.wrap ((Sample.build builder).result verbosity).1 ∧
    report.delivery = some (Delivery.ofSink sink document)

/-- What two reports have in common if their steps differ at most in a sink. -/
structure Report.AlikeButDelivery (verbosity : Verbosity) (first second : Report) : Prop where
  before : first.before = second.before
  after : first.after = second.after
  answer : (first.answer = second.answer ∧ first.delivery = none ∧ second.delivery = none) ∨
    ∃ document, first.Attempts verbosity document ∧ second.Attempts verbosity document
  records : ∃ common : List Record, (∀ count, emittedBytes count ∉ common) ∧
    first.records = common ++ first.delivery.toList.flatMap (Delivery.records verbosity) ∧
    second.records = common ++ second.delivery.toList.flatMap (Delivery.records verbosity)

/-! ## The record of a success -/

/-- The messages of a success and of everything else begin with different characters. -/
theorem emittedBytes_not_mem_kept {records : List Record}
    (heads : ∀ record ∈ records, record.message.toList.head? ≠ some 'e') (verbosity : Verbosity)
    (count : Nat) : emittedBytes count ∉ verbosity.kept records := by
  intro mem
  exact heads _ (List.mem_of_mem_filter mem) (by simp [emittedBytes])

/-- What is recorded of a delivery counts the bytes that the sink took. -/
theorem kept_deliveryJournal (verbosity : Verbosity) (sink : Sink) (document : String) :
    verbosity.kept (Sample.deliveryJournal document (sink.deliver document).1) =
      (Delivery.ofSink sink document).records verbosity := by
  rw [Delivery.records, Delivery.received, Delivery.ofSink]
  cases outcome : (sink.deliver document).1 with
  | error failure => rfl
  | ok done =>
    -- The sink has taken the document and its line end, which is also what the record counts.
    have length := congrArg List.length (Sink.written_deliver_of_ok outcome)
    have count : (sink.deliver document).2.written.size - sink.written.size =
        document.utf8ByteSize + 1 := by
      have lineEnd : (Text.utf8 "\n").length = 1 := rfl
      rw [List.length_append, Sink.lineBytes, List.length_append, lineEnd, Text.length_utf8,
        Array.length_toList, Array.length_toList] at length
      omega
    rw [count]
    exact List.filter_cons

/-! ## One step -/

variable {crew : Crew} {verbosity : Verbosity} {handle : Nat} {builder : Builder}

/-- A step without a delivery is like itself. -/
theorem alike_of_quiet {report : Report} (quiet : report.delivery = none)
    (free : ∀ count, emittedBytes count ∉ report.records) :
    report.AlikeButDelivery verbosity report where
  before := rfl
  after := rfl
  answer := .inl ⟨rfl, quiet, quiet⟩
  records := by
    refine ⟨report.records, free, ?_⟩
    rw [quiet]
    exact ⟨(List.append_nil _).symm, (List.append_nil _).symm⟩

theorem report_emitSample (found : crew[handle]? = some builder) (sink : Sink) :
    crew.report verbosity (.ask handle (.emitSample sink)) =
      { before := crew
        step := .ask handle (.emitSample sink)
        answer := .yielded (.emission (sink.deliver (Document.wrap (Sample.text builder))).1
          (sink.deliver (Document.wrap (Sample.text builder))).2)
        after := crew.set handle (builder.advance 5)
        records := verbosity.kept (Sample.journal builder ++
          Sample.deliveryJournal (Document.wrap (Sample.text builder))
            (sink.deliver (Document.wrap (Sample.text builder))).1) } := by
  rw [report_ask verbosity found, Builder.records_perform]
  simp only [Builder.perform, Traced.result_bind, Traced.result_pure, Sample.result_emit,
    Builder.journalOf]

theorem attempts_emitSample (found : crew[handle]? = some builder) (sink : Sink) :
    (crew.report verbosity (.ask handle (.emitSample sink))).Attempts verbosity
      (Document.wrap (Sample.text builder)) := by
  refine ⟨handle, sink, builder, rfl, found, ?_, ?_⟩
  · rw [Sample.result_build]
  · rw [report_emitSample found]
    rfl

/-- The tree of an attempt is recorded whatever comes of it. -/
theorem records_emitSample (found : crew[handle]? = some builder) (sink : Sink) :
    (crew.report verbosity (.ask handle (.emitSample sink))).records =
      verbosity.kept (Sample.journal builder) ++
        (crew.report verbosity (.ask handle (.emitSample sink))).delivery.toList.flatMap
          (Delivery.records verbosity) := by
  rw [report_emitSample found, Verbosity.kept_append, kept_deliveryJournal]
  exact congrArg _ (List.append_nil _).symm

theorem alike_emitSample (found : crew[handle]? = some builder) (first second : Sink) :
    (crew.report verbosity (.ask handle (.emitSample first))).AlikeButDelivery verbosity
      (crew.report verbosity (.ask handle (.emitSample second))) := by
  refine ⟨rfl, ?_, .inr ⟨_, attempts_emitSample found first, attempts_emitSample found second⟩,
    verbosity.kept (Sample.journal builder), ?_, records_emitSample found first,
    records_emitSample found second⟩
  · rw [report_emitSample found, report_emitSample found]
  · exact emittedBytes_not_mem_kept (fun _ => Sample.head?_of_mem_sample) verbosity

/-- Of a step without a delivery every record is a declaration, an edge or a tree. -/
theorem alike_ask (found : crew[handle]? = some builder) (operation : Builder.Operation) :
    (crew.report verbosity (.ask handle operation)).AlikeButDelivery verbosity
      (crew.report verbosity (.ask handle operation)) := by
  cases operation with
  | emitSample sink => exact alike_emitSample found sink sink
  | declare label =>
    rw [report_ask verbosity found, Builder.records_perform]
    refine alike_of_quiet rfl (emittedBytes_not_mem_kept ?_ verbosity)
    intro record declared
    rw [Sample.head?_of_mem_journal declared]
    decide
  | connect parent child options =>
    rw [report_ask verbosity found, Builder.records_perform]
    refine alike_of_quiet rfl (emittedBytes_not_mem_kept ?_ verbosity)
    intro record drawn
    rw [List.mem_singleton.1 drawn, Sample.head?_drawn]
    decide
  | buildSample =>
    rw [report_ask verbosity found, Builder.records_perform]
    exact alike_of_quiet rfl (emittedBytes_not_mem_kept (fun _ => Sample.head?_of_mem_sample) verbosity)

theorem delivery_of_missing {report : Report} (missing : report.answer = .missing handle) :
    report.delivery = none := by
  unfold Report.delivery
  rw [missing]
  split
  · next yielded => cases yielded
  · rfl

/-- A builder that is not there delivers nothing, whatever the sink. -/
theorem alike_ask_of_none (absent : crew[handle]? = none) (operation other : Builder.Operation) :
    (crew.report verbosity (.ask handle operation)).AlikeButDelivery verbosity
      (crew.report verbosity (.ask handle other)) := by
  rw [report_ask_of_none verbosity absent, report_ask_of_none verbosity absent]
  refine ⟨rfl, rfl, .inl ⟨rfl, delivery_of_missing rfl, delivery_of_missing rfl⟩, [], ?_, ?_⟩
  · intro count
    exact List.not_mem_nil
  · rw [delivery_of_missing rfl, delivery_of_missing rfl]
    exact ⟨rfl, rfl⟩

theorem alike_report {step other : Step} (alike : step.AlikeButSink other) :
    (crew.report verbosity step).AlikeButDelivery verbosity (crew.report verbosity other) := by
  cases alike with
  | emit handle first second =>
    cases found : crew[handle]? with
    | none => exact alike_ask_of_none found _ _
    | some builder => exact alike_emitSample found first second
  | same step =>
    cases step with
    | join stem => exact alike_of_quiet rfl fun _ => List.not_mem_nil
    | copy source =>
      cases found : crew[source]? with
      | none =>
        rw [report_copy_of_none verbosity found]
        exact alike_of_quiet rfl fun _ => List.not_mem_nil
      | some builder =>
        rw [report_copy verbosity found]
        exact alike_of_quiet rfl fun _ => List.not_mem_nil
    | ask handle operation =>
      cases found : crew[handle]? with
      | none => exact alike_ask_of_none found _ _
      | some builder => exact alike_ask found operation
    | draw edge =>
      rw [report_draw]
      refine alike_of_quiet rfl (emittedBytes_not_mem_kept ?_ verbosity)
      intro record drawn
      rw [List.mem_singleton.1 drawn, Sample.head?_drawn]
      decide

/-! ## Whole runs -/

theorem alike_reports {steps others : List Step}
    (alike : List.Forall₂ Step.AlikeButSink steps others) :
    List.Forall₂ (Report.AlikeButDelivery verbosity) (crew.reports verbosity steps)
      (crew.reports verbosity others) := by
  induction alike generalizing crew with
  | nil => exact .nil
  | @cons step other steps others first _ inductionHypothesis =>
    have reported : (crew.report verbosity step).AlikeButDelivery verbosity
        (crew.report verbosity other) := alike_report first
    -- Both runs go on with the same crew, so they stay comparable.
    rw [reports, reports, ← reported.after]
    exact .cons reported inductionHypothesis

/-! ## An attempt and what follows it -/

/-- The builder has moved on, whatever came of the attempt. -/
theorem getElem?_after_emitSample (found : crew[handle]? = some builder) (sink : Sink) :
    (crew.report verbosity (.ask handle (.emitSample sink))).after[handle]? =
      some (builder.advance 5) := by
  have inside := (List.getElem?_eq_some_iff.1 found).1
  rw [report_emitSample found]
  exact List.getElem?_set_self inside

/-- The five names of an attempt do not come back, as long as the counter does not either. -/
theorem names_emitSample_ne {sink : Sink} {later : List Builder.Operation}
    (few : 5 + Builder.Operation.allocations later ≤ 2 ^ 64) (node : Node)
    (attempted : node ∈ builder.declaredBy verbosity (.emitSample sink)) (next : Node)
    (declared : next ∈ (builder.advance 5).declaredIn verbosity later) :
    node.id.name ≠ next.id.name := by
  -- The builder names the nodes of the attempt and all later ones in one sequence.
  have names := Builder.nodup_names_nodes builder
    (Sample.labels ++ later.flatMap Builder.Operation.labels)
    (by rwa [List.length_append, Builder.Operation.length_flatMap_labels])
  rw [Builder.nodes_append, Sample.ofNat_length_labels, List.map_append, List.nodup_append]
    at names
  rw [Builder.declaredBy_eq_nodes] at attempted
  rw [Builder.declaredIn_eq_nodes] at declared
  exact names.2.2 _ (List.mem_map_of_mem attempted) _ (List.mem_map_of_mem declared)

/-- An attempt takes the next five identifiers. -/
theorem ids_emitSample {sink : Sink} :
    (builder.declaredBy verbosity (.emitSample sink)).map Node.id =
      [builder.nextId, builder.idAfter 1, builder.idAfter 2, builder.idAfter 3,
        builder.idAfter 4] := by
  simp only [Builder.declaredBy_eq_nodes, Builder.Operation.labels, Sample.labels, Builder.nodes,
    Builder.advance_advance, Builder.nextId_advance, List.map_cons, List.map_nil, Node.id_declare]
  rfl

/-- The records of an attempt tell of the declarations of its nodes. -/
theorem filter_isDeclaration_emitSample (found : crew[handle]? = some builder) (sink : Sink) :
    (crew.report (.upTo .trace) (.ask handle (.emitSample sink))).records.filter
        Builder.isDeclaration =
      List.zipWith (fun node label => Builder.declared node.id label)
        (builder.declaredBy verbosity (.emitSample sink)) Sample.labels := by
  rw [report_ask _ found, Builder.records_perform, Verbosity.kept_trace,
    Builder.filter_isDeclaration_journalOf, Builder.declaredBy_eq_nodes, Builder.journal_eq_zipWith]
  rfl

theorem deliveries_leave_nothing :
    (∀ (crew : Crew) (steps others : List Step) (verbosity : Verbosity),
      List.Forall₂ Step.AlikeButSink steps others →
      List.Forall₂ (Report.AlikeButDelivery verbosity) (crew.reports verbosity steps)
        (crew.reports verbosity others)) ∧
    ∀ (crew : Crew) (handle : Nat) (builder : Builder) (sink : Sink) (later : List Step)
      (verbosity : Verbosity), crew[handle]? = some builder →
      5 + Builder.Operation.allocations (operationsOn handle later) ≤ 2 ^ 64 →
      (crew.report verbosity (.ask handle (.emitSample sink))).after[handle]? =
          some (builder.advance 5) ∧
        (builder.declaredBy verbosity (.emitSample sink)).map Node.id =
          [builder.nextId, builder.idAfter 1, builder.idAfter 2, builder.idAfter 3,
            builder.idAfter 4] ∧
        (crew.report verbosity (.ask handle (.emitSample sink))).Attempts verbosity
          (Document.wrap (Sample.textOf (builder.declaredBy verbosity (.emitSample sink)))) ∧
        (crew.report (.upTo .trace) (.ask handle (.emitSample sink))).records.filter
            Builder.isDeclaration =
          List.zipWith (fun node label => Builder.declared node.id label)
            (builder.declaredBy verbosity (.emitSample sink)) Sample.labels ∧
        Builder.Operation.GiveAll (operationsOn handle later)
          ((builder.advance 5).declaredIn verbosity (operationsOn handle later))
          (yieldsFrom handle
            ((crew.report verbosity (.ask handle (.emitSample sink))).after.reports verbosity
              later)) ∧
        ∀ node ∈ builder.declaredBy verbosity (.emitSample sink),
          ∀ next ∈ (builder.advance 5).declaredIn verbosity (operationsOn handle later),
            node.id.name ≠ next.id.name := by
  refine ⟨fun crew steps others verbosity alike => alike_reports alike, ?_⟩
  intro crew handle builder sink later verbosity found few
  refine ⟨getElem?_after_emitSample found sink, ids_emitSample, ?document, filter_isDeclaration_emitSample found sink, ?later,
    names_emitSample_ne few⟩
  case document =>
    rw [Builder.declaredBy_eq_nodes]
    exact attempts_emitSample found sink
  case later =>
    -- Whatever the others do, the builder goes on from where the attempt has left it.
    rw [(getElem?_run (getElem?_after_emitSample found sink) later verbosity).2]
    exact Builder.giveAll_run _ _ verbosity

/-- A delivery, a node, and a second delivery. -/
def twoDeliveries (first second : Sink) : List Step :=
  [.ask 0 (.emitSample first), .ask 0 (.declare ""), .ask 0 (.emitSample second)]

theorem deliveries_leave_nothing_retried :
    List.Forall₂ Step.AlikeButSink (twoDeliveries (Sink.broken .noSpace) Sink.unlimited)
        (twoDeliveries Sink.unlimited (Sink.broken .brokenPipe)) ∧
      5 + Builder.Operation.allocations [.declare "", .emitSample Sink.unlimited] ≤ 2 ^ 64 ∧
      List.Forall₂ (Report.AlikeButDelivery (.upTo .debug))
        (reports [Builder.fresh] (.upTo .debug)
          (twoDeliveries (Sink.broken .noSpace) Sink.unlimited))
        (reports [Builder.fresh] (.upTo .debug)
          (twoDeliveries Sink.unlimited (Sink.broken .brokenPipe))) ∧
      (report [Builder.fresh] .off (.ask 0 (.emitSample (Sink.broken .noSpace)))).after[0]? =
        some (Builder.fresh.advance 5) ∧
      (report [Builder.fresh] .off (.ask 0 (.emitSample (Sink.broken .noSpace)))).Attempts .off
        (Document.wrap (Sample.textOf
          (Builder.fresh.declaredBy .off (.emitSample (Sink.broken .noSpace))))) ∧
      ∀ node ∈ Builder.fresh.declaredBy .off (.emitSample (Sink.broken .noSpace)),
        ∀ next ∈ (Builder.fresh.advance 5).declaredIn .off [.declare "", .emitSample Sink.unlimited],
          node.id.name ≠ next.id.name := by
  obtain ⟨alike, consumed⟩ := deliveries_leave_nothing
  have steps : List.Forall₂ Step.AlikeButSink
      (twoDeliveries (Sink.broken .noSpace) Sink.unlimited)
      (twoDeliveries Sink.unlimited (Sink.broken .brokenPipe)) :=
    .cons (.emit 0 _ _) (.cons (.same _) (.cons (.emit 0 _ _) .nil))
  have few : 5 + Builder.Operation.allocations
      [.declare "", .emitSample Sink.unlimited] ≤ 2 ^ 64 := by decide
  obtain ⟨after, -, attempted, -, -, names⟩ := consumed [Builder.fresh] 0 Builder.fresh
    (Sink.broken .noSpace) [.ask 0 (.declare ""), .ask 0 (.emitSample Sink.unlimited)] .off rfl few
  exact ⟨steps, few, alike _ _ _ _ steps, after, attempted, names⟩

end DotScribe.Crew
