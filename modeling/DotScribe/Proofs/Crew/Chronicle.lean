import DotScribe.Proofs.Crew.Delivery
import DotScribe.Proofs.Journal.Verbosity

/-!
# The journal of a crew

The journal of a run tells what was done, in order: each node that was declared, each edge that
was drawn, each sample tree with the name that comes next, and each document that arrived.

`Report.Tells` says for every kind of step what its records are. It takes names and labels from
what the step was asked for and handed back, and writes out the texts. Watching changes nothing:
the results do not depend on the verbosity, and less verbosity leaves out records and nothing
else.
-/

namespace DotScribe

theorem Builder.steady_perform (builder : Builder) (operation : Operation) :
    (builder.perform operation).Steady := by
  cases operation with
  | declare label => exact (builder.steady_declare label).bind fun _ => Traced.steady_pure _
  | connect parent child options =>
    exact (Edge.steady_draw _).bind fun _ => Traced.steady_pure _
  | buildSample => exact (Sample.steady_build builder).bind fun _ => Traced.steady_pure _
  | emitSample sink => exact (Sample.steady_emit builder sink).bind fun _ => Traced.steady_pure _

namespace Crew

theorem steady_perform (crew : Crew) (step : Step) : (crew.perform step).Steady := by
  cases step with
  | join stem => exact Traced.steady_pure _
  | copy source =>
    cases found : crew[source]? with
    | none =>
      simp only [perform, found]
      exact Traced.steady_pure _
    | some builder =>
      simp only [perform, found]
      exact Traced.steady_pure _
  | ask handle operation =>
    cases found : crew[handle]? with
    | none =>
      simp only [perform, found]
      exact Traced.steady_pure _
    | some builder =>
      simp only [perform, found]
      exact (builder.steady_perform operation).bind fun _ => Traced.steady_pure _
  | draw edge => exact edge.steady_draw.bind fun _ => Traced.steady_pure _

theorem steady_run (crew : Crew) (steps : List Step) : (crew.run steps).Steady := by
  induction steps generalizing crew with
  | nil => exact Traced.steady_pure _
  | cons step steps inductionHypothesis =>
    apply (crew.steady_perform step).bind
    intro first
    exact (inductionHypothesis first.2).bind fun _ => Traced.steady_pure _

/-! ## What a journal tells -/

def nodeRecord (name label : String) : Record :=
  { severity := .trace, origin := .graph,
    message := "declared node " ++ name ++ " with label " ++ Text.quoted label }

def edgeRecord (source target : String) : Record :=
  { severity := .trace, origin := .graph,
    message := "rendered edge " ++ source ++ " -> " ++ target }

def treeRecord (next : String) : Record :=
  { severity := .debug, origin := .sample,
    message := "built example tree with 5 nodes and 4 edges, next id " ++ next }

/-- The records of a sample tree: one for each of its nodes, one for each of its edges, and one
    that tells the name which the builder gives to the next node, whatever its label. -/
def TellsTree (before after : Builder) (text : String) (records : List Record) : Prop :=
  ∃ (nodes : List Node) (next : String),
    (∀ verbosity, (before.declareAll Sample.labels).result verbosity = (nodes, after)) ∧
    nodes.length = 5 ∧ (Sample.edges nodes).length = 4 ∧
    text = Sample.render nodes ((Sample.edges nodes).map Edge.line) ∧
    (∀ label verbosity, ((after.declare label).result verbosity).1.id.name = next) ∧
    records =
      List.zipWith (fun node label => nodeRecord node.id.name label) nodes Sample.labels ++
        (Sample.edges nodes).map (fun edge => edgeRecord edge.source edge.target) ++
        [treeRecord next]

inductive Report.Tells : Report → Prop
  | joined (before after : Crew) (stem : Option String) :
      Tells ⟨before, .join stem, .joined before.length, after, []⟩
  | copied (before after : Crew) (source : Nat) :
      Tells ⟨before, .copy source, .joined before.length, after, []⟩
  | uncopied (before : Crew) (source : Nat) :
      Tells ⟨before, .copy source, .missing source, before, []⟩
  | unasked (before : Crew) (handle : Nat) (operation : Builder.Operation) :
      Tells ⟨before, .ask handle operation, .missing handle, before, []⟩
  | declared (before after : Crew) (handle : Nat) (label : String) (node : Node) :
      Tells ⟨before, .ask handle (.declare label), .yielded (.node node), after,
        [nodeRecord node.id.name label]⟩
  | connected (before : Crew) (handle : Nat) (parent child : NodeId) (options text : String) :
      Tells ⟨before, .ask handle (.connect parent child options), .yielded (.text text), before,
        [edgeRecord parent.name child.name]⟩
  | drawn (before : Crew) (edge : Edge) (text : String) :
      Tells ⟨before, .draw edge, .yielded (.text text), before,
        [edgeRecord edge.source edge.target]⟩
  | built {before after : Crew} {handle : Nat} {former latter : Builder} {text : String}
      {records : List Record} (found : before[handle]? = some former)
      (changed : after[handle]? = some latter) (tree : TellsTree former latter text records) :
      Tells ⟨before, .ask handle .buildSample, .yielded (.text text), after, records⟩
  | emitted {before after : Crew} {handle : Nat} {former latter : Builder} {text : String}
      {records : List Record} (found : before[handle]? = some former)
      (changed : after[handle]? = some latter) (tree : TellsTree former latter text records)
      (sink : Sink) :
      Tells ⟨before, .ask handle (.emitSample sink),
        .yielded (.emission (sink.deliver (Document.wrap text)).1
          (sink.deliver (Document.wrap text)).2), after,
        records ++ (Delivery.ofSink sink (Document.wrap text)).records (.upTo .trace)⟩

theorem tellsTree_journal (builder : Builder) :
    TellsTree builder (builder.advance 5) (Sample.text builder) (Sample.journal builder) := by
  refine ⟨builder.nodes Sample.labels, (builder.advance 5).nextId.name, ?_, ?_, rfl, rfl, ?_, ?_⟩
  · intro verbosity
    rw [Builder.result_declareAll, Sample.ofNat_length_labels]
  · rw [Builder.length_nodes]
    rfl
  · intro label verbosity
    rfl
  · have opening : "built example tree with " ++ Nat.repr Sample.labels.length ++ " nodes and " ++
        Nat.repr Sample.arcs.length ++ " edges, next id " =
        "built example tree with 5 nodes and 4 edges, next id " := by decide
    have next : Sample.built (builder.advance 5) = treeRecord (builder.advance 5).nextId.name := by
      rw [Sample.built, treeRecord, opening, String.append_assoc]
      rfl
    rw [Sample.journal, Builder.journal_eq_zipWith, next]
    rfl

/-! ## Steps and runs -/

theorem tells_ask {crew : Crew} {handle : Nat} {builder : Builder}
    (found : crew[handle]? = some builder) (operation : Builder.Operation) :
    (crew.report (.upTo .trace) (.ask handle operation)).Tells := by
  have inside := (List.getElem?_eq_some_iff.1 found).1
  have changed : (crew.set handle (builder.advance 5))[handle]? = some (builder.advance 5) :=
    List.getElem?_set_self inside
  cases operation with
  | declare label =>
    rw [report_ask _ found, Builder.records_perform, Verbosity.kept_trace]
    exact .declared _ _ _ _ _
  | connect parent child options =>
    -- The builder only lends its name space, so it is put back as it was.
    have kept : crew.set handle builder = crew := set_eq_self found
    rw [report_ask _ found, Builder.records_perform, Verbosity.kept_trace, Builder.perform]
    simp only [Traced.result_bind, Traced.result_pure, kept]
    exact .connected _ _ _ _ _ _
  | buildSample =>
    rw [report_ask _ found, Builder.records_perform, Verbosity.kept_trace]
    simp only [Builder.perform, Traced.result_bind, Traced.result_pure, Sample.result_build]
    exact .built found changed (tellsTree_journal builder)
  | emitSample sink =>
    rw [report_emitSample found, Verbosity.kept_append, kept_deliveryJournal,
      Verbosity.kept_trace]
    exact .emitted found changed (tellsTree_journal builder) sink

theorem tells_report (crew : Crew) (step : Step) : (crew.report (.upTo .trace) step).Tells := by
  cases step with
  | join stem => exact .joined _ _ _
  | copy source =>
    cases found : crew[source]? with
    | none =>
      rw [report_copy_of_none _ found]
      exact .uncopied _ _
    | some builder =>
      rw [report_copy _ found]
      exact .copied _ _ _
  | ask handle operation =>
    cases found : crew[handle]? with
    | none =>
      rw [report_ask_of_none _ found]
      exact .unasked _ _ _
    | some builder => exact tells_ask found operation
  | draw edge =>
    rw [report_draw, Verbosity.kept_trace]
    exact .drawn _ _ _

theorem tells_reports (crew : Crew) (steps : List Step) :
    ∀ report ∈ crew.reports (.upTo .trace) steps, report.Tells := by
  induction steps generalizing crew with
  | nil =>
    intro report mem
    cases mem
  | cons step steps inductionHypothesis =>
    rw [reports, List.forall_mem_cons]
    exact ⟨tells_report crew step, inductionHypothesis _⟩

theorem journal_tells_run :
    (∀ (crew : Crew) (steps : List Step),
      (crew.run steps).records (.upTo .trace) =
          (crew.reports (.upTo .trace) steps).flatMap Report.records ∧
        ((crew.run steps).result (.upTo .trace)).1 =
          (crew.reports (.upTo .trace) steps).map Report.answer ∧
        ∀ report ∈ crew.reports (.upTo .trace) steps, report.Tells) ∧
    ∀ (crew : Crew) (steps : List Step) (lower higher : Verbosity),
      (crew.run steps).result lower = (crew.run steps).result higher ∧
        (lower.rank ≤ higher.rank →
          (crew.run steps).records lower = lower.kept ((crew.run steps).records higher)) := by
  constructor
  · intro crew steps
    exact ⟨records_run crew _ steps, answers_run crew _ steps, tells_reports crew steps⟩
  · intro crew steps lower higher
    have steady := steady_run crew steps
    refine ⟨(steady.result lower).trans (steady.result higher).symm, ?_⟩
    intro le
    rw [steady.records lower, steady.records higher, Verbosity.kept_kept_of_rank_le le]

theorem journal_tells_run_emitted :
    (∃ report ∈ reports [Builder.fresh] (.upTo .trace) [.ask 0 (.emitSample Sink.unlimited)],
      report.Tells) ∧
      Verbosity.rank (.upTo .debug) ≤ Verbosity.rank (.upTo .trace) ∧
      (run [Builder.fresh] [.ask 0 (.emitSample Sink.unlimited)]).records (.upTo .debug) =
        Verbosity.kept (.upTo .debug)
          ((run [Builder.fresh] [.ask 0 (.emitSample Sink.unlimited)]).records (.upTo .trace)) := by
  obtain ⟨tells, watched⟩ := journal_tells_run
  have le : Verbosity.rank (.upTo .debug) ≤ Verbosity.rank (.upTo .trace) := by decide
  refine ⟨⟨_, List.mem_cons_self, ?_⟩, le, (watched _ _ _ _).2 le⟩
  exact (tells [Builder.fresh] [.ask 0 (.emitSample Sink.unlimited)]).2.2 _ List.mem_cons_self

/-- A document that arrives is recorded too, so the records of its tree are not all. -/
theorem records_emission_exceed_tree :
    (run [Builder.fresh] [.ask 0 (.emitSample Sink.unlimited)]).records (.upTo .trace) ≠
        [nodeRecord "x0" "-", nodeRecord "x1" "+", nodeRecord "x2" "1", nodeRecord "x3" "2",
          nodeRecord "x4" "3", edgeRecord "x0" "x2", edgeRecord "x0" "x3", edgeRecord "x1" "x0",
          edgeRecord "x1" "x4", treeRecord "x5"] ∧
      (run [Builder.fresh] [.ask 0 (.emitSample Sink.unlimited)]).records (.upTo .trace) =
        [nodeRecord "x0" "-", nodeRecord "x1" "+", nodeRecord "x2" "1", nodeRecord "x3" "2",
          nodeRecord "x4" "3", edgeRecord "x0" "x2", edgeRecord "x0" "x3", edgeRecord "x1" "x0",
          edgeRecord "x1" "x4", treeRecord "x5", emittedBytes 197] := by
  have arrived : (Sink.unlimited.deliver (Document.wrap (Sample.text Builder.fresh))).1 = .ok () :=
    (Sink.deliver_of_fits rfl).2.2.1 rfl
  have records : (run [Builder.fresh] [.ask 0 (.emitSample Sink.unlimited)]).records
      (.upTo .trace) = Sample.journal Builder.fresh ++
        [Sample.emitted (Document.wrap (Sample.text Builder.fresh))] := by
    rw [records_run, reports, report_emitSample rfl, arrived, Verbosity.kept_trace]
    exact List.append_nil _
  rw [records]
  decide +kernel

end Crew

end DotScribe
