import DotScribe.Sample

/-!
# Operations on a builder

What can be asked of one builder, one request after the other: declare a node, draw an edge, make
the sample tree, emit it. Each operation is summed up by four facts, from which everything about
runs follows: how far it moves the builder, which nodes it declares, what it hands back, and which
records it leaves.

`Operation.Gives` ties the nodes to what is handed back: a node stands there itself, and the nodes
of a sample tree stand in its text, or in the document of the delivery.
-/

namespace DotScribe

namespace Sample

/-- The records of a delivery, when all are kept: there is one only if it succeeded. -/
def deliveryJournal (document : String) : Except Failure Unit → List Record
  | .ok () => [emitted document]
  | .error _ => []

theorem records_emit (builder : Builder) (sink : Sink) (verbosity : Verbosity) :
    (emit builder sink).records verbosity =
      verbosity.kept (journal builder ++
        deliveryJournal (Document.wrap (text builder))
          (sink.deliver (Document.wrap (text builder))).1) := by
  simp only [emit, Traced.records_bind, records_build, result_build, Verbosity.kept_append]
  split
  · next failed =>
    rw [failed]
    rfl
  · next delivered =>
    rw [delivered]
    simp only [Traced.records_bind, Traced.records_note, Traced.records_pure, List.append_nil,
      deliveryJournal]

end Sample

namespace Builder

inductive Operation
  | declare (label : String)
  | connect (parent child : NodeId) (options : String)
  | buildSample
  | emitSample (sink : Sink)

/-- What an operation hands back. -/
inductive Yield
  | node (node : Node)
  | text (text : String)
  | emission (outcome : Except Failure Unit) (sink : Sink)

def perform (builder : Builder) : Operation → Traced (Yield × Builder)
  | .declare label => do
    let made ← builder.declare label
    return (.node made.1, made.2)
  | .connect parent child options => do
    let line ← builder.connect parent child options
    return (.text line, builder)
  | .buildSample => do
    let made ← Sample.build builder
    return (.text made.1, made.2)
  | .emitSample sink => do
    let emission ← Sample.emit builder sink
    return (.emission emission.outcome emission.sink, emission.builder)

def run (builder : Builder) : List Operation → Traced (List Yield × Builder)
  | [] => return ([], builder)
  | operation :: operations => do
    let first ← builder.perform operation
    let others ← first.2.run operations
    return (first.1 :: others.1, others.2)

/-! ## The nodes of an operation -/

/-- The labels of the nodes that the operation declares. -/
def Operation.labels : Operation → List String
  | declare label => [label]
  | connect _ _ _ => []
  | buildSample | emitSample _ => Sample.labels

/-- The nodes that the operation declares, those of a sample tree included. -/
def declaredBy (builder : Builder) (verbosity : Verbosity) : Operation → List Node
  | .declare label => [((builder.declare label).result verbosity).1]
  | .connect _ _ _ => []
  | .buildSample | .emitSample _ => ((builder.declareAll Sample.labels).result verbosity).1

theorem declaredBy_eq_nodes (builder : Builder) (verbosity : Verbosity) (operation : Operation) :
    builder.declaredBy verbosity operation = builder.nodes operation.labels := by
  cases operation with
  | declare label => rfl
  | connect parent child options => rfl
  | buildSample => simp only [declaredBy, result_declareAll, Operation.labels]
  | emitSample sink => simp only [declaredBy, result_declareAll, Operation.labels]

/-- The nodes that the operations of a run declare, in order. -/
def declaredIn (builder : Builder) (verbosity : Verbosity) : List Operation → List Node
  | [] => []
  | operation :: operations =>
    builder.declaredBy verbosity operation ++
      ((builder.perform operation).result verbosity).2.declaredIn verbosity operations

theorem nodes_eq_zipWith (builder : Builder) (labels : List String) :
    builder.nodes labels =
      List.zipWith Node.declare ((builder.nodes labels).map Node.id) labels := by
  induction labels generalizing builder with
  | nil => rfl
  | cons label labels inductionHypothesis =>
    rw [nodes, List.map_cons, List.zipWith_cons_cons, ← inductionHypothesis]
    rfl

/-! ## The nodes in what is handed back -/

/-- The nodes that the operation gives, and what it hands back of them. -/
inductive Operation.Gives : Operation → List Node → Yield → Prop
  | declare (id : NodeId) (label : String) :
      Gives (.declare label) [Node.declare id label] (.node (Node.declare id label))
  | connect (parent child : NodeId) (options : String) :
      Gives (.connect parent child options) []
        (.text (Edge.line { source := parent.name, target := child.name, options }))
  | buildSample {nodes : List Node} (ids : List NodeId) (five : ids.length = 5)
      (declared : nodes = List.zipWith Node.declare ids Sample.labels) :
      Gives .buildSample nodes (.text (Sample.textOf nodes))
  | emitSample {nodes : List Node} (ids : List NodeId) (five : ids.length = 5)
      (declared : nodes = List.zipWith Node.declare ids Sample.labels) (sink : Sink) :
      Gives (.emitSample sink) nodes
        (.emission (sink.deliver (Document.wrap (Sample.textOf nodes))).1
          (sink.deliver (Document.wrap (Sample.textOf nodes))).2)

/-- The nodes that operations give one after the other, and what each hands back. -/
inductive Operation.GiveAll : List Operation → List Node → List Yield → Prop
  | nil : GiveAll [] [] []
  | cons {operation : Operation} {operations : List Operation} {nodes others : List Node}
      {yield : Yield} {yields : List Yield} (first : operation.Gives nodes yield)
      (rest : GiveAll operations others yields) :
      GiveAll (operation :: operations) (nodes ++ others) (yield :: yields)

theorem gives_perform (builder : Builder) (operation : Operation) (verbosity : Verbosity) :
    operation.Gives (builder.declaredBy verbosity operation)
      ((builder.perform operation).result verbosity).1 := by
  have five : ((builder.nodes Sample.labels).map Node.id).length = 5 := by
    rw [List.length_map, length_nodes]
    rfl
  rw [declaredBy_eq_nodes]
  cases operation with
  | declare label => exact .declare builder.nextId label
  | connect parent child options => exact .connect parent child options
  | buildSample =>
    simp only [perform, Traced.result_bind, Traced.result_pure, Sample.result_build]
    exact .buildSample _ five (nodes_eq_zipWith builder Sample.labels)
  | emitSample sink =>
    simp only [perform, Traced.result_bind, Traced.result_pure, Sample.result_emit]
    exact .emitSample _ five (nodes_eq_zipWith builder Sample.labels) sink

theorem giveAll_run (builder : Builder) (operations : List Operation) (verbosity : Verbosity) :
    Operation.GiveAll operations (builder.declaredIn verbosity operations)
      ((builder.run operations).result verbosity).1 := by
  induction operations generalizing builder with
  | nil => exact .nil
  | cons operation operations inductionHypothesis =>
    simp only [run, Traced.result_bind, Traced.result_pure]
    exact .cons (builder.gives_perform operation verbosity) (inductionHypothesis _)

/-! ## The builder afterwards -/

/-- An operation moves the builder on by the nodes that it declares, whatever becomes of a
    delivery. -/
theorem builder_perform (builder : Builder) (operation : Operation) (verbosity : Verbosity) :
    ((builder.perform operation).result verbosity).2 =
      builder.advance (UInt64.ofNat operation.labels.length) := by
  cases operation with
  | declare label => rfl
  | connect parent child options => exact (advance_zero builder).symm
  | buildSample =>
    simp only [perform, Traced.result_bind, Traced.result_pure, Sample.result_build]
    rfl
  | emitSample sink =>
    simp only [perform, Traced.result_bind, Traced.result_pure, Sample.result_emit]
    rfl

theorem builder_run (builder : Builder) (operations : List Operation) (verbosity : Verbosity) :
    ((builder.run operations).result verbosity).2 =
      builder.advance (UInt64.ofNat (operations.flatMap Operation.labels).length) := by
  induction operations generalizing builder with
  | nil => exact (advance_zero builder).symm
  | cons operation operations inductionHypothesis =>
    simp only [run, Traced.result_bind, Traced.result_pure, inductionHypothesis, builder_perform,
      advance_advance, List.flatMap_cons, List.length_append, UInt64.ofNat_add]

theorem result_run_append (builder : Builder) (first second : List Operation)
    (verbosity : Verbosity) :
    (builder.run (first ++ second)).result verbosity =
      (((builder.run first).result verbosity).1 ++
          ((((builder.run first).result verbosity).2.run second).result verbosity).1,
        ((((builder.run first).result verbosity).2.run second).result verbosity).2) := by
  induction first generalizing builder with
  | nil => rfl
  | cons operation first inductionHypothesis =>
    simp only [List.cons_append, run, Traced.result_bind, Traced.result_pure, inductionHypothesis]

/-- What an operation of a run gives is what the builder gives that the operations before it left
    behind. -/
theorem getElem?_yields_run (builder : Builder) (operations : List Operation)
    (verbosity : Verbosity) (i : Nat) :
    ((builder.run operations).result verbosity).1[i]? =
      operations[i]?.map fun operation =>
        ((((builder.run (operations.take i)).result verbosity).2.perform operation).result
          verbosity).1 := by
  induction operations generalizing builder i with
  | nil => rfl
  | cons operation operations inductionHypothesis =>
    cases i with
    | zero => rfl
    | succ i =>
      simp only [run, Traced.result_bind, Traced.result_pure, List.getElem?_cons_succ,
        List.take_succ_cons]
      exact inductionHypothesis _ i

/-! ## The records of an operation -/

/-- The records of an operation, when all are kept. -/
def journalOf (builder : Builder) : Operation → List Record
  | .declare label => builder.journal [label]
  | .connect parent child options =>
    [Edge.drawn { source := parent.name, target := child.name, options }]
  | .buildSample => Sample.journal builder
  | .emitSample sink =>
    Sample.journal builder ++
      Sample.deliveryJournal (Document.wrap (Sample.text builder))
        (sink.deliver (Document.wrap (Sample.text builder))).1

theorem records_perform (builder : Builder) (operation : Operation) (verbosity : Verbosity) :
    (builder.perform operation).records verbosity =
      verbosity.kept (builder.journalOf operation) := by
  cases operation with
  | declare label =>
    simp only [perform, Traced.records_bind, Traced.records_pure, records_declare, List.append_nil,
      journalOf, journal]
  | connect parent child options =>
    simp only [perform, connect, Traced.records_bind, Traced.records_pure, Edge.records_draw,
      List.append_nil, journalOf]
  | buildSample =>
    simp only [perform, Traced.records_bind, Traced.records_pure, Sample.records_build,
      List.append_nil, journalOf]
  | emitSample sink =>
    simp only [perform, Traced.records_bind, Traced.records_pure, Sample.records_emit,
      List.append_nil, journalOf]

/-! ## Declarations in the journal -/

/-- The records of declared nodes are known by how they begin. -/
def isDeclaration (record : Record) : Bool :=
  "declared node ".toList.isPrefixOf record.message.toList

theorem isDeclaration_declared (id : NodeId) (label : String) :
    isDeclaration (declared id label) = true := by
  rw [isDeclaration, declared, List.isPrefixOf_iff_prefix]
  refine ⟨(id.name ++ " with label " ++ Text.quoted label).toList, ?_⟩
  simp only [String.toList_append, List.append_assoc]

theorem isDeclaration_of_head? {record : Record} {c : Char}
    (first : record.message.toList.head? = some c) (different : c ≠ 'd') :
    isDeclaration record = false := by
  obtain ⟨rest, same⟩ := List.head?_eq_some_iff.1 first
  rw [isDeclaration, same]
  simp [List.isPrefixOf, Ne.symm different]

theorem isDeclaration_drawn (edge : Edge) : isDeclaration edge.drawn = false :=
  isDeclaration_of_head? (c := 'r') (by simp [Edge.drawn]) (by decide)

theorem isDeclaration_built (builder : Builder) : isDeclaration (Sample.built builder) = false :=
  isDeclaration_of_head? (c := 'b') (by simp [Sample.built]) (by decide)

theorem isDeclaration_emitted (document : String) :
    isDeclaration (Sample.emitted document) = false :=
  isDeclaration_of_head? (c := 'e') (by simp [Sample.emitted]) (by decide)

theorem filter_isDeclaration_journal (builder : Builder) (labels : List String) :
    (builder.journal labels).filter isDeclaration = builder.journal labels := by
  induction labels generalizing builder with
  | nil => rfl
  | cons label labels inductionHypothesis =>
    rw [journal, List.filter_cons_of_pos (isDeclaration_declared _ _), inductionHypothesis]

theorem filter_isDeclaration_drawn (edges : List Edge) :
    (edges.map Edge.drawn).filter isDeclaration = [] := by
  rw [List.filter_eq_nil_iff]
  intro record mem
  obtain ⟨edge, -, rfl⟩ := List.mem_map.1 mem
  rw [isDeclaration_drawn]
  exact Bool.false_ne_true

theorem filter_isDeclaration_sample (builder : Builder) :
    (Sample.journal builder).filter isDeclaration = builder.journal Sample.labels := by
  rw [Sample.journal, List.filter_append, List.filter_append, filter_isDeclaration_journal,
    filter_isDeclaration_drawn, List.filter_cons_of_neg (by simp [isDeclaration_built])]
  simp

/-- Exactly the nodes that an operation declares are recorded as declared. -/
theorem filter_isDeclaration_journalOf (builder : Builder) (operation : Operation) :
    (builder.journalOf operation).filter isDeclaration = builder.journal operation.labels := by
  cases operation with
  | declare label => exact filter_isDeclaration_journal builder [label]
  | connect parent child options =>
    rw [journalOf, List.filter_cons_of_neg (by simp [isDeclaration_drawn])]
    rfl
  | buildSample => exact filter_isDeclaration_sample builder
  | emitSample sink =>
    -- A delivery leaves no declaration behind, be it a success or not.
    have silent : ∀ outcome : Except Failure Unit,
        (Sample.deliveryJournal (Document.wrap (Sample.text builder)) outcome).filter
          isDeclaration = [] := by
      intro outcome
      cases outcome with
      | error failure => rfl
      | ok _ =>
        rw [Sample.deliveryJournal, List.filter_cons_of_neg (by simp [isDeclaration_emitted])]
        rfl
    rw [journalOf, List.filter_append, filter_isDeclaration_sample, silent, List.append_nil]
    rfl

end Builder

end DotScribe
