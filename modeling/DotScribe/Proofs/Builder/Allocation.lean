import DotScribe.Proofs.Builder.Operation
import DotScribe.Proofs.Node.Numeral
import Mathlib.Algebra.Group.Nat.Defs
import Mathlib.Data.List.Nodup

/-!
# What a run of a builder allocates

A run declares the nodes that its labels would get if they were declared one by one, so a node is
known by its place in the run: the counter at its turn is the number of the nodes before it.
-/

namespace DotScribe.Builder

/-! ## Labels one by one -/

theorem nodes_append (builder : Builder) (first second : List String) :
    builder.nodes (first ++ second) =
      builder.nodes first ++ (builder.advance (UInt64.ofNat first.length)).nodes second := by
  induction first generalizing builder with
  | nil => simp [nodes]
  | cons label first inductionHypothesis =>
    simp only [List.cons_append, nodes, inductionHypothesis, advance_advance, List.length_cons,
      UInt64.ofNat_add, UInt64.add_comm (UInt64.ofNat first.length)]
    rfl

theorem journal_eq_zipWith (builder : Builder) (labels : List String) :
    builder.journal labels =
      List.zipWith (fun node label => declared node.id label) (builder.nodes labels) labels := by
  induction labels generalizing builder with
  | nil => rfl
  | cons label labels inductionHypothesis =>
    rw [journal, nodes, List.zipWith_cons_cons, ← inductionHypothesis]
    rfl

theorem journal_append (builder : Builder) (first second : List String) :
    builder.journal (first ++ second) =
      builder.journal first ++ (builder.advance (UInt64.ofNat first.length)).journal second := by
  simp only [journal_eq_zipWith]
  rw [nodes_append, List.zipWith_append (length_nodes builder first)]

theorem getElem?_nodes (builder : Builder) (labels : List String) (k : Nat) :
    (builder.nodes labels)[k]? =
      labels[k]?.map (Node.declare (builder.idAfter (UInt64.ofNat k))) := by
  induction labels generalizing builder k with
  | nil => rfl
  | cons label labels inductionHypothesis =>
    cases k with
    | zero =>
      simp only [nodes, List.getElem?_cons_zero, Option.map_some]
      rw [← idAfter_zero]
      rfl
    | succ k =>
      have shifted : (builder.advance 1).idAfter (UInt64.ofNat k) =
          builder.idAfter (UInt64.ofNat (k + 1)) := by
        simp only [idAfter, stem_advance, counter_advance, UInt64.ofNat_add, UInt64.add_assoc,
          UInt64.add_comm (UInt64.ofNat k)]
        rfl
      rw [nodes, List.getElem?_cons_succ, List.getElem?_cons_succ, inductionHypothesis, shifted]

/-- One stem, so equal names have equal numbers, and the places are the numbers below the word. -/
theorem eq_of_name_idAfter_eq {builder : Builder} {i j : Nat} (first : i < 2 ^ 64)
    (second : j < 2 ^ 64)
    (same : (builder.idAfter (UInt64.ofNat i)).name = (builder.idAfter (UInt64.ofNat j)).name) :
    i = j := by
  have numbers := UInt64.add_right_inj _ |>.1 (NodeId.index_eq_of_name_eq same)
  have values := congrArg UInt64.toNat numbers
  rw [UInt64.toNat_ofNat', UInt64.toNat_ofNat', Nat.mod_eq_of_lt first,
    Nat.mod_eq_of_lt second] at values
  exact values

/-- As long as the counter does not come back to a number, no name comes back. -/
theorem nodup_names_nodes (builder : Builder) (labels : List String)
    (few : labels.length ≤ 2 ^ 64) :
    ((builder.nodes labels).map fun node => node.id.name).Nodup := by
  rw [List.nodup_iff_getElem?_ne_getElem?]
  intro i j before inside same
  rw [List.length_map, length_nodes] at inside
  simp only [List.getElem?_map, getElem?_nodes, List.getElem?_eq_getElem inside,
    List.getElem?_eq_getElem (Nat.lt_trans before inside), Option.map_some, Option.some.injEq,
    Node.id_declare] at same
  have places : i = j := eq_of_name_idAfter_eq (by omega) (by omega) same
  omega

/-! ## Runs -/

theorem declaredIn_eq_nodes (builder : Builder) (verbosity : Verbosity)
    (operations : List Operation) :
    builder.declaredIn verbosity operations =
      builder.nodes (operations.flatMap Operation.labels) := by
  induction operations generalizing builder with
  | nil => rfl
  | cons operation operations inductionHypothesis =>
    rw [declaredIn, declaredBy_eq_nodes, builder_perform, inductionHypothesis, List.flatMap_cons,
      nodes_append]

theorem filter_isDeclaration_run (builder : Builder) (operations : List Operation) :
    ((builder.run operations).records (.upTo .trace)).filter isDeclaration =
      builder.journal (operations.flatMap Operation.labels) := by
  induction operations generalizing builder with
  | nil => rfl
  | cons operation operations inductionHypothesis =>
    simp only [run, Traced.records_bind, Traced.records_pure, List.append_nil, List.filter_append,
      inductionHypothesis, builder_perform, records_perform, Verbosity.kept_trace,
      filter_isDeclaration_journalOf, List.flatMap_cons, journal_append]

/-! ## The count of a run -/

namespace Operation

def isDeclare : Operation → Bool
  | declare _ => true
  | connect _ _ _ | buildSample | emitSample _ => false

/-- Whether the operation makes a sample tree, be it delivered or not. -/
def makesSample : Operation → Bool
  | buildSample | emitSample _ => true
  | declare _ | connect _ _ _ => false

/-- One node for a declaration, and five for a sample tree. -/
def allocations (operations : List Operation) : Nat :=
  operations.countP isDeclare + 5 * operations.countP makesSample

theorem length_flatMap_labels (operations : List Operation) :
    (operations.flatMap labels).length = allocations operations := by
  induction operations with
  | nil => rfl
  | cons operation operations inductionHypothesis =>
    rw [List.flatMap_cons, List.length_append, inductionHypothesis]
    simp only [allocations, List.countP_cons]
    cases operation with
    | declare label => simp [labels, isDeclare, makesSample]; omega
    | connect parent child options => simp [labels, isDeclare, makesSample]
    | buildSample => simp [labels, isDeclare, makesSample, Sample.labels]; omega
    | emitSample sink => simp [labels, isDeclare, makesSample, Sample.labels]; omega

theorem allocations_append (first second : List Operation) :
    allocations (first ++ second) = allocations first + allocations second := by
  rw [← length_flatMap_labels, List.flatMap_append, List.length_append, length_flatMap_labels,
    length_flatMap_labels]

end Operation

/-- The counter of a builder that starts at zero counts the nodes of the run, the nodes carry the
    numbers from zero on, and their names are pairwise different. The nodes meant are those that
    the journal tells of, and those that stand in what the operations hand back. -/
theorem run_allocates (stem : String) (operations : List Operation) (verbosity : Verbosity)
    (few : Operation.allocations operations < 2 ^ 64) :
    (((ofStem stem).run operations).result verbosity).2.counter.toNat =
        operations.countP Operation.isDeclare + 5 * operations.countP Operation.makesSample ∧
      ((ofStem stem).declaredIn verbosity operations).length =
        operations.countP Operation.isDeclare + 5 * operations.countP Operation.makesSample ∧
      (∀ k node, ((ofStem stem).declaredIn verbosity operations)[k]? = some node →
        node.id.index.toNat = k ∧ node.id.name = stem ++ Nat.repr k) ∧
      (((ofStem stem).declaredIn verbosity operations).map fun node => node.id.name).Nodup ∧
      (((ofStem stem).run operations).records (.upTo .trace)).filter isDeclaration =
        List.zipWith (fun node label => declared node.id label)
          ((ofStem stem).declaredIn verbosity operations)
          (operations.flatMap Operation.labels) ∧
      Operation.GiveAll operations ((ofStem stem).declaredIn verbosity operations)
        (((ofStem stem).run operations).result verbosity).1 := by
  have yields := (ofStem stem).giveAll_run operations verbosity
  -- Everything but the journal is a fact about the nodes of the labels of the whole run.
  have total := Operation.length_flatMap_labels operations
  rw [declaredIn_eq_nodes] at yields ⊢
  refine ⟨?counter, ?length, ?places, ?names, ?journal, yields⟩
  case counter =>
    rw [builder_run, total, counter_advance]
    simp only [ofStem, UInt64.zero_add, UInt64.toNat_ofNat']
    exact Nat.mod_eq_of_lt few
  case length => rw [length_nodes, total, Operation.allocations]
  case places =>
    intro k node found
    rw [getElem?_nodes] at found
    obtain ⟨label, labelled, rfl⟩ := Option.map_eq_some_iff.1 found
    have inside : k < 2 ^ 64 := by
      have bound := (List.getElem?_eq_some_iff.1 labelled).1
      omega
    have index : (UInt64.ofNat k).toNat = k := by
      rw [UInt64.toNat_ofNat', Nat.mod_eq_of_lt inside]
    simp only [Node.id_declare, idAfter, ofStem, UInt64.zero_add, NodeId.index_ofIndex,
      NodeId.name_ofIndex, NodeId.numeral, index]
    exact ⟨trivial, trivial⟩
  case names => exact nodup_names_nodes _ _ (by omega)
  case journal => rw [filter_isDeclaration_run, journal_eq_zipWith]

/-- A run in which the second of three operations that allocate cannot deliver its document. -/
def interruptedRun : List Operation :=
  [.declare "a\"b", .emitSample (Sink.broken .brokenPipe), .connect (NodeId.ofIndex "x1" 0)
    (NodeId.ofIndex "x1" 3) "", .buildSample, .declare ""]

theorem run_allocates_interrupted :
    Operation.allocations interruptedRun < 2 ^ 64 ∧
      (((ofStem "x1").run interruptedRun).result .off).2.counter.toNat = 12 ∧
      (((ofStem "x1").declaredIn .off interruptedRun).map fun node => node.id.name).Nodup := by
  have few : Operation.allocations interruptedRun < 2 ^ 64 := by decide
  obtain ⟨counter, -, -, names, -, -⟩ := run_allocates "x1" interruptedRun .off few
  exact ⟨few, counter, names⟩

end DotScribe.Builder
