import DotScribe.Proofs.Builder.Allocation
import DotScribe.Proofs.Document.Lines
import DotScribe.Proofs.Graph.Tree
import Mathlib.Data.Prod.Basic

/-!
# Sample trees one after the other

The trees that a builder makes one after the other are so many copies of the expression
(1 - 2) + 3, and they share no node. This is read off the text alone: the body is cut into its
lines, each line is read by itself, and what the lines say is a forest.

The tree over the positions of its nodes is `shape`. A builder gives the positions different names,
so each of its trees is `shape` with other names.
-/

namespace DotScribe

/-- The statements that declare a graph: its nodes, and after them its edges. -/
def Graph.statements (graph : Graph String) : List Statement :=
  graph.nodes.map (fun node => .node node.1 node.2) ++
    graph.edges.map fun edge => .edge (Edge.plain edge.1 edge.2)

namespace Builder

theorem nodes_eq_mapIdx (builder : Builder) (labels : List String) :
    builder.nodes labels =
      labels.mapIdx fun k label => Node.declare (builder.idAfter (UInt64.ofNat k)) label := by
  apply List.ext_getElem?
  intro k
  rw [getElem?_nodes, List.getElem?_mapIdx]

theorem isPlainName_of_mem_nodes {builder : Builder} (plain : Document.IsPlainName builder.stem)
    {labels : List String} {node : Node} (mem : node ∈ builder.nodes labels) :
    Document.IsPlainName node.id.name := by
  rw [nodes_eq_mapIdx] at mem
  obtain ⟨k, inside, rfl⟩ := List.mem_mapIdx.1 mem
  exact plain.ofIndex _

end Builder

namespace Document.Item

/-- The declarations of labels, one after the other. -/
def declarations (builder : Builder) : List String → List Item
  | [] => []
  | label :: labels => .declared builder label :: declarations (builder.advance 1) labels

/-- Labels that no substitution touches are declared as they are. -/
theorem fragment_declarations {builder : Builder} {labels : List String}
    (untouched : ∀ label ∈ labels, Label.escape label = label) (verbosity : Verbosity) :
    (declarations builder labels).map (fun item => item.fragment.result verbosity) =
      (builder.nodes labels).map Node.declaration := by
  induction labels generalizing builder with
  | nil => rfl
  | cons label labels inductionHypothesis =>
    obtain ⟨first, others⟩ := List.forall_mem_cons.1 untouched
    rw [declarations, List.map_cons, inductionHypothesis others, Builder.nodes, List.map_cons,
      fragment, Traced.result_bind, Builder.result_declare, Traced.result_pure, first]

theorem statement_declarations {builder : Builder} {labels : List String}
    (noReturn : ∀ label ∈ labels, Label.withoutReturns label.toList = label.toList) :
    (declarations builder labels).map statement =
      List.zipWith (fun node label => .node node.id.name label) (builder.nodes labels) labels := by
  induction labels generalizing builder with
  | nil => rfl
  | cons label labels inductionHypothesis =>
    obtain ⟨first, others⟩ := List.forall_mem_cons.1 noReturn
    rw [declarations, List.map_cons, inductionHypothesis others, Builder.nodes,
      List.zipWith_cons_cons, statement, first, String.ofList_toList]
    rfl

theorem isReadable_declarations {builder : Builder} (plain : IsPlainName builder.stem)
    {labels : List String} : ∀ item ∈ declarations builder labels, item.IsReadable := by
  induction labels generalizing builder with
  | nil =>
    intro item mem
    cases mem
  | cons label labels inductionHypothesis =>
    rw [declarations, List.forall_mem_cons]
    exact ⟨plain, inductionHypothesis plain⟩

end Document.Item

namespace Sample

/-! ## The tree over its positions -/

/-- The expression (1 - 2) + 3. -/
def expression : Expression :=
  .binary "+" (.binary "-" (.literal "1") (.literal "2")) (.literal "3")

/-- The tree with the positions of its nodes for names. -/
def shape : Graph (Fin 5) :=
  { nodes := (List.finRange 5).zip labels
    edges := arcs.map fun arc => (Fin.ofNat 5 arc.1, Fin.ofNat 5 arc.2) }

theorem shape_isTree : shape.IsTree 1 expression where
  declared := by decide
  orphan := by decide
  child := by decide
  reaches := by
    -- From the plus to the minus and to 3, and from the minus on to 1 and to 2.
    have toMinus : shape.Reaches 1 0 := .single (by decide)
    have toThree : shape.Reaches 1 4 := .single (by decide)
    have toOne : shape.Reaches 1 2 := toMinus.tail (by decide)
    have toTwo : shape.Reaches 1 3 := toMinus.tail (by decide)
    intro position _
    match position with
    | 0 => exact toMinus
    | 1 => exact .refl
    | 2 => exact toOne
    | 3 => exact toTwo
    | 4 => exact toThree
  denotes := by
    have one : shape.Denotes 2 (.literal "1") := .literal (by decide) (by decide)
    have two : shape.Denotes 3 (.literal "2") := .literal (by decide) (by decide)
    have three : shape.Denotes 4 (.literal "3") := .literal (by decide) (by decide)
    have minus : shape.Denotes 0 (.binary "-" (.literal "1") (.literal "2")) :=
      .binary (by decide) (by decide) one two
    have plus : shape.Denotes 1 expression := .binary (by decide) (by decide) minus three
    exact plus.iff_eq

/-! ## One tree of a builder -/

/-- The graph that the lines of a tree declare. -/
def tree (builder : Builder) : Graph String :=
  { nodes := List.zipWith (fun node label => (node.id.name, label)) (builder.nodes labels) labels
    edges := (edges (builder.nodes labels)).map fun edge => (edge.source, edge.target) }

/-- The name that a builder gives to a position of the tree. -/
def nameAt (builder : Builder) (position : Fin 5) : String :=
  (builder.idAfter (UInt64.ofNat position)).name

theorem nameAt_injective (builder : Builder) : Function.Injective (nameAt builder) := by
  intro first second same
  exact Fin.ext (Builder.eq_of_name_idAfter_eq (by omega) (by omega) same)

theorem tree_eq_rename (builder : Builder) : tree builder = shape.rename (nameAt builder) := by
  -- With the positions written out, both sides are the same five names and four pairs of them.
  rw [tree, Builder.nodes_eq_mapIdx]
  rfl

theorem tree_isTree (builder : Builder) :
    ∃ root, (tree builder).labelled "+" = [root] ∧ (tree builder).IsTree root expression := by
  have plus : shape.labelled "+" = [1] := by decide
  refine ⟨nameAt builder 1, ?_, ?_⟩
  · rw [tree_eq_rename, Graph.labelled_rename, plus, List.map_cons, List.map_nil]
  · rw [tree_eq_rename]
    exact shape_isTree.rename (nameAt_injective builder)

theorem names_tree (builder : Builder) :
    (tree builder).names = (builder.nodes labels).map fun node => node.id.name := by
  rw [tree, Builder.nodes_eq_mapIdx]
  rfl

theorem nodup_edges_tree (builder : Builder) : (tree builder).edges.Nodup := by
  rw [tree_eq_rename]
  have apart : shape.edges.Nodup := by decide
  exact apart.map (Function.Injective.prodMap (nameAt_injective builder) (nameAt_injective builder))

/-! ## The text of a tree -/

/-- Every edge of a tree is drawn without options between the names of two of its nodes. -/
theorem exists_of_mem_edges {nodes : List Node} {edge : Edge} (mem : edge ∈ edges nodes) :
    ∃ parent ∈ nodes, ∃ child ∈ nodes, edge = Edge.plain parent.id.name child.id.name := by
  obtain ⟨arc, -, drawn⟩ := List.mem_filterMap.1 mem
  simp only [edge?, Option.bind_eq_bind, Option.bind_eq_some_iff] at drawn
  obtain ⟨parent, isParent, child, isChild, same⟩ := drawn
  cases same
  exact ⟨parent, List.mem_of_getElem? isParent, child, List.mem_of_getElem? isChild, rfl⟩

/-- What the text of a tree is put together from. -/
def items (builder : Builder) : List Document.Item :=
  Document.Item.declarations builder labels ++
    (edges (builder.nodes labels)).map Document.Item.drawn

theorem length_items (builder : Builder) : (items builder).length = 9 := rfl

theorem escape_of_mem_labels : ∀ label ∈ labels, Label.escape label = label := by decide

theorem withoutReturns_of_mem_labels :
    ∀ label ∈ labels, Label.withoutReturns label.toList = label.toList := by decide

theorem text_eq_join_items (builder : Builder) (verbosity : Verbosity) :
    text builder =
      String.join ((items builder).map fun item => item.fragment.result verbosity) := by
  rw [items, List.map_append, Document.Item.fragment_declarations escape_of_mem_labels,
    List.map_map]
  rfl

theorem statement_items (builder : Builder) :
    (items builder).map Document.Item.statement = (tree builder).statements := by
  have drawn : (edges (builder.nodes labels)).map (Document.Item.statement ∘ Document.Item.drawn) =
      (edges (builder.nodes labels)).map
        ((fun edge => Statement.edge (Edge.plain edge.1 edge.2)) ∘
          fun edge => (edge.source, edge.target)) := by
    apply List.map_congr_left
    intro edge mem
    obtain ⟨parent, -, child, -, rfl⟩ := exists_of_mem_edges mem
    rfl
  rw [items, List.map_append, Document.Item.statement_declarations withoutReturns_of_mem_labels,
    Graph.statements, tree, List.map_map, List.map_map, drawn, List.map_zipWith]

theorem isReadable_items {builder : Builder} (plain : Document.IsPlainName builder.stem) :
    ∀ item ∈ items builder, item.IsReadable := by
  intro item mem
  rw [items, List.mem_append] at mem
  cases mem with
  | inl declaration => exact Document.Item.isReadable_declarations plain item declaration
  | inr line =>
    obtain ⟨edge, drawn, rfl⟩ := List.mem_map.1 line
    obtain ⟨parent, isParent, child, isChild, rfl⟩ := exists_of_mem_edges drawn
    have noOptions : Document.IsOptions "" := by decide
    exact ⟨Builder.isPlainName_of_mem_nodes plain isParent,
      Builder.isPlainName_of_mem_nodes plain isChild, noOptions⟩

/-! ## Trees one after the other -/

/-- Makes the tree as often as told, and joins the bodies. -/
def buildTimes (builder : Builder) : (times : Nat) → Traced (String × Builder)
  | 0 => return ("", builder)
  | times + 1 => do
    let first ← build builder
    let others ← buildTimes first.2 times
    return (first.1 ++ others.1, others.2)

/-- The builder at the beginning of each tree. -/
def starts (builder : Builder) : (times : Nat) → List Builder
  | 0 => []
  | times + 1 => builder :: starts (builder.advance 5) times

theorem length_starts (builder : Builder) (times : Nat) : (starts builder times).length = times := by
  induction times generalizing builder with
  | zero => rfl
  | succ times inductionHypothesis => rw [starts, List.length_cons, inductionHypothesis]

theorem stem_of_mem_starts {builder start : Builder} {times : Nat}
    (mem : start ∈ starts builder times) : start.stem = builder.stem := by
  induction times generalizing builder with
  | zero => cases mem
  | succ times inductionHypothesis =>
    rw [starts, List.mem_cons] at mem
    cases mem with
    | inl first => rw [first]
    | inr later => rw [inductionHypothesis later, Builder.stem_advance]

theorem text_buildTimes (builder : Builder) (times : Nat) (verbosity : Verbosity) :
    ((buildTimes builder times).result verbosity).1 =
      String.join ((starts builder times).map text) := by
  induction times generalizing builder with
  | zero => rfl
  | succ times inductionHypothesis =>
    simp only [buildTimes, starts, Traced.result_bind, Traced.result_pure, result_build,
      inductionHypothesis, List.map_cons, String.join_cons]

/-- The trees get the nodes that their labels would get in one sequence. -/
theorem flatMap_nodes_starts (builder : Builder) (times : Nat) :
    (starts builder times).flatMap (fun start => start.nodes labels) =
      builder.nodes (List.replicate times labels).flatten := by
  induction times generalizing builder with
  | zero => rfl
  | succ times inductionHypothesis =>
    rw [starts, List.flatMap_cons, inductionHypothesis, List.replicate_succ, List.flatten_cons,
      Builder.nodes_append, ofNat_length_labels]

theorem nodup_flatMap_names {builder : Builder} {times : Nat} (few : 5 * times ≤ 2 ^ 64) :
    (((starts builder times).map tree).flatMap Graph.names).Nodup := by
  have names : ((starts builder times).map tree).flatMap Graph.names =
      (builder.nodes (List.replicate times labels).flatten).map fun node => node.id.name := by
    rw [List.flatMap_map, ← flatMap_nodes_starts, List.map_flatMap]
    simp only [names_tree]
  have length : (List.replicate times labels).flatten.length = 5 * times := by
    simp [labels, Nat.mul_comm]
  rw [names]
  apply Builder.nodup_names_nodes
  rw [length]
  exact few

/-- What the bodies of the trees are put together from. -/
def parts (builder : Builder) (times : Nat) : List Document.Item :=
  (starts builder times).flatMap items

theorem length_parts (builder : Builder) (times : Nat) : (parts builder times).length = 9 * times := by
  simp only [parts, List.length_flatMap, length_items, List.map_const', List.sum_replicate_nat,
    length_starts]
  exact Nat.mul_comm times 9

theorem isReadable_parts {builder : Builder} (plain : Document.IsPlainName builder.stem)
    (times : Nat) : ∀ item ∈ parts builder times, item.IsReadable := by
  intro item mem
  obtain ⟨start, isStart, inTree⟩ := List.mem_flatMap.1 mem
  rw [← stem_of_mem_starts isStart] at plain
  exact isReadable_items plain item inTree

theorem body_eq_flatMap_parts (builder : Builder) (times : Nat) (verbosity : Verbosity) :
    ((buildTimes builder times).result verbosity).1.toList =
      (parts builder times).flatMap fun item => (item.fragment.result verbosity).toList := by
  simp only [parts, text_buildTimes, text_eq_join_items _ verbosity, String.toList_join,
    List.flatMap_map, List.flatMap_assoc]

theorem statement_parts (builder : Builder) (times : Nat) :
    (parts builder times).map Document.Item.statement =
      ((starts builder times).map tree).flatMap Graph.statements := by
  simp only [parts, List.map_flatMap, List.flatMap_map, statement_items]

/-! ## The forest -/

/-- A graph with five nodes and four edges that is the tree of the expression, with the node that
    is labelled by a plus as its root. -/
structure IsCopy (graph : Graph String) : Prop where
  nodes : graph.nodes.length = 5
  edges : graph.edges.length = 4
  tree : ∃ root, graph.labelled "+" = [root] ∧ graph.IsTree root expression

/-- The body declares so many copies of the expression, one after the other and without a common
    node. It says so if it is cut into lines and also if it is wrapped into a document. -/
structure IsForest (body : String) (times : Nat) (forest : List (Graph String)) : Prop where
  lines : ∃ lines, Text.fields '\n' body.toList = lines ++ [[]] ∧ lines.length = 9 * times ∧
    lines.map Document.readLine? = (forest.flatMap Graph.statements).map some
  document : Document.read? (Document.wrap body) = some (forest.flatMap Graph.statements)
  length : forest.length = times
  copies : ∀ graph ∈ forest, IsCopy graph
  names : (forest.flatMap Graph.names).Nodup
  edges : (forest.flatMap Graph.edges).Nodup

theorem tree_isCopy (builder : Builder) : IsCopy (tree builder) where
  nodes := by
    rw [tree_eq_rename]
    rfl
  edges := by
    rw [tree_eq_rename]
    rfl
  tree := tree_isTree builder

/-- The bodies that a builder makes one after the other declare as many copies of the expression,
    and these have neither a name nor an edge in common. -/
theorem buildTimes_plants_forest {builder : Builder} (plain : Document.IsPlainName builder.stem)
    (times : Nat) (room : builder.counter.toNat + 5 * times < 2 ^ 64) (verbosity : Verbosity) :
    ∃ forest, IsForest ((buildTimes builder times).result verbosity).1 times forest := by
  have readable := isReadable_parts plain times
  refine ⟨(starts builder times).map tree, ?lines, ?document, ?length, ?copies, ?names, ?edges⟩
  case lines =>
    refine ⟨(parts builder times).map Document.Item.line, ?_, ?_, ?_⟩
    · rw [body_eq_flatMap_parts]
      exact Document.fields_fragments verbosity _ readable
    · rw [List.length_map, length_parts]
    · rw [← statement_parts, List.map_map, List.map_map]
      apply List.map_congr_left
      intro item mem
      exact Document.Item.readLine?_line (readable item mem)
  case document =>
    rw [Document.read?, Document.body?_wrap, Option.bind_some, body_eq_flatMap_parts,
      ← statement_parts]
    exact Document.readStatements?_fragments verbosity _ readable
  case length => rw [List.length_map, length_starts]
  case copies =>
    intro graph mem
    obtain ⟨start, -, rfl⟩ := List.mem_map.1 mem
    exact tree_isCopy start
  case names => exact nodup_flatMap_names (by omega)
  case edges =>
    apply Graph.nodup_flatMap_edges (nodup_flatMap_names (by omega))
    · intro graph mem edge drawn
      obtain ⟨start, -, rfl⟩ := List.mem_map.1 mem
      obtain ⟨root, -, isTree⟩ := tree_isTree start
      exact (isTree.declared edge drawn).1
    · intro graph mem
      obtain ⟨start, -, rfl⟩ := List.mem_map.1 mem
      exact nodup_edges_tree start

/-- Two trees, with a number that gains a digit in the middle of the first one. -/
theorem buildTimes_plants_forest_gaining_digit :
    Document.IsPlainName "_a0" ∧ 8 + 5 * 2 < 2 ^ 64 ∧
      ∃ forest, IsForest
        ("_a08 [label=\"-\",shape=circle]\n_a09 [label=\"+\",shape=circle]\n"
          ++ "_a010 [label=\"1\",shape=circle]\n_a011 [label=\"2\",shape=circle]\n"
          ++ "_a012 [label=\"3\",shape=circle]\n"
          ++ "_a08 -> _a010\n_a08 -> _a011\n_a09 -> _a08\n_a09 -> _a012\n"
          ++ "_a013 [label=\"-\",shape=circle]\n_a014 [label=\"+\",shape=circle]\n"
          ++ "_a015 [label=\"1\",shape=circle]\n_a016 [label=\"2\",shape=circle]\n"
          ++ "_a017 [label=\"3\",shape=circle]\n"
          ++ "_a013 -> _a015\n_a013 -> _a016\n_a014 -> _a013\n_a014 -> _a017\n") 2 forest := by
  have plain : Document.IsPlainName "_a0" := by decide
  have room : (8 : UInt64).toNat + 5 * 2 < 2 ^ 64 := by decide
  obtain ⟨forest, planted⟩ :=
    @buildTimes_plants_forest { stem := "_a0", counter := 8 } plain 2 room .off
  refine ⟨plain, room, forest, ?_⟩
  convert planted using 1
  decide +kernel

end Sample

end DotScribe
