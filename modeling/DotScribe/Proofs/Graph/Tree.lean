import Mathlib.Data.List.Nodup
import Mathlib.Logic.Relation

/-!
# Expression trees as graphs

A graph has labelled nodes and edges between them, both in the order in which they are declared.
It may be the tree of an expression: then its root reads as that expression, with the labels as
literals and operators, and with the operands in the order of the edges.

Nothing of this depends on what the nodes are called, so a tree remains one if its nodes get other
names, as long as these differ.
-/

namespace DotScribe

/-- An expression of literals and of operators with two operands. -/
inductive Expression
  | literal (text : String)
  | binary (operator : String) (left right : Expression)
deriving DecidableEq

/-- A graph over the names `ν`. -/
structure Graph (ν : Type) where
  nodes : List (ν × String)
  edges : List (ν × ν)
deriving DecidableEq

namespace Graph

variable {ν μ : Type}

def names (graph : Graph ν) : List ν :=
  graph.nodes.map Prod.fst

/-- The names of the nodes that carry a label. -/
def labelled (graph : Graph ν) (label : String) : List ν :=
  (graph.nodes.filter fun node => node.2 = label).map Prod.fst

/-- One edge follows another down to the name. -/
def Reaches (graph : Graph ν) : ν → ν → Prop :=
  Relation.ReflTransGen fun parent child => (parent, child) ∈ graph.edges

section Lookup

variable [DecidableEq ν]

def label? (graph : Graph ν) (name : ν) : Option String :=
  (graph.nodes.find? fun node => node.1 = name).map Prod.snd

/-- Where the edges from a name lead, in the order of the edges. -/
def children (graph : Graph ν) (name : ν) : List ν :=
  (graph.edges.filter fun edge => edge.1 = name).map Prod.snd

/-- Where the edges to a name come from. A repeated edge counts as often as it stands there. -/
def parents (graph : Graph ν) (name : ν) : List ν :=
  (graph.edges.filter fun edge => edge.2 = name).map Prod.fst

/-- What a name reads as, if every node is replaced by its label and its children. -/
inductive Denotes (graph : Graph ν) : ν → Expression → Prop
  | literal {name : ν} {text : String} (label : graph.label? name = some text)
      (childless : graph.children name = []) : Denotes graph name (.literal text)
  | binary {name first second : ν} {operator : String} {left right : Expression}
      (label : graph.label? name = some operator)
      (operands : graph.children name = [first, second])
      (leftmost : Denotes graph first left) (rightmost : Denotes graph second right) :
      Denotes graph name (.binary operator left right)

/-- The graph is a tree with the given root, and the root reads as the expression and as no
    other. -/
structure IsTree (graph : Graph ν) (root : ν) (expression : Expression) : Prop where
  declared : ∀ edge ∈ graph.edges, edge.1 ∈ graph.names ∧ edge.2 ∈ graph.names
  orphan : graph.parents root = []
  child : ∀ name ∈ graph.names, name ≠ root → (graph.parents name).length = 1
  reaches : ∀ name ∈ graph.names, graph.Reaches root name
  denotes : ∀ other, graph.Denotes root other ↔ other = expression

/-- A name reads as one expression at most. -/
theorem Denotes.unique {graph : Graph ν} {name : ν} {one other : Expression}
    (first : graph.Denotes name one) (second : graph.Denotes name other) : one = other := by
  -- The children decide the form of what is read, and the label its text.
  induction first generalizing other with
  | literal label childless =>
    cases second with
    | literal label' _ =>
      rw [label] at label'
      rw [Option.some.inj label']
    | binary _ operands _ _ =>
      rw [childless] at operands
      cases operands
  | binary label operands _ _ leftHypothesis rightHypothesis =>
    cases second with
    | literal _ childless =>
      rw [operands] at childless
      cases childless
    | binary label' operands' leftmost rightmost =>
      rw [label] at label'
      rw [operands] at operands'
      cases label'
      cases operands'
      rw [leftHypothesis leftmost, rightHypothesis rightmost]

theorem Denotes.iff_eq {graph : Graph ν} {name : ν} {expression : Expression}
    (reads : graph.Denotes name expression) (other : Expression) :
    graph.Denotes name other ↔ other = expression := by
  constructor
  · intro another
    exact another.unique reads
  · rintro rfl
    exact reads

end Lookup

/-! ## Several graphs -/

/-- Graphs without a common name have no common edge. -/
theorem nodup_flatMap_edges {graphs : List (Graph ν)} (apart : (graphs.flatMap names).Nodup)
    (declared : ∀ graph ∈ graphs, ∀ edge ∈ graph.edges, edge.1 ∈ graph.names)
    (once : ∀ graph ∈ graphs, graph.edges.Nodup) : (graphs.flatMap edges).Nodup := by
  rw [List.nodup_flatMap] at apart ⊢
  refine ⟨once, apart.2.imp_of_mem ?_⟩
  intro first second inFirst inSecond disjoint edge ofFirst ofSecond
  exact disjoint (declared first inFirst edge ofFirst) (declared second inSecond edge ofSecond)

/-! ## Other names -/

def rename (graph : Graph ν) (f : ν → μ) : Graph μ :=
  { nodes := graph.nodes.map (Prod.map f id), edges := graph.edges.map (Prod.map f f) }

theorem names_rename (graph : Graph ν) (f : ν → μ) : (graph.rename f).names = graph.names.map f := by
  simp only [names, rename, List.map_map]
  rfl

theorem labelled_rename (graph : Graph ν) (f : ν → μ) (label : String) :
    (graph.rename f).labelled label = (graph.labelled label).map f := by
  simp only [labelled, rename, List.filter_map, List.map_map]
  rfl

theorem Reaches.rename {graph : Graph ν} {first second : ν} (reaches : graph.Reaches first second)
    (f : ν → μ) : (graph.rename f).Reaches (f first) (f second) := by
  induction reaches with
  | refl => exact .refl
  | tail _ edge inductionHypothesis => exact inductionHypothesis.tail (List.mem_map_of_mem edge)

section Injective

variable [DecidableEq ν] [DecidableEq μ] {f : ν → μ} (injective : Function.Injective f)

include injective

theorem label?_rename (graph : Graph ν) (name : ν) :
    (graph.rename f).label? (f name) = graph.label? name := by
  simp only [label?, rename, List.find?_map, Option.map_map, Function.comp_def, Prod.map_fst,
    injective.eq_iff]
  rfl

theorem children_rename (graph : Graph ν) (name : ν) :
    (graph.rename f).children (f name) = (graph.children name).map f := by
  simp only [children, rename, List.filter_map, List.map_map, Function.comp_def, Prod.map_fst,
    Prod.map_snd, injective.eq_iff]

theorem parents_rename (graph : Graph ν) (name : ν) :
    (graph.rename f).parents (f name) = (graph.parents name).map f := by
  simp only [parents, rename, List.filter_map, List.map_map, Function.comp_def, Prod.map_fst,
    Prod.map_snd, injective.eq_iff]

theorem Denotes.rename {graph : Graph ν} {name : ν} {expression : Expression}
    (reads : graph.Denotes name expression) :
    (graph.rename f).Denotes (f name) expression := by
  induction reads with
  | literal label childless =>
    refine .literal ?_ ?_
    · rw [label?_rename injective, label]
    · rw [children_rename injective, childless, List.map_nil]
  | binary label operands _ _ leftmost rightmost =>
    refine .binary ?_ ?_ leftmost rightmost
    · rw [label?_rename injective, label]
    · rw [children_rename injective, operands, List.map_cons, List.map_cons, List.map_nil]

/-- Different names in place of different names leave a tree a tree. -/
theorem IsTree.rename {graph : Graph ν} {root : ν} {expression : Expression}
    (tree : graph.IsTree root expression) : (graph.rename f).IsTree (f root) expression where
  -- Every name of the renamed graph stands for one of the graph, so each fact is about that one.
  declared := by
    intro renamed mem
    obtain ⟨edge, inGraph, rfl⟩ := List.mem_map.1 mem
    obtain ⟨source, target⟩ := tree.declared edge inGraph
    rw [names_rename]
    exact ⟨List.mem_map_of_mem source, List.mem_map_of_mem target⟩
  orphan := by rw [parents_rename injective, tree.orphan, List.map_nil]
  child := by
    intro renamed mem other
    rw [names_rename] at mem
    obtain ⟨name, inGraph, rfl⟩ := List.mem_map.1 mem
    have noRoot : name ≠ root := fun same => other (congrArg f same)
    rw [parents_rename injective, List.length_map]
    exact tree.child name inGraph noRoot
  reaches := by
    intro renamed mem
    rw [names_rename] at mem
    obtain ⟨name, inGraph, rfl⟩ := List.mem_map.1 mem
    exact (tree.reaches name inGraph).rename f
  denotes := (((tree.denotes expression).2 rfl).rename injective).iff_eq

end Injective

end Graph

end DotScribe
