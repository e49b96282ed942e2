import DotScribe.Edge
import DotScribe.Node

/-!
# Builders

A builder hands out identifiers: its stem followed by a number that starts at zero and grows by
one with every node. Builders share nothing, so what one of them does never shows in another.

* `Builder.declare` declares the next node and records it, and `Builder.declareAll` does so for
  several labels.
* `Builder.nodes` and `Builder.journal` say which nodes and which records that gives.
* `Builder.connect` draws an edge between two identifiers.
* `Builder.describe` is the structured text.
-/

namespace DotScribe

/-- A source of identifiers: the stem of their names, and the number of the next one. The number
    is a machine word and starts again at zero after the last word. -/
structure Builder where
  stem : String
  counter : UInt64
deriving DecidableEq

namespace Builder

def defaultStem : String := "x"

/-- A builder with the given stem that has handed out nothing yet. -/
def ofStem (stem : String) : Builder :=
  { stem, counter := 0 }

def fresh : Builder :=
  ofStem defaultStem

/-- The identifier that a node gets after `count` others. -/
def idAfter (builder : Builder) (count : UInt64) : NodeId :=
  NodeId.ofIndex builder.stem (builder.counter + count)

def nextId (builder : Builder) : NodeId :=
  NodeId.ofIndex builder.stem builder.counter

/-- The builder after it has handed out `count` more identifiers. -/
def advance (builder : Builder) (count : UInt64) : Builder :=
  { builder with counter := builder.counter + count }

def declared (id : NodeId) (label : String) : Record :=
  { severity := .trace, origin := .graph,
    message := "declared node " ++ id.name ++ " with label " ++ Text.quoted label }

/-- Declares the next node, with the label as it is, and records it. -/
def declare (builder : Builder) (label : String) : Traced (Node × Builder) := do
  note (declared builder.nextId label)
  return (Node.declare builder.nextId label, builder.advance 1)

def declareAll (builder : Builder) : (labels : List String) → Traced (List Node × Builder)
  | [] => return ([], builder)
  | label :: labels => do
    let first ← builder.declare label
    let others ← first.2.declareAll labels
    return (first.1 :: others.1, others.2)

/-- The nodes that the next labels get. -/
def nodes (builder : Builder) : (labels : List String) → List Node
  | [] => []
  | label :: labels => Node.declare builder.nextId label :: (builder.advance 1).nodes labels

def journal (builder : Builder) : (labels : List String) → List Record
  | [] => []
  | label :: labels => declared builder.nextId label :: (builder.advance 1).journal labels

/-- Draws an edge between two identifiers. The builder lends only its name space. -/
def connect (_builder : Builder) (parent child : NodeId) (options : String) : Traced String :=
  Edge.draw { source := parent.name, target := child.name, options }

def describe (builder : Builder) : String :=
  "GraphBuilder \x7b prefix: " ++ Text.quoted builder.stem ++ ", counter: "
    ++ NodeId.numeral builder.counter ++ " \x7d"

/-! ## First facts -/

@[simp] theorem stem_advance (builder : Builder) (count : UInt64) :
    (builder.advance count).stem = builder.stem := rfl

@[simp] theorem counter_advance (builder : Builder) (count : UInt64) :
    (builder.advance count).counter = builder.counter + count := rfl

@[simp] theorem nextId_advance (builder : Builder) (count : UInt64) :
    (builder.advance count).nextId = builder.idAfter count := rfl

@[simp] theorem idAfter_zero (builder : Builder) : builder.idAfter 0 = builder.nextId := by
  simp [idAfter, nextId]

@[simp] theorem advance_zero (builder : Builder) : builder.advance 0 = builder := by
  simp [advance]

@[simp] theorem advance_advance (builder : Builder) (first second : UInt64) :
    (builder.advance first).advance second = builder.advance (first + second) := by
  simp [advance, UInt64.add_assoc]

@[simp] theorem result_declare (builder : Builder) (label : String) (verbosity : Verbosity) :
    (builder.declare label).result verbosity =
      (Node.declare builder.nextId label, builder.advance 1) := rfl

@[simp] theorem records_declare (builder : Builder) (label : String) (verbosity : Verbosity) :
    (builder.declare label).records verbosity =
      verbosity.kept [declared builder.nextId label] := by
  simp [declare]

/-- Declaring labels gives their nodes, and moves the builder on by as many. -/
@[simp] theorem result_declareAll (builder : Builder) (labels : List String)
    (verbosity : Verbosity) :
    (builder.declareAll labels).result verbosity =
      (builder.nodes labels, builder.advance (UInt64.ofNat labels.length)) := by
  induction labels generalizing builder with
  | nil => simp [declareAll, nodes]
  | cons label labels inductionHypothesis =>
    simp [declareAll, nodes, inductionHypothesis, UInt64.ofNat_add, UInt64.add_comm]

@[simp] theorem records_declareAll (builder : Builder) (labels : List String)
    (verbosity : Verbosity) :
    (builder.declareAll labels).records verbosity = verbosity.kept (builder.journal labels) := by
  induction labels generalizing builder with
  | nil => rfl
  | cons label labels inductionHypothesis =>
    simp only [declareAll, journal, Traced.records_bind, Traced.records_pure, records_declare,
      result_declare, inductionHypothesis, List.append_nil]
    exact (verbosity.kept_cons _ _).symm

@[simp] theorem length_nodes (builder : Builder) (labels : List String) :
    (builder.nodes labels).length = labels.length := by
  induction labels generalizing builder with
  | nil => rfl
  | cons label labels inductionHypothesis => simp [nodes, inductionHypothesis]

end Builder

end DotScribe
