import DotScribe.Builder
import DotScribe.Document
import DotScribe.Sink

/-!
# The sample tree

The tree of the expression (1 - 2) + 3, as five nodes and four edges. All declarations come
first, in the order in which the nodes are made, and all edges after them.

* `Sample.labels` and `Sample.arcs` are the tree as data.
* `Sample.textOf` is the text of the tree that given nodes make.
* `Sample.build` makes the tree with a builder's next identifiers, and `Sample.text` and
  `Sample.journal` say what text and what records that gives.
* `Sample.emit` makes it, wraps it into a document and delivers that to a sink. The identifiers
  are used up even if the delivery fails.
-/

namespace DotScribe.Sample

/-! ## The tree as data -/

/-- The labels of the nodes, in the order in which the nodes are made. -/
def labels : List String :=
  ["-", "+", "1", "2", "3"]

/-- The edges, each by the positions of its parent and its child among the labels. -/
def arcs : List (Nat × Nat) :=
  [(0, 2), (0, 3), (1, 0), (1, 4)]

def edge? (nodes : List Node) (arc : Nat × Nat) : Option Edge := do
  let parent ← nodes[arc.1]?
  let child ← nodes[arc.2]?
  return Edge.plain parent.id.name child.id.name

def edges (nodes : List Node) : List Edge :=
  arcs.filterMap (edge? nodes)

/-- The text of a tree: all declarations, then all edge lines. -/
def render (nodes : List Node) (lines : List String) : String :=
  String.join (nodes.map Node.declaration ++ lines)

def textOf (nodes : List Node) : String :=
  render nodes ((edges nodes).map Edge.line)

/-! ## The tree made -/

/-- The record of a tree that was made. It tells the next identifier of the builder. -/
def built (builder : Builder) : Record :=
  { severity := .debug, origin := .sample,
    message := "built example tree with " ++ Nat.repr labels.length ++ " nodes and "
      ++ Nat.repr arcs.length ++ " edges, next id " ++ builder.stem
      ++ NodeId.numeral builder.counter }

def build (builder : Builder) : Traced (String × Builder) := do
  let made ← builder.declareAll labels
  let lines ← Edge.drawAll (edges made.1)
  note (built made.2)
  return (render made.1 lines, made.2)

/-! ## The document -/

/-- The record of a delivered document. Its line end is counted. -/
def emitted (document : String) : Record :=
  { severity := .debug, origin := .sample,
    message := "emitted document of " ++ Nat.repr (document.utf8ByteSize + 1) ++ " bytes" }

/-- What an attempt to emit the tree leaves behind. -/
structure Emission where
  outcome : Except Failure Unit
  sink : Sink
  builder : Builder

/-- Makes the tree and delivers its document. Success is recorded, failure is not. -/
def emit (builder : Builder) (sink : Sink) : Traced Emission := do
  let made ← build builder
  let document := Document.wrap made.1
  match sink.deliver document with
  | (.error failure, after) =>
    return { outcome := .error failure, sink := after, builder := made.2 }
  | (.ok (), after) =>
    note (emitted document)
    return { outcome := .ok (), sink := after, builder := made.2 }

/-! ## What is made -/

def text (builder : Builder) : String :=
  textOf (builder.nodes labels)

def journal (builder : Builder) : List Record :=
  builder.journal labels ++ (edges (builder.nodes labels)).map Edge.drawn
    ++ [built (builder.advance 5)]

theorem ofNat_length_labels : UInt64.ofNat labels.length = 5 := rfl

@[simp] theorem result_build (builder : Builder) (verbosity : Verbosity) :
    (build builder).result verbosity = (text builder, builder.advance 5) := by
  simp only [build, text, textOf, Traced.result_bind, Traced.result_pure, Builder.result_declareAll,
    Edge.result_drawAll, ofNat_length_labels]

/-- Everything that a verbosity admits is recorded of the tree, and nothing else. -/
@[simp] theorem records_build (builder : Builder) (verbosity : Verbosity) :
    (build builder).records verbosity = verbosity.kept (journal builder) := by
  simp only [build, journal, Traced.records_bind, Traced.records_pure, Traced.records_note,
    Builder.records_declareAll, Builder.result_declareAll, Edge.records_drawAll,
    Verbosity.kept_append, List.append_nil, List.append_assoc, ofNat_length_labels]

@[simp] theorem result_emit (builder : Builder) (sink : Sink) (verbosity : Verbosity) :
    (emit builder sink).result verbosity =
      { outcome := (sink.deliver (Document.wrap (text builder))).1,
        sink := (sink.deliver (Document.wrap (text builder))).2,
        builder := builder.advance 5 } := by
  simp only [emit, Traced.result_bind, result_build]
  split
  · next same => simp [same]
  · next same => simp [same]

end DotScribe.Sample
