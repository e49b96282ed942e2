import DotScribe.Proofs.Document.Renumbering
import DotScribe.Proofs.Sample.Forest

/-!
# Sample trees differ in their numbers only

All that a builder's counter changes in a sample tree are the numbers of its names, so the text of
a later tree is that of an earlier one renumbered, by as many nodes as the builder has declared
from the one to the other. The text is renumbered as a whole, with all else that stands in it: the
labels are numbers too, but none of them stands behind the letter that the names begin with.
-/

namespace DotScribe

namespace Builder

/-- A builder with the default stem that has handed out so many identifiers. -/
def freshAfter (count : Nat) : Builder :=
  fresh.advance (UInt64.ofNat count)

theorem advance_freshAfter (first second : Nat) :
    (freshAfter first).advance (UInt64.ofNat second) = freshAfter (first + second) := by
  rw [freshAfter, advance_advance, ← UInt64.ofNat_add, freshAfter]

theorem toList_name_nextId_freshAfter {count : Nat} (room : count < 2 ^ 64) :
    (freshAfter count).nextId.name.toList = 'x' :: Nat.toDigits 10 count := by
  have index : (freshAfter count).counter.toNat = count := by
    rw [freshAfter, counter_advance, fresh, ofStem, UInt64.zero_add, UInt64.toNat_ofNat',
      Nat.mod_eq_of_lt room]
  have stem : (freshAfter count).stem = defaultStem := rfl
  rw [nextId, NodeId.name_ofIndex, String.toList_append, NodeId.toList_numeral, index, stem]
  rfl

/-! ## The trees of a run -/

namespace Operation

/-- The operations from the one place up to the other. -/
def between (operations : List Operation) (i j : Nat) : List Operation :=
  (operations.drop i).take (j - i)

theorem allocations_take_eq_add_between (operations : List Operation) {i j : Nat}
    (before : i ≤ j) :
    allocations (operations.take j) =
      allocations (operations.take i) + allocations (between operations i j) := by
  rw [← allocations_append, between, ← List.take_add, Nat.add_sub_cancel' before]

end Operation

theorem getElem?_yields_of_buildSample (start : Nat) {operations : List Operation}
    (verbosity : Verbosity) {i : Nat} (found : operations[i]? = some .buildSample) :
    (((freshAfter start).run operations).result verbosity).1[i]? =
      some (.text (Sample.text
        (freshAfter (start + Operation.allocations (operations.take i))))) := by
  rw [getElem?_yields_run, found, builder_run, Operation.length_flatMap_labels, advance_freshAfter,
    Option.map_some]
  simp only [perform, Traced.result_bind, Traced.result_pure, Sample.result_build]

end Builder

namespace Sample

open Document (Renumbers renumber StartsOutside startsOutside_cons)

/-! ## The parts of the text -/

/-- The line that declares a node of the tree. -/
def declarationLine (builder : Builder) (node : Fin 5 × String) : List Char :=
  (Node.declare (builder.idAfter (UInt64.ofNat node.1)) node.2).declaration.toList

/-- The line of an edge of the tree. -/
def edgeLine (builder : Builder) (edge : Fin 5 × Fin 5) : List Char :=
  (Edge.plain (nameAt builder edge.1) (nameAt builder edge.2)).line.toList

theorem toList_text (builder : Builder) :
    (text builder).toList =
      shape.nodes.flatMap (declarationLine builder) ++ shape.edges.flatMap (edgeLine builder) := by
  have lines : text builder = String.join
      (shape.nodes.map (fun node =>
          (Node.declare (builder.idAfter (UInt64.ofNat node.1)) node.2).declaration) ++
        shape.edges.map fun edge =>
          (Edge.plain (nameAt builder edge.1) (nameAt builder edge.2)).line) := by
    rw [text, textOf, Builder.nodes_eq_mapIdx]
    rfl
  rw [lines, String.toList_join, List.flatMap_append, List.flatMap_map, List.flatMap_map]
  rfl

variable {count offset : Nat}

/-- A name is renumbered together with what follows it, which ends its number. -/
theorem renumbers_name (room : count + offset + 5 < 2 ^ 64) (position : Fin 5) {tail : List Char}
    (free : 'x' ∉ tail) (ends : ∀ rest, StartsOutside Char.isDigit (tail ++ rest)) :
    Renumbers 'x' offset ((nameAt (.freshAfter count) position).toList ++ tail)
      ((nameAt (.freshAfter (count + offset)) position).toList ++ tail) := by
  have name : ∀ {start : Nat}, start + position < 2 ^ 64 →
      (nameAt (.freshAfter start) position).toList = 'x' :: Nat.toDigits 10 (start + position) := by
    intro start inside
    rw [nameAt, ← Builder.nextId_advance, Builder.advance_freshAfter,
      Builder.toList_name_nextId_freshAfter inside]
  rw [name (by omega), name (by omega), Nat.add_right_comm]
  exact Renumbers.numeral free ends

theorem renumbers_declarationLine (room : count + offset + 5 < 2 ^ 64) {node : Fin 5 × String}
    (free : 'x' ∉ node.2.toList) :
    Renumbers 'x' offset (declarationLine (.freshAfter count) node)
      (declarationLine (.freshAfter (count + offset)) node) := by
  have layout : ∀ builder, declarationLine builder node =
      (nameAt builder node.1).toList ++
        (Node.labelOpening.toList ++ (node.2.toList ++ '"' :: Node.lineClosing.toList)) := by
    intro builder
    simp [declarationLine, nameAt]
  have opening : 'x' ∉ Node.labelOpening.toList := by decide
  have closing : 'x' ∉ '"' :: Node.lineClosing.toList := by decide
  rw [layout, layout]
  apply renumbers_name room
  · simp only [List.mem_append, not_or]
    exact ⟨opening, free, closing⟩
  · exact fun rest => startsOutside_cons rfl _

theorem renumbers_edgeLine (room : count + offset + 5 < 2 ^ 64) (edge : Fin 5 × Fin 5) :
    Renumbers 'x' offset (edgeLine (.freshAfter count) edge)
      (edgeLine (.freshAfter (count + offset)) edge) := by
  have layout : ∀ builder, edgeLine builder edge =
      ((nameAt builder edge.1).toList ++ Edge.arrow.toList) ++
        ((nameAt builder edge.2).toList ++ ['\n']) := by
    intro builder
    simp [edgeLine, Edge.plain, Edge.line]
  rw [layout, layout]
  exact .append
    (renumbers_name room edge.1 (by decide) fun rest => startsOutside_cons rfl _)
    (renumbers_name room edge.2 (by decide) fun rest => startsOutside_cons rfl _)

theorem renumbers_text (room : count + offset + 5 < 2 ^ 64) :
    Renumbers 'x' offset (text (.freshAfter count)).toList
      (text (.freshAfter (count + offset))).toList := by
  have labels : ∀ node ∈ shape.nodes, 'x' ∉ node.2.toList := by decide
  rw [toList_text, toList_text]
  exact .append
    (.flatMap fun node mem => renumbers_declarationLine room (labels node mem))
    (.flatMap fun edge _ => renumbers_edgeLine room edge)

theorem renumbers_wrap {body moved : String}
    (renumbers : Renumbers 'x' offset body.toList moved.toList) :
    Renumbers 'x' offset (Document.wrap body).toList (Document.wrap moved).toList := by
  have header : 'x' ∉ Document.header.toList := by decide
  have footer : 'x' ∉ Document.footer.toList := by decide
  rw [Document.toList_wrap, Document.toList_wrap]
  exact ((Renumbers.of_not_mem header).append renumbers).append (.of_not_mem footer)

/-! ## Any two trees -/

open Builder (Operation freshAfter)

/-- Two sample trees of builders with the default stem differ by a renumbering, alone and wrapped
    into documents. Within the run of a builder it is the number of nodes that are declared from
    the one tree up to the other. -/
theorem trees_differ_by_renumbering :
    (∀ (count offset : Nat) (verbosity : Verbosity), count + offset + 5 < 2 ^ 64 →
      ((build (freshAfter (count + offset))).result verbosity).1.toList =
        renumber 'x' offset ((build (freshAfter count)).result verbosity).1.toList ∧
      (Document.wrap ((build (freshAfter (count + offset))).result verbosity).1).toList =
        renumber 'x' offset
          (Document.wrap ((build (freshAfter count)).result verbosity).1).toList) ∧
    ∀ (start : Nat) (operations : List Operation) (verbosity : Verbosity) (i j : Nat), i ≤ j →
      start + Operation.allocations (operations.take j) + 5 < 2 ^ 64 →
      operations[i]? = some .buildSample → operations[j]? = some .buildSample →
        ∃ first second,
          (((freshAfter start).run operations).result verbosity).1[i]? = some (.text first) ∧
          (((freshAfter start).run operations).result verbosity).1[j]? = some (.text second) ∧
          second.toList =
            renumber 'x' (Operation.allocations (Operation.between operations i j))
              first.toList := by
  refine ⟨?trees, ?runs⟩
  case trees =>
    intro count offset verbosity room
    have moved := renumbers_text room
    rw [result_build, result_build]
    exact ⟨moved.renumber_eq.symm, (renumbers_wrap moved).renumber_eq.symm⟩
  case runs =>
    intro start operations verbosity i j before room first second
    refine ⟨_, _, Builder.getElem?_yields_of_buildSample start verbosity first,
      Builder.getElem?_yields_of_buildSample start verbosity second, ?_⟩
    rw [Operation.allocations_take_eq_add_between operations before, ← Nat.add_assoc] at room ⊢
    exact (renumbers_text room).renumber_eq.symm

/-- From the ninth node on: the first tree comes to have numbers of two digits in its middle, and
    the second has no others. Two nodes are declared in between. -/
theorem trees_differ_by_renumbering_gaining_digit :
    8 + 92 + 5 < 2 ^ 64 ∧
      (Document.wrap ((build (freshAfter (8 + 92))).result .off).1).toList =
        renumber 'x' 92 (Document.wrap ((build (freshAfter 8)).result .off).1).toList ∧
      8 + Operation.allocations [.buildSample, .declare "x7", .declare ""] + 5 < 2 ^ 64 ∧
      ∃ first second,
        (((freshAfter 8).run [.buildSample, .declare "x7", .declare "", .buildSample]).result
          .off).1[0]? = some (.text first) ∧
        (((freshAfter 8).run [.buildSample, .declare "x7", .declare "", .buildSample]).result
          .off).1[3]? = some (.text second) ∧
        second.toList = renumber 'x' 7 first.toList := by
  have room : 8 + 92 + 5 < 2 ^ 64 := by decide
  have roomInRun : 8 + Operation.allocations [.buildSample, .declare "x7", .declare ""] + 5 <
      2 ^ 64 := by decide
  obtain ⟨trees, runs⟩ := trees_differ_by_renumbering
  exact ⟨room, (trees 8 92 .off room).2, roomInRun,
    runs 8 _ .off 0 3 (by decide) roomInRun rfl rfl⟩

end Sample

end DotScribe
