import DotScribe.Text.Quoted

/-!
# Nodes

A node is known by an identifier: a stem followed by a running number in decimal. It enters a
document through its declaration, a line with the identifier, the label and the shape.

* `NodeId.ofIndex` makes an identifier of a stem and a number. It keeps the joined name and the
  number, and identifiers are equal if both agree.
* `Node.declare` pairs an identifier with its declaration. The label is taken as it is.
* `NodeId.describe` and `Node.describe` are the structured texts of the two.
* `Census.firstPositions` sorts identifiers or nodes into classes of equal ones, and
  `Census.distinct` counts the classes.
-/

namespace DotScribe

/-! ## Identifiers -/

/-- The identifier of a node: the name that stands in the document, and the running number that
    the name was made from. -/
structure NodeId where
  name : String
  index : UInt64
deriving DecidableEq

namespace NodeId

/-- The decimal numeral of a running number, without leading zeros. -/
def numeral (index : UInt64) : String :=
  Nat.repr index.toNat

def ofIndex (stem : String) (index : UInt64) : NodeId :=
  { name := stem ++ numeral index, index }

/-- The identifier as a structured text. The name stands there as it is. -/
def describe (id : NodeId) : String :=
  "NodeId(" ++ id.name ++ ")"

@[simp] theorem name_ofIndex (stem : String) (index : UInt64) :
    (ofIndex stem index).name = stem ++ numeral index := rfl

@[simp] theorem index_ofIndex (stem : String) (index : UInt64) :
    (ofIndex stem index).index = index := rfl

@[simp] theorem toList_numeral (index : UInt64) :
    (numeral index).toList = Nat.toDigits 10 index.toNat := by
  simp [numeral]

end NodeId

/-! ## Declarations -/

/-- A declared node: its identifier and the line that declares it. -/
structure Node where
  id : NodeId
  declaration : String
deriving DecidableEq

namespace Node

def shape : String := "circle"

/-- What stands between the identifier and the label, with the label's opening quote. -/
def labelOpening : String := " [label=\""

/-- What stands behind the closing quote of the label. -/
def lineClosing : String := ",shape=" ++ shape ++ "]\n"

/-- The node with the given identifier and label. The label is not escaped. -/
def declare (id : NodeId) (label : String) : Node :=
  { id, declaration := id.name ++ labelOpening ++ label ++ "\"" ++ lineClosing }

/-- The node as a structured text: its identifier's, and its declaration in quotes. -/
def describe (node : Node) : String :=
  "Node \x7b id: " ++ node.id.describe ++ ", declaration: " ++ Text.quoted node.declaration
    ++ " \x7d"

@[simp] theorem id_declare (id : NodeId) (label : String) : (declare id label).id = id := rfl

@[simp] theorem declaration_declare (id : NodeId) (label : String) :
    (declare id label).declaration =
      id.name ++ labelOpening ++ label ++ "\"" ++ lineClosing := rfl

end Node

/-! ## Classes of equal values -/

namespace Census

variable {α : Type} [DecidableEq α]

/-- For every element, the position of the first one equal to it. -/
def firstPositions (values : List α) : List Nat :=
  values.map fun value => values.idxOf value

def distinct (values : List α) : Nat :=
  values.eraseDups.length

theorem distinct_cons (value : α) (values : List α) :
    distinct (value :: values) = distinct (values.filter fun other => !other == value) + 1 := by
  simp [distinct, List.eraseDups_cons]

end Census

end DotScribe
