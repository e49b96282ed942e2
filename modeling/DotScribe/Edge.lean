import DotScribe.Journal
import DotScribe.Text.Quoted

/-!
# Edges

An edge leads from one node to another. It is known by the names of its ends, which need not be
declared, and by options that are written right behind the second name.

* `Edge.line` is the line that stands in a document.
* `Edge.draw` gives that line and records it, and `Edge.drawAll` does so for several edges.
* `Edge.describe` is the structured text, which tells all three parts apart.
-/

namespace DotScribe

/-- An edge from one name to another, with the text that follows them. -/
structure Edge where
  source : String
  target : String
  options : String
deriving DecidableEq

namespace Edge

def arrow : String := " -> "

def plain (source target : String) : Edge :=
  { source, target, options := "" }

/-- The line that stands in a document. Nothing separates the options from the second name. -/
def line (edge : Edge) : String :=
  edge.source ++ arrow ++ edge.target ++ edge.options ++ "\n"

def describe (edge : Edge) : String :=
  "Edge \x7b source: " ++ Text.quoted edge.source ++ ", target: " ++ Text.quoted edge.target
    ++ ", options: " ++ Text.quoted edge.options ++ " \x7d"

/-- The record of a drawn edge. It leaves the options out. -/
def drawn (edge : Edge) : Record :=
  { severity := .trace, origin := .graph,
    message := "rendered edge " ++ edge.source ++ arrow ++ edge.target }

/-- Gives the line of the edge, and records that it was drawn. -/
def draw (edge : Edge) : Traced String := do
  note edge.drawn
  return edge.line

def drawAll : List Edge → Traced (List String)
  | [] => return []
  | edge :: edges => do
    let line ← edge.draw
    let lines ← drawAll edges
    return line :: lines

@[simp] theorem result_draw (edge : Edge) (verbosity : Verbosity) :
    edge.draw.result verbosity = edge.line := rfl

@[simp] theorem records_draw (edge : Edge) (verbosity : Verbosity) :
    edge.draw.records verbosity = verbosity.kept [edge.drawn] := by
  simp [draw]

@[simp] theorem result_drawAll (edges : List Edge) (verbosity : Verbosity) :
    (drawAll edges).result verbosity = edges.map line := by
  induction edges with
  | nil => rfl
  | cons edge edges inductionHypothesis =>
    simp only [drawAll, Traced.result_bind, Traced.result_pure, result_draw, inductionHypothesis,
      List.map_cons]

@[simp] theorem records_drawAll (edges : List Edge) (verbosity : Verbosity) :
    (drawAll edges).records verbosity = verbosity.kept (edges.map drawn) := by
  induction edges with
  | nil => rfl
  | cons edge edges inductionHypothesis =>
    simp only [drawAll, Traced.records_bind, Traced.records_pure, records_draw,
      inductionHypothesis, List.append_nil, List.map_cons]
    exact (verbosity.kept_cons edge.drawn (edges.map drawn)).symm

end Edge

end DotScribe
