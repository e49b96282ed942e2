import DotScribe.Document
import DotScribe.Edge
import DotScribe.Label
import DotScribe.Node

/-!
# Reading documents

A document whose names are plain and whose labels are escaped can be taken apart again into the
statements that it was made of.

* `Statement` is a line of a document.
* `Document.readStatement?` reads one off the front of a body and gives what follows it.
* `Document.read?` reads a whole document.
-/

namespace DotScribe

/-- A line of a document: a declared node with its label, or an edge. -/
inductive Statement
  | node (name label : String)
  | edge (edge : Edge)
deriving DecidableEq

namespace Document

/-- The characters of a plain name: ASCII letters, digits and the underscore. -/
def isNameChar (c : Char) : Bool :=
  c.isAlphanum || c == '_'

/-- A plain name: at least one name character, and no digit in front. -/
def IsPlainName (name : String) : Prop :=
  ∃ c rest, name.toList = c :: rest ∧ c.isDigit = false ∧ ∀ d ∈ c :: rest, isNameChar d = true

/-- Reads what follows the name and the opening quote in a declaration. -/
def readNode? (name text : List Char) : Option (Statement × List Char) := do
  let scanned ← Label.scan? text
  let label ← Label.decode? scanned.1
  let rest ← dropFront? Node.lineClosing.toList scanned.2
  return (.node (String.ofList name) (String.ofList label), rest)

/-- Reads what follows the arrow in the line of an edge. The options end with the line. -/
def readEdge? (source text : List Char) : Option (Statement × List Char) :=
  let target := text.takeWhile isNameChar
  let behind := text.dropWhile isNameChar
  match behind.dropWhile (· != '\n') with
  | [] => none
  | _ :: rest =>
    some
      (.edge
        { source := String.ofList source
          target := String.ofList target
          options := String.ofList (behind.takeWhile (· != '\n')) },
        rest)

/-- Reads one statement off the front of a body, and gives what follows it. -/
def readStatement? (text : List Char) : Option (Statement × List Char) :=
  let name := text.takeWhile isNameChar
  let behind := text.dropWhile isNameChar
  match dropFront? Node.labelOpening.toList behind with
  | some text => readNode? name text
  | none =>
    match dropFront? Edge.arrow.toList behind with
    | some text => readEdge? name text
    | none => none

/-! ## A statement takes up room -/

theorem length_of_dropFront? {front text rest : List Char}
    (dropped : dropFront? front text = some rest) :
    text.length = front.length + rest.length := by
  rw [eq_append_of_dropFront? dropped, List.length_append]

theorem readNode?_shortens {name text rest : List Char} {statement : Statement}
    (read : readNode? name text = some (statement, rest)) : rest.length ≤ text.length := by
  simp only [readNode?, Option.bind_eq_bind, Option.bind_eq_some_iff] at read
  obtain ⟨scanned, found, label, _, rest, dropped, same⟩ := read
  cases same
  have whole := congrArg List.length (Label.eq_append_of_scan? found)
  have part := length_of_dropFront? dropped
  simp only [List.length_append, List.length_cons] at whole
  omega

theorem readEdge?_shortens {source text rest : List Char} {statement : Statement}
    (read : readEdge? source text = some (statement, rest)) : rest.length ≤ text.length := by
  simp only [readEdge?] at read
  split at read
  · cases read
  · next c tail dropped =>
    cases read
    have line := (List.dropWhile_sublist (l := text.dropWhile isNameChar) (· != '\n')).length_le
    have name := (List.dropWhile_sublist (l := text) isNameChar).length_le
    rw [dropped, List.length_cons] at line
    omega

theorem readStatement?_shortens {text rest : List Char} {statement : Statement}
    (read : readStatement? text = some (statement, rest)) : rest.length < text.length := by
  have name := (List.dropWhile_sublist (l := text) isNameChar).length_le
  simp only [readStatement?] at read
  split at read
  · next behind dropped =>
    have room := length_of_dropFront? dropped
    have shorter := readNode?_shortens read
    have some : 0 < Node.labelOpening.toList.length := by decide
    omega
  · split at read
    · next behind dropped =>
      have room := length_of_dropFront? dropped
      have shorter := readEdge?_shortens read
      have some : 0 < Edge.arrow.toList.length := by decide
      omega
    · cases read

/-! ## Whole documents -/

def readStatements? (text : List Char) : Option (List Statement) :=
  if text.isEmpty then some []
  else
    match read : readStatement? text with
    | none => none
    | some (statement, rest) =>
      have := readStatement?_shortens read
      (readStatements? rest).map (statement :: ·)
termination_by text.length

/-- Reads a document: its statements in order, or `none` if it is not made of statements. -/
def read? (document : String) : Option (List Statement) :=
  (body? document).bind readStatements?

end Document

end DotScribe
