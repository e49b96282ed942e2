import DotScribe.Proofs.Document.RoundTrip
import DotScribe.Text.Fields

/-!
# The lines of a body

Every statement takes up one line: plain names, escaped labels and options hold no line feed, so
the only one is that at the end. A body of statements can therefore be cut at its line feeds, and
each line can be read by itself.
-/

namespace DotScribe

namespace Text

/-- Behind the last separator stands an empty field. -/
theorem fields_flatMap {sep : Char} (lines : List (List Char))
    (free : ∀ line ∈ lines, sep ∉ line) :
    fields sep (lines.flatMap fun line => line ++ [sep]) = lines ++ [[]] := by
  induction lines with
  | nil => rfl
  | cons line lines inductionHypothesis =>
    obtain ⟨first, others⟩ := List.forall_mem_cons.1 free
    rw [List.flatMap_cons, List.append_assoc, List.singleton_append, fields_append_cons first,
      inductionHypothesis others, List.cons_append]

end Text

namespace Document

/-- Reads a line without its line feed; `none` if it is not one statement. -/
def readLine? (line : List Char) : Option Statement :=
  match readStatement? (line ++ ['\n']) with
  | some (statement, []) => some statement
  | some (_, _ :: _) => none
  | none => none

theorem IsPlainName.newline_not_mem {name : String} (plain : IsPlainName name) :
    '\n' ∉ name.toList := by
  intro mem
  have inside : isNameChar '\n' = true := plain.inside '\n' mem
  cases inside

namespace Item

/-- The text of the item without the line feed at its end. -/
def line : Item → List Char
  | declared builder label =>
    builder.nextId.name.toList ++ Node.labelOpening.toList ++ Label.encode label.toList ++
      '"' :: Node.lineClosing.toList.dropLast
  | drawn edge =>
    edge.source.toList ++ Edge.arrow.toList ++ edge.target.toList ++ edge.options.toList

theorem fragment_eq_line (item : Item) (verbosity : Verbosity) :
    (item.fragment.result verbosity).toList = item.line ++ ['\n'] := by
  cases item with
  | declared builder label =>
    have closing : Node.lineClosing.toList = Node.lineClosing.toList.dropLast ++ ['\n'] := rfl
    have written : ((declared builder label).fragment.result verbosity).toList =
        builder.nextId.name.toList ++ Node.labelOpening.toList ++ Label.encode label.toList ++
          '"' :: Node.lineClosing.toList := by
      simp [fragment, Label.escapeChars_eq_encode]
    rw [written, closing]
    simp only [line, List.append_assoc, List.cons_append]
  | drawn edge => simp [fragment, line, Edge.line]

theorem newline_not_mem_line {item : Item} (readable : item.IsReadable) : '\n' ∉ item.line := by
  cases item with
  | declared builder label =>
    have name : '\n' ∉ builder.nextId.name.toList :=
      (IsPlainName.ofIndex readable builder.counter).newline_not_mem
    have opening : '\n' ∉ Node.labelOpening.toList := by decide
    have closing : '\n' ∉ '"' :: Node.lineClosing.toList.dropLast := by decide
    simp only [line, List.mem_append, not_or]
    exact ⟨⟨⟨name, opening⟩, Label.newline_not_mem_encode label.toList⟩, closing⟩
  | drawn edge =>
    obtain ⟨source, target, options⟩ := readable
    have arrow : '\n' ∉ Edge.arrow.toList := by decide
    simp only [line, List.mem_append, not_or]
    exact ⟨⟨⟨source.newline_not_mem, arrow⟩, target.newline_not_mem⟩, options.1⟩

theorem readLine?_line {item : Item} (readable : item.IsReadable) :
    readLine? item.line = some item.statement := by
  have read := readStatement?_fragment readable .off []
  rw [fragment_eq_line, List.append_nil] at read
  rw [readLine?, read]

end Item

/-- A body of statements is cut into one line for each of them, with nothing behind the last. -/
theorem fields_fragments (verbosity : Verbosity) (items : List Item)
    (readable : ∀ item ∈ items, item.IsReadable) :
    Text.fields '\n' (items.flatMap fun item => (item.fragment.result verbosity).toList) =
      items.map Item.line ++ [[]] := by
  have lines : (items.flatMap fun item => (item.fragment.result verbosity).toList) =
      (items.map Item.line).flatMap fun line => line ++ ['\n'] := by
    simp only [Item.fragment_eq_line, List.flatMap_map]
  rw [lines]
  apply Text.fields_flatMap
  intro line mem
  obtain ⟨item, inBody, rfl⟩ := List.mem_map.1 mem
  exact Item.newline_not_mem_line (readable item inBody)

end Document

end DotScribe
