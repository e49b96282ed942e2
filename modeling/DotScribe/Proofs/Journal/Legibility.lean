import DotScribe.Builder
import DotScribe.Proofs.Node.Numeral
import DotScribe.Proofs.Text.Quotation

/-!
# What records and structured texts tell

A record of a declared node quotes its label, so it tells the label from every other one and takes
up one line, unless the name itself has a line end. The structured texts of builders and edges
quote their parts and so tell all of them. The line of an edge does not: nothing divides its
options from the name in front of them.
-/

namespace DotScribe

/-! ## Line ends in names -/

theorem NodeId.lineEnd_mem_name_iff {lineEnd : Char} (isEnd : Text.IsLineEnd lineEnd)
    (stem : String) (index : UInt64) :
    lineEnd ∈ (ofIndex stem index).name.toList ↔ lineEnd ∈ stem.toList := by
  have noDigit : lineEnd ∉ (numeral index).toList := by
    intro mem
    have digit : lineEnd.isDigit = true := isDigit_of_mem_numeral mem
    obtain rfl | rfl := isEnd <;> cases digit
  rw [name_ofIndex, String.toList_append, List.mem_append, or_iff_left noDigit]

namespace Builder

/-! ## The record of a declared node -/

theorem message_declared_inj (id : NodeId) {first second : String} :
    (declared id first).message = (declared id second).message ↔ first = second := by
  rw [declared, declared, String.append_right_inj, Text.quoted_inj]

theorem lineEnd_mem_message_declared_iff {lineEnd : Char}
    (isEnd : Text.IsLineEnd lineEnd) (id : NodeId) (label : String) :
    lineEnd ∈ (declared id label).message.toList ↔ lineEnd ∈ id.name.toList := by
  have before : lineEnd ∉ "declared node ".toList := by
    obtain rfl | rfl := isEnd <;> decide
  have behind : lineEnd ∉ " with label ".toList := by
    obtain rfl | rfl := isEnd <;> decide
  have quoted : lineEnd ∉ (Text.quoted label).toList := Text.lineEnd_not_mem_quoted isEnd label
  simp only [declared, String.toList_append, List.mem_append, before, behind, quoted, false_or,
    or_false]

/-! ## Structured texts -/

theorem describe_inj {first second : Builder} :
    first.describe = second.describe ↔ first = second := by
  have layout : ∀ builder : Builder, builder.describe =
      "GraphBuilder \x7b prefix: " ++ (Text.quoted builder.stem ++
        (", counter: " ++ (NodeId.numeral builder.counter ++ " \x7d"))) := by
    intro builder
    unfold describe
    simp only [String.append_assoc]
  constructor
  · intro same
    rw [layout, layout, String.append_right_inj] at same
    obtain ⟨stem, rest⟩ := Text.quoted_append_inj.1 same
    rw [String.append_right_inj, String.append_left_inj] at rest
    have counter : first.counter = second.counter := NodeId.numeral_injective rest
    cases first
    cases second
    cases stem
    cases counter
    rfl
  · rintro rfl
    rfl

end Builder

theorem Edge.describe_inj {first second : Edge} :
    first.describe = second.describe ↔ first = second := by
  have layout : ∀ edge : Edge, edge.describe =
      "Edge \x7b source: " ++ (Text.quoted edge.source ++
        (", target: " ++ (Text.quoted edge.target ++
          (", options: " ++ (Text.quoted edge.options ++ " \x7d"))))) := by
    intro edge
    unfold describe
    simp only [String.append_assoc]
  constructor
  · intro same
    rw [layout, layout, String.append_right_inj] at same
    obtain ⟨source, rest⟩ := Text.quoted_append_inj.1 same
    rw [String.append_right_inj] at rest
    obtain ⟨target, rest⟩ := Text.quoted_append_inj.1 rest
    rw [String.append_right_inj] at rest
    obtain ⟨options, -⟩ := Text.quoted_append_inj.1 rest
    cases first
    cases second
    cases source
    cases target
    cases options
    rfl
  · rintro rfl
    rfl

/-- Labels are read back from quoted texts. The record of a declared node tells its label and
    takes up one line if the stem does, and the structured texts of builders and of edges tell all
    there is to know, which the line of an edge does not. -/
theorem Builder.records_are_legible :
    (∀ label : String,
      Text.readQuoted? (Text.quoted label).toList = some (label.toList, [])) ∧
    (∀ (id : NodeId) (first second : String),
      (declared id first).message = (declared id second).message ↔ first = second) ∧
    (∀ (id : NodeId) (label : String),
      ('\n' ∈ (declared id label).message.toList ↔ '\n' ∈ id.name.toList) ∧
      ('\r' ∈ (declared id label).message.toList ↔ '\r' ∈ id.name.toList)) ∧
    (∀ (builder : Builder) (label : String),
      (builder.declare label).records (.upTo .trace) = [declared builder.nextId label] ∧
      ('\n' ∈ builder.nextId.name.toList ↔ '\n' ∈ builder.stem.toList) ∧
      ('\r' ∈ builder.nextId.name.toList ↔ '\r' ∈ builder.stem.toList)) ∧
    (∀ first second : Builder, first.describe = second.describe ↔ first = second) ∧
    (∀ first second : Edge, first.describe = second.describe ↔ first = second) ∧
    ∃ first second : Edge, first ≠ second ∧ first.line = second.line := by
  refine ⟨?decoded, ?labels, ?oneLine, ?stems, ?builders, ?edges, ?lines⟩
  case decoded =>
    intro label
    have read := Text.readQuoted?_quoted label.toList []
    rwa [List.append_nil, ← Text.toList_quoted] at read
  case labels => exact fun id first second => message_declared_inj id
  case oneLine =>
    intro id label
    exact ⟨lineEnd_mem_message_declared_iff (.inl rfl) id label,
      lineEnd_mem_message_declared_iff (.inr rfl) id label⟩
  case stems =>
    intro builder label
    refine ⟨?_, NodeId.lineEnd_mem_name_iff (.inl rfl) builder.stem builder.counter,
      NodeId.lineEnd_mem_name_iff (.inr rfl) builder.stem builder.counter⟩
    rw [records_declare, Verbosity.kept_trace]
  case builders => exact fun first second => describe_inj
  case edges => exact fun first second => Edge.describe_inj
  case lines =>
    -- The options begin with what ends the second name of the other edge.
    exact ⟨{ source := "a", target := "b", options := "" },
      { source := "a", target := "", options := "b" }, by decide, rfl⟩

end DotScribe
