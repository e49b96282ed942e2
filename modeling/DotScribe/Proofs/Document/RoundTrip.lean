import DotScribe.Builder
import DotScribe.Document.Reader
import DotScribe.Proofs.Label.Strides

/-!
# Documents are read back

A document that is put together from declarations with escaped labels and from edges between
plain names falls apart into just these statements again. Nothing that stands in a label can be
taken for the end of a line, for another statement or for the footer.

The reader finds the end of every part by the first character that cannot belong to it, so the
lemmas below say where each part ends, with the rest of the document left open.
-/

namespace DotScribe.Document

/-! ## Where a run of characters ends -/

/-- The text is empty or begins with a character outside the class. -/
def StartsOutside (kind : Char → Bool) (text : List Char) : Prop :=
  ∀ c ∈ text.head?, kind c = false

instance (kind : Char → Bool) (text : List Char) : Decidable (StartsOutside kind text) :=
  Option.decidableForallMem text.head?

theorem startsOutside_cons {kind : Char → Bool} {c : Char} (outside : kind c = false)
    (rest : List Char) : StartsOutside kind (c :: rest) := by
  intro first mem
  cases mem
  exact outside

theorem takeWhile_append {kind : Char → Bool} {run rest : List Char}
    (inside : ∀ c ∈ run, kind c = true) (outside : StartsOutside kind rest) :
    (run ++ rest).takeWhile kind = run := by
  rw [List.takeWhile_append_of_pos inside]
  cases rest with
  | nil => rw [List.takeWhile_nil, List.append_nil]
  | cons c rest =>
    have stop : kind c = false := outside c rfl
    simp [stop]

theorem dropWhile_append {kind : Char → Bool} {run rest : List Char}
    (inside : ∀ c ∈ run, kind c = true) (outside : StartsOutside kind rest) :
    (run ++ rest).dropWhile kind = rest := by
  rw [List.dropWhile_append_of_pos inside]
  cases rest with
  | nil => rfl
  | cons c rest =>
    have stop : kind c = false := outside c rfl
    simp [stop]

/-! ## Plain names -/

theorem isPlainName_iff {name : String} :
    IsPlainName name ↔ name.toList ≠ [] ∧ StartsOutside Char.isDigit name.toList ∧
      ∀ c ∈ name.toList, isNameChar c = true := by
  constructor
  · rintro ⟨first, rest, same, noDigit, inside⟩
    rw [same]
    refine ⟨List.cons_ne_nil first rest, ?_, inside⟩
    rintro c ⟨⟩
    exact noDigit
  · rintro ⟨nonempty, outside, inside⟩
    obtain ⟨first, rest, same⟩ := List.exists_cons_of_ne_nil nonempty
    rw [same] at outside inside
    exact ⟨first, rest, same, outside first rfl, inside⟩

-- The search through the list is named, so that no search through all characters takes its place.
instance (name : String) : Decidable (IsPlainName name) :=
  have : Decidable (∀ c ∈ name.toList, isNameChar c = true) := List.decidableBAll _ _
  decidable_of_iff _ isPlainName_iff.symm

theorem IsPlainName.inside {name : String} (plain : IsPlainName name) :
    ∀ c ∈ name.toList, isNameChar c = true := by
  obtain ⟨first, rest, same, -, inside⟩ := plain
  rw [same]
  exact inside

theorem isNameChar_of_isDigit {c : Char} (digit : c.isDigit = true) : isNameChar c = true := by
  simp [isNameChar, Char.isAlphanum, digit]

/-- The names that a plain stem gives are plain. -/
theorem IsPlainName.ofIndex {stem : String} (plain : IsPlainName stem) (index : UInt64) :
    IsPlainName (NodeId.ofIndex stem index).name := by
  obtain ⟨first, rest, same, noDigit, inside⟩ := plain
  refine ⟨first, rest ++ (NodeId.numeral index).toList, ?_, noDigit, ?_⟩
  · rw [NodeId.name_ofIndex, String.toList_append, same, List.cons_append]
  · intro c mem
    rw [← List.cons_append, List.mem_append, NodeId.toList_numeral] at mem
    cases mem with
    | inl ofStem => exact inside c ofStem
    | inr ofNumeral =>
      exact isNameChar_of_isDigit (Nat.isDigit_of_mem_toDigits (by decide) (by decide) ofNumeral)

/-! ## One statement -/

theorem readNode?_encode (name label rest : List Char) :
    readNode? name (Label.encode label ++ '"' :: (Node.lineClosing.toList ++ rest)) =
      some (.node (String.ofList name) (String.ofList (Label.withoutReturns label)), rest) := by
  simp only [readNode?, Label.scan?_encode, Label.decode?_encode, dropFront?_append,
    Option.bind_eq_bind, Option.bind_some, Option.pure_def]

/-- A declaration with an escaped label is read off the front of any text. -/
theorem readStatement?_declaration {id : NodeId} (plain : IsPlainName id.name) (label : String)
    (rest : List Char) :
    readStatement? ((Node.declare id (Label.escape label)).declaration.toList ++ rest) =
      some (.node id.name (String.ofList (Label.withoutReturns label.toList)), rest) := by
  -- The text regrouped in the order in which the reader takes it apart.
  have layout : (Node.declare id (Label.escape label)).declaration.toList ++ rest =
      id.name.toList ++ (Node.labelOpening.toList ++
        (Label.encode label.toList ++ '"' :: (Node.lineClosing.toList ++ rest))) := by
    simp [Label.escapeChars_eq_encode]
  have outside : StartsOutside isNameChar (Node.labelOpening.toList ++
      (Label.encode label.toList ++ '"' :: (Node.lineClosing.toList ++ rest))) :=
    startsOutside_cons rfl _
  rw [layout]
  simp only [readStatement?, takeWhile_append plain.inside outside,
    dropWhile_append plain.inside outside, dropFront?_append]
  rw [readNode?_encode, String.ofList_toList]

/-- Options that stay on their line, and that the name before them does not run into. -/
def IsOptions (options : String) : Prop :=
  '\n' ∉ options.toList ∧ StartsOutside isNameChar options.toList

instance (options : String) : Decidable (IsOptions options) :=
  inferInstanceAs (Decidable (_ ∧ _))

theorem readEdge?_line {edge : Edge} (target : IsPlainName edge.target)
    (options : IsOptions edge.options) (rest : List Char) :
    readEdge? edge.source.toList
        (edge.target.toList ++ (edge.options.toList ++ '\n' :: rest)) =
      some (.edge edge, rest) := by
  -- Behind the second name stands either an option or, if there is none, the end of the line.
  have outside : StartsOutside isNameChar (edge.options.toList ++ '\n' :: rest) := by
    cases same : edge.options.toList with
    | nil => exact startsOutside_cons rfl rest
    | cons first others =>
      have inFront : first ∈ edge.options.toList.head? := by rw [same]; rfl
      exact startsOutside_cons (options.2 first inFront) _
  have noFeed : ∀ c ∈ edge.options.toList, (c != '\n') = true := by
    intro c mem
    rw [bne_iff_ne]
    rintro rfl
    exact options.1 mem
  have feed : StartsOutside (· != '\n') ('\n' :: rest) := startsOutside_cons rfl rest
  simp only [readEdge?, takeWhile_append target.inside outside,
    dropWhile_append target.inside outside, takeWhile_append noFeed feed,
    dropWhile_append noFeed feed, String.ofList_toList]

/-- The arrow of an edge is not taken for the opening of a label. -/
theorem dropFront?_labelOpening_arrow (rest : List Char) :
    dropFront? Node.labelOpening.toList (Edge.arrow.toList ++ rest) = none := rfl

/-- The line of an edge is read off the front of any text. -/
theorem readStatement?_line {edge : Edge} (source : IsPlainName edge.source)
    (target : IsPlainName edge.target) (options : IsOptions edge.options) (rest : List Char) :
    readStatement? (edge.line.toList ++ rest) = some (.edge edge, rest) := by
  have layout : edge.line.toList ++ rest =
      edge.source.toList ++ (Edge.arrow.toList ++
        (edge.target.toList ++ (edge.options.toList ++ '\n' :: rest))) := by
    simp [Edge.line]
  have outside : StartsOutside isNameChar (Edge.arrow.toList ++
      (edge.target.toList ++ (edge.options.toList ++ '\n' :: rest))) :=
    startsOutside_cons rfl _
  rw [layout]
  simp only [readStatement?, takeWhile_append source.inside outside,
    dropWhile_append source.inside outside, dropFront?_labelOpening_arrow, dropFront?_append]
  exact readEdge?_line target options rest

/-! ## Items of a document -/

/-- What a document is put together from: a node that a builder declares with an escaped label,
    or an edge. -/
inductive Item
  | declared (builder : Builder) (label : String)
  | drawn (edge : Edge)

namespace Item

/-- The text of the item. -/
def fragment : Item → Traced String
  | declared builder label => do
    let made ← builder.declare (Label.escape label)
    return made.1.declaration
  | drawn edge => edge.draw

/-- What the item is read back as. -/
def statement : Item → Statement
  | declared builder label =>
    .node builder.nextId.name (String.ofList (Label.withoutReturns label.toList))
  | drawn edge => .edge edge

/-- Names are plain, and options keep to their line. Labels are not restricted. -/
def IsReadable : Item → Prop
  | declared builder _ => IsPlainName builder.stem
  | drawn edge =>
    IsPlainName edge.source ∧ IsPlainName edge.target ∧ IsOptions edge.options

instance (item : Item) : Decidable item.IsReadable :=
  match item with
  | declared builder _ => inferInstanceAs (Decidable (IsPlainName builder.stem))
  | drawn _ => inferInstanceAs (Decidable (_ ∧ _ ∧ _))

theorem readStatement?_fragment {item : Item} (readable : item.IsReadable)
    (verbosity : Verbosity) (rest : List Char) :
    readStatement? ((item.fragment.result verbosity).toList ++ rest) =
      some (item.statement, rest) := by
  cases item with
  | declared builder label =>
    have plain : IsPlainName builder.nextId.name := IsPlainName.ofIndex readable builder.counter
    exact readStatement?_declaration plain label rest
  | drawn edge =>
    obtain ⟨source, target, options⟩ := readable
    exact readStatement?_line source target options rest

end Item

/-! ## Whole documents -/

theorem readStatements?_of_readStatement? {text rest : List Char} {statement : Statement}
    (read : readStatement? text = some (statement, rest)) :
    readStatements? text = (readStatements? rest).map (statement :: ·) := by
  have shorter := readStatement?_shortens read
  have nonempty : text.isEmpty = false := by
    cases text with
    | nil => cases shorter
    | cons c text => rfl
  rw [readStatements?, nonempty, if_neg (by decide)]
  split
  · next missing => rw [read] at missing; cases missing
  · next found => rw [read] at found; cases found; rfl

theorem readStatements?_fragments (verbosity : Verbosity) (items : List Item)
    (readable : ∀ item ∈ items, item.IsReadable) :
    readStatements? (items.flatMap fun item => (item.fragment.result verbosity).toList) =
      some (items.map Item.statement) := by
  -- Each item is read with all the others as the rest, so no label can reach beyond its own line.
  induction items with
  | nil => simp [readStatements?]
  | cons item items inductionHypothesis =>
    obtain ⟨first, others⟩ := List.forall_mem_cons.1 readable
    rw [List.flatMap_cons,
      readStatements?_of_readStatement? (Item.readStatement?_fragment first verbosity _),
      inductionHypothesis others]
    rfl

/-- A document is read back as the statements of its items, in order. -/
theorem read?_wrap_fragments (items : List Item) (readable : ∀ item ∈ items, item.IsReadable)
    (verbosity : Verbosity) :
    read? (wrap (String.join (items.map fun item => item.fragment.result verbosity))) =
      some (items.map Item.statement) := by
  rw [read?, body?_wrap, Option.bind_some, String.toList_join, List.flatMap_map]
  exact readStatements?_fragments verbosity items readable

/-- A label that imitates the end of its line, an edge and the footer stays one label. -/
theorem read?_imitating_label :
    read? ("strict digraph X \x7b\n"
        ++ "_0 [label=\"\\\",shape=circle]\\n_0 -\\> _0\\n\x7d\\\\\",shape=circle]\n"
        ++ "_0 -> ghost[label=\"\"]\n\x7d") =
      some [.node "_0" "\",shape=circle]\n_0 -> _0\n\x7d\\",
        .edge { source := "_0", target := "ghost", options := "[label=\"\"]" }] := by
  have readable : ∀ item ∈
      [Item.declared (Builder.ofStem "_") "\",shape=circle]\r\n_0 -> _0\n\x7d\\",
        Item.drawn { source := "_0", target := "ghost", options := "[label=\"\"]" }],
      item.IsReadable := by decide
  have read := read?_wrap_fragments _ readable .off
  exact read

end DotScribe.Document
