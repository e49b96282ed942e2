import DotScribe.Text.Classes

/-!
# Parts of a text

* `Text.trim` takes the blanks off both ends of a text.
* `Text.occursIn` looks for a text within another one, and `Text.occursIn_iff` says that it finds
  exactly the runs of consecutive characters.
* `Text.fields` cuts a text at every occurrence of a separator. `Text.join_fields` says that
  nothing is lost, and `Text.sep_not_mem_fields` that no separator is left.
* `Text.length_fields` counts the fields, and a text with one or two of them is known by
  `Text.fields_eq_singleton_iff` and `Text.fields_eq_pair_iff`.
-/

namespace DotScribe.Text

/-! ## Blanks at the ends -/

def trimEnd (text : List Char) : List Char :=
  (text.reverse.dropWhile isBlank).reverse

/-- The text without the blanks at either end. -/
def trim (text : List Char) : List Char :=
  trimEnd (text.dropWhile isBlank)

/-! ## Runs of characters -/

/-- Whether the needle is a run of consecutive characters of the text. -/
def occursIn (needle : List Char) : List Char → Bool
  | [] => needle.isEmpty
  | c :: rest => needle.isPrefixOf (c :: rest) || occursIn needle rest

/-- The needle is found exactly if the text has something before it and something behind it. -/
theorem occursIn_iff {needle text : List Char} :
    occursIn needle text = true ↔ ∃ before behind, text = before ++ needle ++ behind := by
  induction text with
  | nil => simp [occursIn]
  | cons c rest inductionHypothesis =>
    simp only [occursIn, Bool.or_eq_true, List.isPrefixOf_iff_prefix, inductionHypothesis]
    constructor
    · rintro (⟨behind, same⟩ | ⟨before, behind, same⟩)
      · exact ⟨[], behind, same.symm⟩
      · exact ⟨c :: before, behind, congrArg (c :: ·) same⟩
    · rintro ⟨before, behind, same⟩
      cases before with
      | nil => exact Or.inl ⟨behind, same.symm⟩
      | cons d before =>
        simp only [List.cons_append, List.cons.injEq] at same
        exact Or.inr ⟨before, behind, same.2⟩

/-! ## Fields -/

/-- Puts a character in front of the first field. -/
def consField (c : Char) : List (List Char) → List (List Char)
  | [] => [[c]]
  | field :: fields => (c :: field) :: fields

/-- The parts of a text between separators. There is one part more than there are separators. -/
def fields (sep : Char) : List Char → List (List Char)
  | [] => [[]]
  | c :: rest => if c = sep then [] :: fields sep rest else consField c (fields sep rest)

@[simp] theorem fields_ne_nil (sep : Char) (text : List Char) : fields sep text ≠ [] := by
  cases text with
  | nil => simp [fields]
  | cons c rest =>
    simp only [fields]
    split
    · simp
    · cases fields sep rest <;> simp [consField]

theorem fields_of_not_mem {sep : Char} {text : List Char} (free : sep ∉ text) :
    fields sep text = [text] := by
  induction text with
  | nil => rfl
  | cons c rest inductionHypothesis =>
    obtain ⟨differs, free⟩ := not_or.1 (mt List.mem_cons.2 free)
    rw [fields, if_neg (Ne.symm differs), inductionHypothesis free]
    rfl

theorem fields_append_cons {sep : Char} {field : List Char} (free : sep ∉ field)
    (rest : List Char) : fields sep (field ++ sep :: rest) = field :: fields sep rest := by
  induction field with
  | nil => simp [fields]
  | cons c field inductionHypothesis =>
    obtain ⟨differs, free⟩ := not_or.1 (mt List.mem_cons.2 free)
    rw [List.cons_append, fields, if_neg (Ne.symm differs), inductionHypothesis free]
    rfl

/-- A text is its fields with the separators back between them. -/
theorem join_fields (sep : Char) (text : List Char) :
    [sep].intercalate (fields sep text) = text := by
  induction text with
  | nil => rfl
  | cons c rest inductionHypothesis =>
    obtain ⟨first, others, parts⟩ := List.exists_cons_of_ne_nil (fields_ne_nil sep rest)
    rw [parts] at inductionHypothesis
    by_cases same : c = sep
    · simp only [fields, if_pos same, parts]
      simp [List.intercalate_cons_cons, inductionHypothesis, same]
    · simp only [fields, if_neg same, parts, consField]
      rw [← inductionHypothesis]
      cases others <;> simp [List.intercalate_cons_cons]

theorem sep_not_mem_fields {sep : Char} {text field : List Char} (mem : field ∈ fields sep text) :
    sep ∉ field := by
  induction text generalizing field with
  | nil =>
    simp only [fields, List.mem_singleton] at mem
    simp [mem]
  | cons c rest inductionHypothesis =>
    obtain ⟨first, others, parts⟩ := List.exists_cons_of_ne_nil (fields_ne_nil sep rest)
    rw [parts] at inductionHypothesis
    by_cases same : c = sep
    · simp only [fields, if_pos same, parts, List.mem_cons] at mem
      rcases mem with rfl | mem
      · simp
      · exact inductionHypothesis (List.mem_cons.2 mem)
    · simp only [fields, if_neg same, parts, consField, List.mem_cons] at mem
      rcases mem with rfl | mem
      · have free := inductionHypothesis (List.mem_cons_self)
        simp [free, Ne.symm same]
      · exact inductionHypothesis (List.mem_cons_of_mem first mem)

/-! ## Few fields -/

theorem fields_eq_singleton_iff {sep : Char} {text word : List Char} :
    fields sep text = [word] ↔ text = word ∧ sep ∉ word := by
  constructor
  · intro parts
    have joined := join_fields sep text
    rw [parts, List.intercalate_singleton] at joined
    exact ⟨joined.symm, sep_not_mem_fields (parts ▸ List.mem_singleton_self word)⟩
  · rintro ⟨rfl, free⟩
    exact fields_of_not_mem free

theorem fields_eq_pair_iff {sep : Char} {text first second : List Char} :
    fields sep text = [first, second] ↔
      text = first ++ sep :: second ∧ sep ∉ first ∧ sep ∉ second := by
  constructor
  · intro parts
    have joined := join_fields sep text
    rw [parts, List.intercalate_cons_cons, List.intercalate_singleton, List.append_assoc] at joined
    have free : ∀ field ∈ [first, second], sep ∉ field :=
      fun field mem => sep_not_mem_fields (parts ▸ mem)
    exact ⟨joined.symm, free first (by simp), free second (by simp)⟩
  · rintro ⟨rfl, freeFirst, freeSecond⟩
    rw [fields_append_cons freeFirst, fields_of_not_mem freeSecond]

@[simp] theorem length_fields (sep : Char) (text : List Char) :
    (fields sep text).length = text.count sep + 1 := by
  induction text with
  | nil => rfl
  | cons c rest inductionHypothesis =>
    obtain ⟨first, others, parts⟩ := List.exists_cons_of_ne_nil (fields_ne_nil sep rest)
    by_cases same : c = sep
    · simp [fields, same, inductionHypothesis]
    · rw [parts] at inductionHypothesis
      simpa [fields, same, parts, consField] using inductionHypothesis

end DotScribe.Text
