import DotScribe.Proofs.Label.Encoding

/-!
# Where a label is closed

The scan for the quote that closes a label goes through it in strides: one character, or a
backslash with the character behind it. A label that can be cut into strides is closed by the quote
that is put behind it. In any other label a stride would have to begin with a quote, which closes
the label too early, or with the last character, a backslash, which takes the closing quote along.

An escaped label is made of strides, whatever the label is.
-/

namespace DotScribe.Label

/-! ## Strides -/

/-- What the scan for the closing quote goes through at once. -/
inductive IsStride : List Char → Prop
  | plain {c : Char} (free : c ∉ ['\\', '"']) : IsStride [c]
  | escaped (c : Char) : IsStride ['\\', c]

/-- The text is a concatenation of strides. -/
def MadeOfStrides (text : List Char) : Prop :=
  ∃ strides : List (List Char), (∀ stride ∈ strides, IsStride stride) ∧ strides.flatten = text

theorem madeOfStrides_nil : MadeOfStrides [] :=
  ⟨[], by simp, rfl⟩

theorem MadeOfStrides.cons {stride text : List Char} (first : IsStride stride)
    (others : MadeOfStrides text) : MadeOfStrides (stride ++ text) := by
  obtain ⟨strides, each, rfl⟩ := others
  exact ⟨stride :: strides, List.forall_mem_cons.2 ⟨first, each⟩, List.flatten_cons⟩

theorem scan?_mark (mark : Char) (rest : List Char) :
    scan? ('\\' :: mark :: rest) =
      (scan? rest).map fun found => ('\\' :: mark :: found.1, found.2) := by
  simp [scan?]

theorem scan?_plain {c : Char} (noBackslash : c ≠ '\\') (noQuote : c ≠ '"') (rest : List Char) :
    scan? (c :: rest) = (scan? rest).map fun found => (c :: found.1, found.2) := by
  simp [scan?, noBackslash]

theorem scan?_stride {stride : List Char} (isStride : IsStride stride) (rest : List Char) :
    scan? (stride ++ rest) = (scan? rest).map fun found => (stride ++ found.1, found.2) := by
  cases isStride with
  | @plain c free =>
    obtain ⟨noBackslash, noQuote⟩ : c ≠ '\\' ∧ c ≠ '"' := by simpa using free
    exact scan?_plain noBackslash noQuote rest
  | escaped c => exact scan?_mark c rest

/-- The scan goes through strides without stopping, and then on into what follows them. -/
theorem scan?_append {text : List Char} (strides : MadeOfStrides text) (rest : List Char) :
    scan? (text ++ rest) = (scan? rest).map fun found => (text ++ found.1, found.2) := by
  obtain ⟨strides, each, rfl⟩ := strides
  induction strides with
  | nil => simp
  | cons stride strides inductionHypothesis =>
    obtain ⟨first, others⟩ := List.forall_mem_cons.1 each
    rw [List.flatten_cons, List.append_assoc, scan?_stride first, inductionHypothesis others,
      Option.map_map]
    simp only [Function.comp_def, List.append_assoc]

/-- The scan of strides stops at the quote behind them. -/
theorem scan?_append_quote {text : List Char} (strides : MadeOfStrides text) (rest : List Char) :
    scan? (text ++ '"' :: rest) = some (text, rest) := by
  rw [scan?_append strides, scan?, Option.map_some, List.append_nil]

/-- Behind strides stands something that begins none: a quote, or a backslash at the end. -/
def GetsStuck (text : List Char) : Prop :=
  ∃ front, MadeOfStrides front ∧ ((∃ rest, text = front ++ '"' :: rest) ∨ text = front ++ ['\\'])

theorem GetsStuck.cons {stride text : List Char} (first : IsStride stride)
    (stuck : GetsStuck text) : GetsStuck (stride ++ text) := by
  obtain ⟨front, strides, ⟨rest, rfl⟩ | rfl⟩ := stuck
  · exact ⟨stride ++ front, strides.cons first, .inl ⟨rest, (List.append_assoc _ _ _).symm⟩⟩
  · exact ⟨stride ++ front, strides.cons first, .inr (List.append_assoc _ _ _).symm⟩

theorem madeOfStrides_or_getsStuck (text : List Char) : MadeOfStrides text ∨ GetsStuck text := by
  fun_induction scan? text with
  | case1 => exact .inl madeOfStrides_nil
  | case2 rest => exact .inr ⟨[], madeOfStrides_nil, .inl ⟨rest, rfl⟩⟩
  | case3 c rest inductionHypothesis =>
    exact inductionHypothesis.imp (.cons (.escaped c)) (.cons (.escaped c))
  | case4 rest _ noNext =>
    cases rest with
    | nil => exact .inr ⟨[], madeOfStrides_nil, .inr rfl⟩
    | cons c rest => exact absurd rfl (noNext c rest rfl)
  | case5 c rest noQuote _ noBackslash inductionHypothesis =>
    have first : IsStride [c] := .plain (by simpa using ⟨noBackslash, noQuote⟩)
    exact inductionHypothesis.imp (.cons first) (.cons first)

theorem MadeOfStrides.not_append_quote {front : List Char} (strides : MadeOfStrides front)
    (rest : List Char) : ¬ MadeOfStrides (front ++ '"' :: rest) := by
  intro whole
  have early := scan?_append_quote strides (rest ++ ['"'])
  have late := scan?_append_quote whole []
  rw [List.append_assoc, List.cons_append, early] at late
  simp at late

/-- A text is made of strides if the scan of it stops at a quote that is put behind it. -/
theorem madeOfStrides_iff_scan? {text : List Char} :
    MadeOfStrides text ↔ scan? (text ++ ['"']) = some (text, []) := by
  constructor
  · intro strides
    exact scan?_append_quote strides []
  · intro scanned
    obtain strides | ⟨front, strides, ⟨rest, rfl⟩ | rfl⟩ := madeOfStrides_or_getsStuck text
    · exact strides
    · rw [List.append_assoc, List.cons_append, scan?_append_quote strides] at scanned
      simp at scanned
    · rw [List.append_assoc, scan?_append strides] at scanned
      cases scanned

instance (text : List Char) : Decidable (MadeOfStrides text) :=
  decidable_of_iff _ madeOfStrides_iff_scan?.symm

/-! ## Escaped labels -/

theorem madeOfStrides_encode (text : List Char) : MadeOfStrides (encode text) := by
  induction text with
  | nil => exact madeOfStrides_nil
  | cons c text inductionHypothesis =>
    rw [encode_cons]
    obtain ⟨-, written⟩ | ⟨plain, written⟩ | ⟨-, mark, -, written⟩ := encodeChar_cases c
    · rw [written]
      exact inductionHypothesis
    · obtain ⟨backslash, quote, -⟩ := ne_of_plain plain
      rw [written]
      exact inductionHypothesis.cons (.plain (by simpa using ⟨backslash, quote⟩))
    · rw [written]
      exact inductionHypothesis.cons (.escaped mark)

/-- The scan of an escaped label stops at the quote that was put behind it, whatever follows. -/
theorem scan?_encode (text rest : List Char) :
    scan? (encode text ++ '"' :: rest) = some (encode text, rest) :=
  scan?_append_quote (madeOfStrides_encode text) rest

end DotScribe.Label
