import DotScribe.Text.Quoted

/-!
# Quoted texts are told apart and stay on their line

A quoted text says where it ends, so two texts that begin with quoted texts can agree only if they
quote the same and go on in the same way. What is quoted may look like what follows: its quotes are
escaped, so it does not end early. Its line ends are escaped as well.
-/

namespace DotScribe.Text

/-! ## Told apart -/

theorem quoted_append_inj {first second rest tail : String} :
    quoted first ++ rest = quoted second ++ tail ↔ first = second ∧ rest = tail := by
  constructor
  · intro same
    have read := congrArg (fun text : String => readQuoted? text.toList) same
    simp only [String.toList_append, toList_quoted, readQuoted?_quoted, Option.some.injEq,
      Prod.mk.injEq] at read
    exact ⟨String.toList_injective read.1, String.toList_injective read.2⟩
  · rintro ⟨rfl, rfl⟩
    rfl

theorem quoted_inj {first second : String} : quoted first = quoted second ↔ first = second := by
  have alone := @quoted_append_inj first second "" ""
  rwa [String.append_empty, String.append_empty, and_iff_left rfl] at alone

/-! ## On one line -/

/-- A character that begins a new line, or goes back to the beginning of one. -/
def IsLineEnd (c : Char) : Prop :=
  c = '\n' ∨ c = '\r'

/-- A character is written by a backslash and a letter or a mark, by its code point, or as it is.
    A line end is not written as it is. -/
theorem quotedChar_cases (c : Char) :
    (∃ mark ∈ ['0', 't', 'r', 'n', '"', '\\'], quotedChar c = ['\\', mark]) ∨
      quotedChar c = codeEscape c ∨ (c ≠ '\n' ∧ c ≠ '\r' ∧ quotedChar c = [c]) := by
  unfold quotedChar
  split
  · exact .inl ⟨'0', by decide, rfl⟩
  split
  · exact .inl ⟨'t', by decide, rfl⟩
  split
  · exact .inl ⟨'r', by decide, rfl⟩
  split
  · exact .inl ⟨'n', by decide, rfl⟩
  split
  · exact .inl ⟨'"', by decide, rfl⟩
  split
  · exact .inl ⟨'\\', by decide, rfl⟩
  next noReturn noFeed _ _ =>
    split
    · exact .inr (.inl rfl)
    · exact .inr (.inr ⟨noFeed, noReturn, rfl⟩)

variable {lineEnd : Char}

theorem lineEnd_not_mem_codeEscape (isEnd : IsLineEnd lineEnd) (c : Char) :
    lineEnd ∉ codeEscape c := by
  have noDigit : lineEnd ∉ hex c.toNat := by
    intro mem
    have digit := hexValue?_isSome_of_mem_hex mem
    obtain rfl | rfl := isEnd <;> cases digit
  have opening : lineEnd ∉ ['\\', 'u', '\x7b'] := by
    obtain rfl | rfl := isEnd <;> decide
  have closing : lineEnd ∉ ['\x7d'] := by
    obtain rfl | rfl := isEnd <;> decide
  simp only [codeEscape, List.mem_append, not_or]
  exact ⟨⟨opening, noDigit⟩, closing⟩

theorem lineEnd_not_mem_quotedChar (isEnd : IsLineEnd lineEnd) (c : Char) :
    lineEnd ∉ quotedChar c := by
  obtain ⟨mark, listed, written⟩ | written | ⟨noFeed, noReturn, written⟩ := quotedChar_cases c
  · rw [written, List.mem_cons, List.mem_singleton]
    rintro (rfl | rfl)
    · obtain backslash | backslash := isEnd <;> cases backslash
    · obtain rfl | rfl := isEnd <;> revert listed <;> decide
  · rw [written]
    exact lineEnd_not_mem_codeEscape isEnd c
  · rw [written, List.mem_singleton]
    rintro rfl
    exact isEnd.elim noFeed noReturn

/-- A quoted text is on one line, whatever it quotes. -/
theorem lineEnd_not_mem_quoted (isEnd : IsLineEnd lineEnd) (text : String) :
    lineEnd ∉ (quoted text).toList := by
  have noQuote : lineEnd ≠ '"' := by
    obtain rfl | rfl := isEnd <;> decide
  rw [toList_quoted, quotedChars, List.mem_append, List.mem_cons, List.mem_singleton,
    List.mem_flatMap]
  rintro ((opening | ⟨c, -, written⟩) | closing)
  · exact noQuote opening
  · exact lineEnd_not_mem_quotedChar isEnd c written
  · exact noQuote closing

end DotScribe.Text
