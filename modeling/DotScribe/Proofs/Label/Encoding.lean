import DotScribe.Label

/-!
# Escaped labels are read back

The six substitutions of `Label.escape` act as one substitution of single characters, because no
later one touches what an earlier one put in. Reading the units of the outcome gives the label
without its carriage returns.
-/

namespace DotScribe.Label

/-! ## One character -/

theorem ne_of_plain {c : Char} (plain : isReserved c = false) :
    c ≠ '\\' ∧ c ≠ '"' ∧ c ≠ '\n' ∧ c ≠ '\r' ∧ c ≠ '<' ∧ c ≠ '>' := by
  simpa [isReserved, and_assoc] using plain

theorem reserved_cases {c : Char} (reserved : isReserved c = true) :
    c = '\\' ∨ c = '"' ∨ c = '\n' ∨ c = '\r' ∨ c = '<' ∨ c = '>' := by
  simpa [isReserved, or_assoc] using reserved

theorem encodeChar_of_plain {c : Char} (plain : isReserved c = false) : encodeChar c = [c] := by
  obtain ⟨backslash, quote, feed, ret, less, greater⟩ := ne_of_plain plain
  simp only [encodeChar, backslash, quote, feed, ret, less, greater, if_false]

/-- A character is dropped, kept, or written as a backslash and its mark. -/
theorem encodeChar_cases (c : Char) :
    (c = '\r' ∧ encodeChar c = []) ∨ (isReserved c = false ∧ encodeChar c = [c]) ∨
      (c ≠ '\r' ∧ ∃ mark, decodeMark? mark = some c ∧ encodeChar c = ['\\', mark]) := by
  cases reserved : isReserved c with
  | false => exact .inr (.inl ⟨rfl, encodeChar_of_plain reserved⟩)
  | true =>
    obtain rfl | rfl | rfl | rfl | rfl | rfl := reserved_cases reserved
    · exact .inr (.inr ⟨by decide, '\\', rfl, rfl⟩)
    · exact .inr (.inr ⟨by decide, '"', rfl, rfl⟩)
    · exact .inr (.inr ⟨by decide, 'n', rfl, rfl⟩)
    · exact .inl ⟨rfl, rfl⟩
    · exact .inr (.inr ⟨by decide, '<', rfl, rfl⟩)
    · exact .inr (.inr ⟨by decide, '>', rfl, rfl⟩)

/-! ## The substitutions together -/

theorem escapeChars_singleton (c : Char) : escapeChars [c] = encodeChar c := by
  cases reserved : isReserved c with
  | false =>
    obtain ⟨backslash, quote, feed, ret, less, greater⟩ := ne_of_plain reserved
    rw [encodeChar_of_plain reserved]
    simp [escapeChars, passes, substitute, backslash, quote, feed, ret, less, greater]
  | true => obtain rfl | rfl | rfl | rfl | rfl | rfl := reserved_cases reserved <;> rfl

/-- One substitution after the other does what the simultaneous substitution does. -/
theorem escapeChars_eq_encode (text : List Char) : escapeChars text = encode text := by
  induction text with
  | nil => rfl
  | cons c rest inductionHypothesis =>
    -- Every pass works character by character, so the first one can be taken on its own.
    rw [← List.singleton_append, escapeChars_append, escapeChars_singleton, inductionHypothesis,
      List.singleton_append, encode_cons]

/-- A reserved character that is no mark does not occur in an escaped text. -/
theorem not_mem_encode {d : Char} (reserved : isReserved d = true)
    (noMark : decodeMark? d = none) (label : List Char) : d ∉ encode label := by
  intro mem
  obtain ⟨c, -, written⟩ := List.mem_flatMap.1 mem
  obtain ⟨-, nothing⟩ | ⟨plain, itself⟩ | ⟨-, mark, decoded, marked⟩ := encodeChar_cases c
  · rw [nothing] at written
    cases written
  · rw [itself, List.mem_singleton] at written
    rw [← written, reserved] at plain
    cases plain
  · rw [marked, List.mem_cons, List.mem_singleton] at written
    obtain rfl | rfl := written
    · cases noMark
    · rw [noMark] at decoded
      cases decoded

theorem newline_not_mem_encode (label : List Char) : '\n' ∉ encode label :=
  not_mem_encode rfl rfl label

theorem return_not_mem_encode (label : List Char) : '\r' ∉ encode label :=
  not_mem_encode rfl rfl label

/-! ## Reading the units -/

theorem decode?_mark {mark c : Char} (read : decodeMark? mark = some c) (rest : List Char) :
    decode? ('\\' :: mark :: rest) = (decode? rest).map (c :: ·) := by
  simp only [decode?, read]

theorem decode?_plain {c : Char} (plain : isReserved c = false) (rest : List Char) :
    decode? (c :: rest) = (decode? rest).map (c :: ·) := by
  have backslash : c ≠ '\\' := (ne_of_plain plain).1
  simp [decode?, plain, backslash]

/-- The label is read back without its carriage returns. -/
theorem decode?_encode (text : List Char) : decode? (encode text) = some (withoutReturns text) := by
  induction text with
  | nil => rfl
  | cons c rest inductionHypothesis =>
    rw [encode_cons]
    obtain ⟨rfl, written⟩ | ⟨plain, written⟩ | ⟨noReturn, mark, read, written⟩ :=
      encodeChar_cases c
    · rw [written, List.nil_append, inductionHypothesis]
      rfl
    · have noReturn : c ≠ '\r' := (ne_of_plain plain).2.2.2.1
      rw [written, List.singleton_append, decode?_plain plain, inductionHypothesis]
      simp [withoutReturns, noReturn]
    · rw [written, List.cons_append, List.singleton_append, decode?_mark read,
        inductionHypothesis]
      simp [withoutReturns, noReturn]

end DotScribe.Label
