import DotScribe.Proofs.Label.Encoding

/-!
# Escaped texts are exactly the decoded ones

A text is made of units if it can be cut into plain characters and backslashes with their marks.
Escaping makes such texts, reading refuses all others, and what was read escapes to the text that
was read. So every text made of units is the escape of a label, and of one label only, if labels
that differ in carriage returns count as one.
-/

namespace DotScribe.Label

/-- A unit: a plain character, or a backslash and the mark behind it. -/
inductive IsUnit : List Char → Prop
  | plain {c : Char} (free : c ∉ ['\\', '"', '\n', '\r', '<', '>']) : IsUnit [c]
  | marked {mark : Char} (mem : mark ∈ ['\\', '"', 'n', '<', '>']) : IsUnit ['\\', mark]

/-- The text is a concatenation of units. -/
def MadeOfUnits (text : List Char) : Prop :=
  ∃ units : List (List Char), (∀ unit ∈ units, IsUnit unit) ∧ units.flatten = text

/-! ## Units -/

theorem isReserved_eq_false_iff {c : Char} :
    isReserved c = false ↔ c ∉ ['\\', '"', '\n', '\r', '<', '>'] := by
  simp [isReserved, and_assoc]

/-- The marks are those behind which a character can be read. -/
theorem exists_decodeMark?_iff {mark : Char} :
    (∃ c, decodeMark? mark = some c) ↔ mark ∈ ['\\', '"', 'n', '<', '>'] := by
  constructor
  · rintro ⟨c, read⟩
    unfold decodeMark? at read
    split at read
    · next same => simp [same]
    · split at read
      · next listed => rcases listed with rfl | rfl | rfl | rfl <;> decide
      · cases read
  · intro listed
    simp only [List.mem_cons, List.not_mem_nil, or_false] at listed
    rcases listed with rfl | rfl | rfl | rfl | rfl <;> exact ⟨_, rfl⟩

theorem madeOfUnits_iff_isEncoded {text : List Char} : MadeOfUnits text ↔ IsEncoded text := by
  constructor
  · rintro ⟨units, each, rfl⟩
    induction units with
    | nil => exact .nil
    | cons unit units inductionHypothesis =>
      obtain ⟨first, others⟩ := List.forall_mem_cons.1 each
      have tail : IsEncoded units.flatten := inductionHypothesis others
      cases first with
      | plain free => exact .plain (isReserved_eq_false_iff.2 free) tail
      | marked mem =>
        obtain ⟨c, read⟩ := exists_decodeMark?_iff.2 mem
        exact .marked read tail
  · intro encoded
    induction encoded with
    | nil => exact ⟨[], by simp, rfl⟩
    | plain free _ inductionHypothesis =>
      obtain ⟨units, each, rfl⟩ := inductionHypothesis
      have first : IsUnit [_] := .plain (isReserved_eq_false_iff.1 free)
      exact ⟨_ :: units, List.forall_mem_cons.2 ⟨first, each⟩, rfl⟩
    | marked read _ inductionHypothesis =>
      obtain ⟨units, each, rfl⟩ := inductionHypothesis
      have first : IsUnit ['\\', _] := .marked (exists_decodeMark?_iff.1 ⟨_, read⟩)
      exact ⟨_ :: units, List.forall_mem_cons.2 ⟨first, each⟩, rfl⟩

/-! ## What is written is made of units -/

theorem isEncoded_encode (text : List Char) : IsEncoded (encode text) := by
  induction text with
  | nil => exact .nil
  | cons c rest inductionHypothesis =>
    rw [encode_cons]
    obtain ⟨-, written⟩ | ⟨plain, written⟩ | ⟨-, mark, read, written⟩ := encodeChar_cases c
    · rw [written]
      exact inductionHypothesis
    · rw [written]
      exact .plain plain inductionHypothesis
    · rw [written]
      exact .marked read inductionHypothesis

/-! ## What is made of units is read -/

/-- Each mark stands for one character. -/
theorem decodeMark?_cases {mark c : Char} (read : decodeMark? mark = some c) :
    (mark = '\\' ∧ c = '\\') ∨ (mark = '"' ∧ c = '"') ∨ (mark = 'n' ∧ c = '\n') ∨
      (mark = '<' ∧ c = '<') ∨ (mark = '>' ∧ c = '>') := by
  have listed : mark ∈ ['\\', '"', 'n', '<', '>'] := exists_decodeMark?_iff.1 ⟨c, read⟩
  simp only [List.mem_cons, List.not_mem_nil, or_false] at listed
  obtain rfl | rfl | rfl | rfl | rfl := listed <;> cases read <;> decide

theorem encodeChar_of_decodeMark? {mark c : Char} (read : decodeMark? mark = some c) :
    encodeChar c = ['\\', mark] ∧ c ≠ '\r' := by
  obtain ⟨rfl, rfl⟩ | ⟨rfl, rfl⟩ | ⟨rfl, rfl⟩ | ⟨rfl, rfl⟩ | ⟨rfl, rfl⟩ := decodeMark?_cases read <;>
    decide

/-- A text made of units is read, and what was read is written as that text again. -/
theorem exists_decode?_of_isEncoded {text : List Char} (encoded : IsEncoded text) :
    ∃ label, decode? text = some label ∧ '\r' ∉ label ∧ encode label = text := by
  induction encoded with
  | nil => exact ⟨[], rfl, List.not_mem_nil, rfl⟩
  | @plain c rest plain _ inductionHypothesis =>
    obtain ⟨label, read, noReturn, rfl⟩ := inductionHypothesis
    have differs : '\r' ≠ c := Ne.symm (ne_of_plain plain).2.2.2.1
    refine ⟨c :: label, ?_, List.not_mem_cons_of_ne_of_not_mem differs noReturn, ?_⟩
    · rw [decode?_plain plain, read, Option.map_some]
    · rw [encode_cons, encodeChar_of_plain plain, List.singleton_append]
  | @marked mark c rest found _ inductionHypothesis =>
    obtain ⟨label, read, noReturn, rfl⟩ := inductionHypothesis
    obtain ⟨written, differs⟩ := encodeChar_of_decodeMark? found
    refine ⟨c :: label, ?_, List.not_mem_cons_of_ne_of_not_mem (Ne.symm differs) noReturn, ?_⟩
    · rw [decode?_mark found, read, Option.map_some]
    · rw [encode_cons, written, List.cons_append, List.singleton_append]

theorem isEncoded_of_decode? {text label : List Char} (read : decode? text = some label) :
    IsEncoded text := by
  fun_induction decode? text generalizing label with
  | case1 => exact .nil
  | case2 mark rest c found inductionHypothesis =>
    obtain ⟨tail, readTail, -⟩ := Option.map_eq_some_iff.1 read
    exact .marked found (inductionHypothesis readTail)
  | case3 => cases read
  | case4 => cases read
  | case5 c rest _ free inductionHypothesis =>
    obtain ⟨tail, readTail, -⟩ := Option.map_eq_some_iff.1 read
    exact .plain (Bool.eq_false_iff.2 free) (inductionHypothesis readTail)

theorem isSome_decode?_iff {text : List Char} : (decode? text).isSome ↔ IsEncoded text := by
  rw [Option.isSome_iff_exists]
  constructor
  · rintro ⟨label, read⟩
    exact isEncoded_of_decode? read
  · intro encoded
    obtain ⟨label, read, -⟩ := exists_decode?_of_isEncoded encoded
    exact ⟨label, read⟩

instance (text : List Char) : Decidable (MadeOfUnits text) :=
  decidable_of_iff ((decode? text).isSome = true)
    (isSome_decode?_iff.trans madeOfUnits_iff_isEncoded.symm)

/-! ## Which labels are written alike -/

theorem encode_withoutReturns (text : List Char) : encode (withoutReturns text) = encode text := by
  induction text with
  | nil => rfl
  | cons c rest inductionHypothesis =>
    by_cases same : c = '\r'
    · subst same
      exact inductionHypothesis
    · have kept : withoutReturns (c :: rest) = c :: withoutReturns rest := by
        simp [withoutReturns, same]
      rw [kept, encode_cons, encode_cons, inductionHypothesis]

theorem encode_eq_encode_iff {first second : List Char} :
    encode first = encode second ↔ withoutReturns first = withoutReturns second := by
  constructor
  · intro same
    have read := congrArg decode? same
    rw [decode?_encode, decode?_encode] at read
    exact Option.some.inj read
  · intro same
    rw [← encode_withoutReturns first, same, encode_withoutReturns]

/-! ## Escaping and reading -/

theorem escape_eq_ofList_encode (label : String) :
    escape label = String.ofList (encode label.toList) := by
  rw [escape, escapeChars_eq_encode]

theorem madeOfUnits_escape (label : String) : MadeOfUnits (escape label).toList := by
  rw [toList_escape, escapeChars_eq_encode, madeOfUnits_iff_isEncoded]
  exact isEncoded_encode label.toList

theorem exists_escape_eq_of_madeOfUnits {text : String} (units : MadeOfUnits text.toList) :
    ∃ label : String, decode? text.toList = some label.toList ∧ '\r' ∉ label.toList ∧
      escape label = text := by
  obtain ⟨label, read, noReturn, written⟩ :=
    exists_decode?_of_isEncoded (madeOfUnits_iff_isEncoded.1 units)
  refine ⟨String.ofList label, ?_⟩
  rw [escape_eq_ofList_encode, String.toList_ofList, written, String.ofList_toList]
  exact ⟨read, noReturn, rfl⟩

/-- Escaping and reading undo each other, up to carriage returns on the one side and on texts made
    of units on the other. -/
theorem escape_inverts_decode :
    (∀ label : String, MadeOfUnits (escape label).toList ∧
      decode? (escape label).toList = some (withoutReturns label.toList)) ∧
    (∀ text : String, MadeOfUnits text.toList →
      ∃ label : String, decode? text.toList = some label.toList ∧ '\r' ∉ label.toList ∧
        escape label = text) ∧
    (∀ text : String, ¬ MadeOfUnits text.toList → decode? text.toList = none) ∧
    (∀ text : String, (∃ label, escape label = text) ↔ MadeOfUnits text.toList) ∧
    ∀ first second : String,
      escape first = escape second ↔
        withoutReturns first.toList = withoutReturns second.toList := by
  refine ⟨?_, fun text => exists_escape_eq_of_madeOfUnits, ?_, ?_, ?_⟩
  · intro label
    refine ⟨madeOfUnits_escape label, ?_⟩
    rw [toList_escape, escapeChars_eq_encode, decode?_encode]
  · intro text refused
    rw [madeOfUnits_iff_isEncoded, ← isSome_decode?_iff] at refused
    exact Option.not_isSome_iff_eq_none.1 refused
  · intro text
    constructor
    · rintro ⟨label, rfl⟩
      exact madeOfUnits_escape label
    · intro units
      obtain ⟨label, -, -, written⟩ := exists_escape_eq_of_madeOfUnits units
      exact ⟨label, written⟩
  · intro first second
    rw [escape_eq_ofList_encode, escape_eq_ofList_encode, String.ofList_inj, encode_eq_encode_iff]

/-- A quote, a line feed and a backslash before an `n` are read back, a lone backslash is not. -/
theorem escape_inverts_decode_backslashes :
    MadeOfUnits "\\\"\\n\\\\n".toList ∧
      (∃ label : String, decode? "\\\"\\n\\\\n".toList = some label.toList ∧
        '\r' ∉ label.toList ∧ escape label = "\\\"\\n\\\\n") ∧
      ¬ MadeOfUnits "n\\".toList ∧ decode? "n\\".toList = none := by
  obtain ⟨-, read, refused, -⟩ := escape_inverts_decode
  have units : MadeOfUnits "\\\"\\n\\\\n".toList := by decide
  have noUnits : ¬ MadeOfUnits "n\\".toList := by decide
  exact ⟨units, read _ units, noUnits, refused _ noUnits⟩

end DotScribe.Label
