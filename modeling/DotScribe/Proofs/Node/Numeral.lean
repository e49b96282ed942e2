import DotScribe.Node

/-!
# Stems and numerals in names

A name is a stem with a numeral behind it, and nothing marks where the one ends and the other
begins. The numeral determines its number, so names with one stem differ as their numbers do.
Names with two stems can agree only if one stem is the other with digits behind it.
-/

namespace DotScribe.NodeId

/-! ## Numerals -/

theorem isDigit_of_mem_numeral {i : UInt64} {c : Char} (mem : c ∈ (numeral i).toList) :
    c.isDigit = true := by
  rw [toList_numeral] at mem
  exact Nat.isDigit_of_mem_toDigits (by decide) (by decide) mem

theorem numeral_injective {first second : UInt64} (same : numeral first = numeral second) :
    first = second := by
  have digits : Nat.toDigits 10 first.toNat = Nat.toDigits 10 second.toNat := by
    rw [← toList_numeral, same, toList_numeral]
  have values := congrArg (fun written => Nat.ofDigitChars 10 written 0) digits
  rw [Nat.ofDigitChars_ten_toDigits, Nat.ofDigitChars_ten_toDigits] at values
  exact UInt64.toNat.inj values

/-- Names with one stem differ as their numbers do. -/
theorem index_eq_of_name_eq {stem : String} {first second : UInt64}
    (same : (ofIndex stem first).name = (ofIndex stem second).name) : first = second :=
  numeral_injective (String.append_right_inj stem |>.1 same)

/-! ## Two stems -/

/-- At least one character, and all of them digits. -/
def IsDigits (text : String) : Prop :=
  text ≠ "" ∧ ∀ c ∈ text.toList, c.isDigit = true

-- The search through the list is named, so that no search through all characters takes its place.
instance (text : String) : Decidable (IsDigits text) :=
  have : Decidable (∀ c ∈ text.toList, c.isDigit = true) := List.decidableBAll _ _
  inferInstanceAs (Decidable (_ ∧ _))

/-- The last character is a digit. -/
def EndsInDigit (stem : String) : Prop :=
  ∃ c ∈ stem.toList.getLast?, c.isDigit = true

instance (stem : String) : Decidable (EndsInDigit stem) :=
  Option.decidableExistsMem stem.toList.getLast?

theorem endsInDigit_append {stem digits : String} (isDigits : IsDigits digits) :
    EndsInDigit (stem ++ digits) := by
  obtain ⟨nonempty, allDigits⟩ := isDigits
  have some : digits.toList ≠ [] := fun empty => nonempty (String.toList_eq_nil_iff.1 empty)
  refine ⟨digits.toList.getLast some, ?_, allDigits _ (List.getLast_mem some)⟩
  rw [String.toList_append, List.getLast?_append, List.getLast?_eq_some_getLast some]
  rfl

/-- The characters by which one stem is longer are the digits by which the other numeral is. -/
theorem eq_or_longer_stem {p q : String} {i j : UInt64} {extra : List Char}
    (stems : q.toList = p.toList ++ extra)
    (numerals : (numeral i).toList = extra ++ (numeral j).toList) :
    (p = q ∧ i = j) ∨
      ∃ digits, IsDigits digits ∧ q = p ++ digits ∧ numeral i = digits ++ numeral j := by
  cases extra with
  | nil =>
    rw [List.append_nil] at stems
    rw [List.nil_append] at numerals
    exact .inl ⟨String.toList_injective stems.symm,
      numeral_injective (String.toList_injective numerals)⟩
  | cons c extra =>
    refine .inr ⟨String.ofList (c :: extra), ⟨by simp, ?_⟩, ?_, ?_⟩
    · intro d mem
      apply isDigit_of_mem_numeral (i := i)
      rw [numerals]
      exact List.mem_append_left _ (by simpa using mem)
    · exact String.toList_injective (by simpa using stems)
    · exact String.toList_injective (by simpa using numerals)

/-- Names agree if stem and number do, or if digits have moved from one to the other. -/
theorem name_eq_iff {p q : String} {i j : UInt64} :
    (ofIndex p i).name = (ofIndex q j).name ↔
      (p = q ∧ i = j) ∨ ∃ digits, IsDigits digits ∧
        (q = p ++ digits ∧ numeral i = digits ++ numeral j ∨
          p = q ++ digits ∧ numeral j = digits ++ numeral i) := by
  constructor
  · intro same
    have characters : p.toList ++ (numeral i).toList = q.toList ++ (numeral j).toList := by
      simpa only [name_ofIndex, String.toList_append] using congrArg String.toList same
    -- One text is cut in two places. What stands between them ends one stem and begins the
    -- other numeral, so it is made of digits.
    obtain ⟨extra, stems, numerals⟩ | ⟨extra, stems, numerals⟩ :=
      List.append_eq_append_iff.1 characters
    · obtain equal | ⟨digits, isDigits, moved⟩ := eq_or_longer_stem stems numerals
      · exact .inl equal
      · exact .inr ⟨digits, isDigits, .inl moved⟩
    · obtain ⟨stem, index⟩ | ⟨digits, isDigits, moved⟩ := eq_or_longer_stem stems numerals
      · exact .inl ⟨stem.symm, index.symm⟩
      · exact .inr ⟨digits, isDigits, .inr moved⟩
  · rintro (⟨rfl, rfl⟩ | ⟨digits, -, ⟨rfl, moved⟩ | ⟨rfl, moved⟩⟩)
    · rfl
    · rw [name_ofIndex, name_ofIndex, moved, String.append_assoc]
    · rw [name_ofIndex, name_ofIndex, moved, String.append_assoc]

/-- Stems that do not end in a digit keep their names apart. -/
theorem stem_eq_of_name_eq {p q : String} {i j : UInt64} (pEnd : ¬ EndsInDigit p)
    (qEnd : ¬ EndsInDigit q) (same : (ofIndex p i).name = (ofIndex q j).name) : p = q := by
  obtain ⟨stem, -⟩ | ⟨digits, isDigits, ⟨rfl, -⟩ | ⟨rfl, -⟩⟩ := name_eq_iff.1 same
  · exact stem
  · exact absurd (endsInDigit_append isDigits) qEnd
  · exact absurd (endsInDigit_append isDigits) pEnd

end DotScribe.NodeId
