import DotScribe.Node
import DotScribe.Proofs.Label.Strides
import Mathlib.Algebra.Ring.Parity
import Mathlib.Data.List.DropRight

/-!
# Labels that are declared as they are

A declaration takes its label as it is, so the quote that was meant to close the label need not be
the one that does. It is if the label is made of strides, and this is a matter of parity: of the
number of backslashes in front of each quote, and of their number at the end.
-/

namespace DotScribe

namespace Label

/-! ## Backslashes in a row -/

/-- How many backslashes the text ends with. -/
def backslashesAtEnd (text : List Char) : Nat :=
  (text.rtakeWhile (· == '\\')).length

theorem backslashesAtEnd_concat_backslash (text : List Char) :
    backslashesAtEnd (text ++ ['\\']) = backslashesAtEnd text + 1 := by
  rw [backslashesAtEnd, List.rtakeWhile_concat_pos _ _ _ rfl, List.length_append]
  rfl

theorem backslashesAtEnd_concat {c : Char} (differs : c ≠ '\\') (text : List Char) :
    backslashesAtEnd (text ++ [c]) = 0 := by
  rw [backslashesAtEnd, List.rtakeWhile_concat_neg _ _ _ (by simpa using differs)]
  rfl

/-- Backslashes at the end of strides are strides in pairs. -/
theorem MadeOfStrides.even_backslashesAtEnd {text : List Char} (strides : MadeOfStrides text) :
    Even (backslashesAtEnd text) := by
  obtain ⟨strides, each, rfl⟩ := strides
  -- From the last stride backwards, since only a pair of backslashes leads further back.
  induction strides using List.reverseRecOn with
  | nil => exact Even.zero
  | append_singleton strides last inductionHypothesis =>
    have lastStride : IsStride last :=
      each last (List.mem_append_right _ (List.mem_singleton_self _))
    have even : Even (backslashesAtEnd strides.flatten) :=
      inductionHypothesis fun stride mem => each stride (List.mem_append_left _ mem)
    rw [List.flatten_append, List.flatten_singleton]
    cases lastStride with
    | @plain c free =>
      have differs : c ≠ '\\' := by
        rintro rfl
        exact free List.mem_cons_self
      rw [backslashesAtEnd_concat differs]
      exact Even.zero
    | escaped c =>
      rw [← List.singleton_append, ← List.append_assoc]
      by_cases same : c = '\\'
      · rw [same, backslashesAtEnd_concat_backslash, backslashesAtEnd_concat_backslash]
        exact even.add even_two
      · rw [backslashesAtEnd_concat same]
        exact Even.zero

/-- A quote is no danger behind an odd number of backslashes, and the end is none behind an even
    number of them. -/
theorem madeOfStrides_iff_parity {text : List Char} :
    MadeOfStrides text ↔
      (∀ front rest, text = front ++ '"' :: rest → Odd (backslashesAtEnd front)) ∧
        Even (backslashesAtEnd text) := by
  constructor
  · intro strides
    refine ⟨?_, strides.even_backslashesAtEnd⟩
    rintro front rest rfl
    obtain before | ⟨far, before, ⟨between, rfl⟩ | rfl⟩ := madeOfStrides_or_getsStuck front
    · exact absurd strides (before.not_append_quote rest)
    · rw [List.append_assoc] at strides
      exact absurd strides (before.not_append_quote _)
    · rw [backslashesAtEnd_concat_backslash]
      exact before.even_backslashesAtEnd.add_one
  · rintro ⟨guarded, even⟩
    obtain strides | ⟨front, strides, ⟨rest, rfl⟩ | rfl⟩ := madeOfStrides_or_getsStuck text
    · exact strides
    · have odd : Odd (backslashesAtEnd front) := guarded front rest rfl
      exact absurd strides.even_backslashesAtEnd (Nat.not_even_iff_odd.2 odd)
    · rw [backslashesAtEnd_concat_backslash] at even
      exact absurd strides.even_backslashesAtEnd (Nat.even_add_one.1 even)

end Label

namespace Node

open Label

/-! ## The closing quote of a declaration -/

/-- What stands in a declaration behind the opening quote of its label. -/
def behindOpening (node : Node) : List Char :=
  node.declaration.toList.drop (node.id.name ++ labelOpening).length

theorem behindOpening_declare (id : NodeId) (label : String) :
    (declare id label).behindOpening = label.toList ++ '"' :: lineClosing.toList := by
  have layout : (declare id label).declaration.toList =
      (id.name ++ labelOpening).toList ++ (label.toList ++ '"' :: lineClosing.toList) := by
    simp
  rw [behindOpening, layout, id_declare, ← String.length_toList, List.drop_left]

theorem scan?_of_strides (id : NodeId) {label : String} (strides : MadeOfStrides label.toList) :
    scan? (declare id label).behindOpening = some (label.toList, lineClosing.toList) := by
  rw [behindOpening_declare, scan?_append_quote strides]

theorem scan?_of_quote (id : NodeId) {label : String} {front rest : List Char}
    (strides : MadeOfStrides front) (split : label.toList = front ++ '"' :: rest) :
    scan? (declare id label).behindOpening = some (front, rest ++ '"' :: lineClosing.toList) := by
  rw [behindOpening_declare, split, List.append_assoc, List.cons_append,
    scan?_append_quote strides]

/-- The backslash takes the closing quote along, and no other quote stands behind that one. -/
theorem scan?_of_backslash (id : NodeId) {label : String} {front : List Char}
    (strides : MadeOfStrides front) (split : label.toList = front ++ ['\\']) :
    scan? (declare id label).behindOpening = none := by
  have noQuote : scan? lineClosing.toList = none := by decide
  rw [behindOpening_declare, split, List.append_assoc, scan?_append strides,
    List.singleton_append, scan?_mark, noQuote, Option.map_none, Option.map_none]

/-- The scan of a declaration stops at the closing quote if and only if the label is made of
    strides. Otherwise it stops at a quote of the label, in front of which the backslashes are
    even in number, or at none, and then the label ends in an odd number of them. Escaped labels
    are made of strides and stay on their line. -/
theorem declaration_closes_iff (id : NodeId) (label : String) :
    ((∃ scanned, scan? (declare id label).behindOpening = some (scanned, lineClosing.toList)) ↔
      MadeOfStrides label.toList) ∧
    (¬ MadeOfStrides label.toList →
      (∃ front rest, label.toList = front ++ '"' :: rest ∧ Even (backslashesAtEnd front) ∧
        scan? (declare id label).behindOpening = some (front, rest ++ '"' :: lineClosing.toList)) ∨
      (Odd (backslashesAtEnd label.toList) ∧ scan? (declare id label).behindOpening = none)) ∧
    MadeOfStrides (escape label).toList ∧
    '\n' ∉ (escape label).toList ∧ '\r' ∉ (escape label).toList := by
  refine ⟨⟨?closed, ?strides⟩, ?otherwise, ?escaped⟩
  case closed =>
    rintro ⟨scanned, stops⟩
    obtain strides | ⟨front, strides, ⟨rest, split⟩ | split⟩ :=
      madeOfStrides_or_getsStuck label.toList
    · exact strides
    · -- Too much is left: the rest of the label and its quote stand in front of the closing.
      rw [scan?_of_quote id strides split, Option.some.injEq, Prod.mk.injEq] at stops
      have longer := congrArg List.length stops.2
      rw [List.length_append, List.length_cons] at longer
      omega
    · rw [scan?_of_backslash id strides split] at stops
      cases stops
  case strides =>
    intro strides
    exact ⟨label.toList, scan?_of_strides id strides⟩
  case otherwise =>
    intro noStrides
    obtain ⟨front, strides, ⟨rest, split⟩ | split⟩ :=
      (madeOfStrides_or_getsStuck label.toList).resolve_left noStrides
    · exact .inl ⟨front, rest, split, strides.even_backslashesAtEnd,
        scan?_of_quote id strides split⟩
    · refine .inr ⟨?_, scan?_of_backslash id strides split⟩
      rw [split, backslashesAtEnd_concat_backslash]
      exact strides.even_backslashesAtEnd.add_one
  case escaped =>
    rw [toList_escape, escapeChars_eq_encode]
    exact ⟨madeOfStrides_encode _, newline_not_mem_encode _, return_not_mem_encode _⟩

/-- A label without any quote, whose last backslash takes the closing quote along. -/
theorem declaration_closes_iff_backslashes :
    ¬ MadeOfStrides "a\\\\\\".toList ∧ Odd (backslashesAtEnd "a\\\\\\".toList) ∧
      scan? (declare (NodeId.ofIndex "x" 0) "a\\\\\\").behindOpening = none := by
  have noStrides : ¬ MadeOfStrides "a\\\\\\".toList := by decide
  have noQuote : '"' ∉ "a\\\\\\".toList := by decide
  obtain ⟨-, otherwise, -⟩ := declaration_closes_iff (NodeId.ofIndex "x" 0) "a\\\\\\"
  obtain ⟨front, rest, split, -⟩ | missed := otherwise noStrides
  · rw [split] at noQuote
    exact absurd (List.mem_append_right front List.mem_cons_self) noQuote
  · exact ⟨noStrides, missed⟩

end Node

end DotScribe
