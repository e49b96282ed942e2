import DotScribe.Proofs.Node.Numeral
import Mathlib.Data.Finset.Card

/-!
# Equal identifiers and equal nodes

An identifier keeps a name and a number, and a node an identifier and a declaration. The stem and
the label that they were made from are not kept, and neither a name nor a declaration tells where
its parts meet. Together they tell all of it: the number tells how much of the name is numeral,
and the name tells how much of the declaration stands in front of the label.
-/

namespace DotScribe

/-! ## Counting different values -/

namespace Census

variable {α β : Type} [DecidableEq α] [DecidableEq β]

/-- There are as many classes of equal values as elements in the set of all values. -/
theorem distinct_eq_card (values : List α) : distinct values = values.toFinset.card := by
  match values with
  | [] => rfl
  | value :: others =>
    have shorter : (others.filter fun other => !other == value).length < others.length + 1 :=
      Nat.lt_succ_of_le (List.length_filter_le _ others)
    -- The class of the first value is taken out whole, so it is counted once.
    have remaining : (others.filter fun other => !other == value).toFinset =
        (value :: others).toFinset.erase value := by
      rw [List.toFinset_cons, Finset.erase_insert_eq_erase]
      ext other
      simp [and_comm]
    rw [distinct_cons, distinct_eq_card (others.filter fun other => !other == value), remaining,
      Finset.card_erase_add_one (List.mem_toFinset.2 List.mem_cons_self)]
termination_by values.length

theorem toFinset_map (f : α → β) (values : List α) :
    (values.map f).toFinset = values.toFinset.image f :=
  Multiset.toFinset_map f values

theorem distinct_map_of_injective {f : α → β} (injective : Function.Injective f)
    (values : List α) : distinct (values.map f) = values.toFinset.card := by
  rw [distinct_eq_card, toFinset_map, Finset.card_image_of_injective _ injective]

theorem card_toFinset_map_le_distinct (f : α → β) (values : List α) :
    (values.map f).toFinset.card ≤ distinct values := by
  rw [distinct_eq_card, toFinset_map]
  exact Finset.card_image_le

end Census

/-! ## Identifiers -/

namespace NodeId

theorem ofIndex_inj {p q : String} {i j : UInt64} :
    ofIndex p i = ofIndex q j ↔ p = q ∧ i = j := by
  constructor
  · intro same
    have index : i = j := congrArg NodeId.index same
    have name : (ofIndex p i).name = (ofIndex q j).name := congrArg NodeId.name same
    -- Both names end in the numeral of the one number, and what stands in front is the stem.
    subst index
    rw [name_ofIndex, name_ofIndex, String.append_left_inj] at name
    exact ⟨name, rfl⟩
  · rintro ⟨rfl, rfl⟩
    rfl

theorem ofIndex_injective2 : Function.Injective2 ofIndex :=
  fun _ _ _ _ => ofIndex_inj.1

/-- A name does not tell how many of the digits at its end are the numeral. -/
theorem not_exists_read_name :
    ¬ ∃ read : String → String × UInt64,
      ∀ (stem : String) (index : UInt64), read (ofIndex stem index).name = (stem, index) := by
  rintro ⟨read, reads⟩
  have oneName : (ofIndex "x" 10).name = (ofIndex "x1" 0).name :=
    name_eq_iff.2 (.inr ⟨"1", by decide, .inl (by decide)⟩)
  have origins := reads "x" 10
  rw [oneName, reads "x1" 0] at origins
  revert origins
  decide

end NodeId

namespace Node

/-! ## Declarations -/

theorem declaration_eq_iff_append {first second : NodeId} {l m : String} :
    (declare first l).declaration = (declare second m).declaration ↔
      first.name.toList ++ (labelOpening.toList ++ l.toList) =
        second.name.toList ++ (labelOpening.toList ++ m.toList) := by
  rw [declaration_declare, declaration_declare, String.append_left_inj, String.append_left_inj,
    ← String.toList_inj]
  simp only [String.toList_append, List.append_assoc]

/-- A second opening of a label does not begin within the first one. -/
theorem eq_nil_or_behind_opening {extra rest tail : List Char}
    (same : labelOpening.toList ++ rest = extra ++ (labelOpening.toList ++ tail)) :
    extra = [] ∨ ∃ between, extra = labelOpening.toList ++ between ∧
      rest = between ++ (labelOpening.toList ++ tail) := by
  have noBlank : ' ' ∉ labelOpening.toList.tail := by decide
  obtain ⟨between, longer, behind⟩ | ⟨common, opening, behind⟩ := List.append_eq_append_iff.1 same
  · exact .inr ⟨between, longer, behind⟩
  · cases extra with
    | nil => exact .inl rfl
    | cons c extra =>
      cases common with
      | nil =>
        rw [List.append_nil] at opening
        rw [List.nil_append] at behind
        exact .inr ⟨[], by rw [opening, List.append_nil], behind.symm⟩
      | cons d common =>
        -- The second opening would begin with a blank of the first one, which has no other blank
        -- than the one it begins with.
        have blank : ' ' = d := Option.some.inj (congrArg List.head? behind)
        have inTail : d ∈ labelOpening.toList.tail := by
          rw [opening]
          exact List.mem_append_right extra List.mem_cons_self
        exact absurd (blank ▸ inTail) noBlank

/-- The characters by which one name is longer are an opening and the beginning of the other
    label. -/
theorem eq_or_longer_name {p q l m : String} {extra : List Char}
    (names : q.toList = p.toList ++ extra)
    (labels : labelOpening.toList ++ l.toList = extra ++ (labelOpening.toList ++ m.toList)) :
    (p = q ∧ l = m) ∨
      ∃ between, q = p ++ labelOpening ++ between ∧ l = between ++ labelOpening ++ m := by
  obtain rfl | ⟨between, rfl, behind⟩ := eq_nil_or_behind_opening labels
  · rw [List.append_nil] at names
    rw [List.nil_append] at labels
    exact .inl ⟨String.toList_injective names.symm,
      String.toList_injective (List.append_cancel_left labels)⟩
  · refine .inr ⟨String.ofList between, ?_, ?_⟩
    · exact String.toList_injective (by simpa using names)
    · exact String.toList_injective (by simpa using behind)

/-- Declarations agree if name and label do, or if one has in its name what the other has as the
    opening and the beginning of its label. -/
theorem declaration_eq_iff {first second : NodeId} {l m : String} :
    (declare first l).declaration = (declare second m).declaration ↔
      (first.name = second.name ∧ l = m) ∨ ∃ between,
        (second.name = first.name ++ labelOpening ++ between ∧ l = between ++ labelOpening ++ m ∨
          first.name = second.name ++ labelOpening ++ between ∧
            m = between ++ labelOpening ++ l) := by
  rw [declaration_eq_iff_append]
  constructor
  · intro same
    obtain ⟨extra, names, labels⟩ | ⟨extra, names, labels⟩ := List.append_eq_append_iff.1 same
    · obtain equal | ⟨between, longer⟩ := eq_or_longer_name names labels
      · exact .inl equal
      · exact .inr ⟨between, .inl longer⟩
    · obtain ⟨name, label⟩ | ⟨between, longer⟩ := eq_or_longer_name names labels
      · exact .inl ⟨name.symm, label.symm⟩
      · exact .inr ⟨between, .inr longer⟩
  · rintro (⟨name, rfl⟩ | ⟨between, ⟨name, rfl⟩ | ⟨name, rfl⟩⟩)
    · rw [name]
    · simp [name]
    · simp [name]

/-- A declaration does not tell which of the openings in it belongs to the label. -/
theorem not_exists_read_declaration :
    ¬ ∃ read : String → String × String,
      ∀ (stem : String) (index : UInt64) (label : String),
        read (declare (NodeId.ofIndex stem index) label).declaration =
          ((NodeId.ofIndex stem index).name, label) := by
  rintro ⟨read, reads⟩
  have oneDeclaration : (declare (NodeId.ofIndex "x" 0) ("0" ++ labelOpening ++ "")).declaration =
      (declare (NodeId.ofIndex ("x0" ++ labelOpening) 0) "").declaration :=
    declaration_eq_iff.2 (.inr ⟨"0", .inl ⟨rfl, rfl⟩⟩)
  have parts := reads "x" 0 ("0" ++ labelOpening ++ "")
  rw [oneDeclaration, reads] at parts
  revert parts
  decide

/-! ## Nodes -/

theorem declare_inj {first second : NodeId} {l m : String} :
    declare first l = declare second m ↔ first = second ∧ l = m := by
  constructor
  · intro same
    have identifier : first = second := congrArg Node.id same
    have declaration := congrArg Node.declaration same
    -- With one name in front, both labels begin in the same place.
    subst identifier
    rw [declaration_eq_iff_append, List.append_cancel_left_eq, List.append_cancel_left_eq]
      at declaration
    exact ⟨rfl, String.toList_injective declaration⟩
  · rintro ⟨rfl, rfl⟩
    rfl

/-- Identifiers are equal if and only if their stems and numbers are, and nodes if and only if
    their labels are as well. Names alone do not tell this, and neither do declarations, since an
    opening within one name can be taken for the one behind a shorter name. So identifiers are
    counted as the pairs that they are made of, and there are no more names than that. -/
theorem equal_iff_made_alike :
    (∀ (p q : String) (i j : UInt64),
      NodeId.ofIndex p i = NodeId.ofIndex q j ↔ p = q ∧ i = j) ∧
    (∀ (p q : String) (i j : UInt64) (l m : String),
      declare (NodeId.ofIndex p i) l = declare (NodeId.ofIndex q j) m ↔
        p = q ∧ i = j ∧ l = m) ∧
    (¬ ∃ read : String → String × UInt64, ∀ (stem : String) (index : UInt64),
      read (NodeId.ofIndex stem index).name = (stem, index)) ∧
    (¬ ∃ read : String → String × String, ∀ (stem : String) (index : UInt64) (label : String),
      read (declare (NodeId.ofIndex stem index) label).declaration =
        ((NodeId.ofIndex stem index).name, label)) ∧
    (∀ (first second : NodeId) (l m : String),
      (declare first l).declaration = (declare second m).declaration ↔
        (first.name = second.name ∧ l = m) ∨ ∃ between,
          (second.name = first.name ++ labelOpening ++ between ∧
              l = between ++ labelOpening ++ m ∨
            first.name = second.name ++ labelOpening ++ between ∧
              m = between ++ labelOpening ++ l)) ∧
    ∀ origins : List (String × UInt64),
      Census.distinct (origins.map (Function.uncurry NodeId.ofIndex)) = origins.toFinset.card ∧
      ((origins.map (Function.uncurry NodeId.ofIndex)).map NodeId.name).toFinset.card ≤
        Census.distinct (origins.map (Function.uncurry NodeId.ofIndex)) := by
  refine ⟨?identifiers, ?nodes, NodeId.not_exists_read_name, not_exists_read_declaration,
    ?declarations, ?counts⟩
  case identifiers => exact fun p q i j => NodeId.ofIndex_inj
  case nodes =>
    intro p q i j l m
    rw [declare_inj, NodeId.ofIndex_inj, and_assoc]
  case declarations => exact fun first second l m => declaration_eq_iff
  case counts =>
    intro origins
    exact ⟨Census.distinct_map_of_injective NodeId.ofIndex_injective2.uncurry origins,
      Census.card_toFinset_map_le_distinct NodeId.name _⟩

/-- Three identifiers with one name, two of which are equal. -/
example :
    Census.distinct [NodeId.ofIndex "x" 10, NodeId.ofIndex "x1" 0, NodeId.ofIndex "x" 10] = 2 ∧
      Census.distinct [(NodeId.ofIndex "x" 10).name, (NodeId.ofIndex "x1" 0).name] = 1 := by
  decide

end Node

end DotScribe
