import DotScribe.Proofs.Label.Decoding
import Mathlib.Algebra.Order.BigOperators.Group.List
import Mathlib.Algebra.Order.Ring.Nat
import Mathlib.Data.List.Basic

/-!
# Escaping more than once

An escape does not know whether its text is escaped already. The backslashes that one escape puts
in are doubled by the next, so they pile up in front of every character that has to be marked, and
how many there are after so many escapes is known for each character on its own.

A label without such characters is done with after the first escape. Any other one grows with
every further escape, whether characters or bytes are counted.
-/

namespace DotScribe.Label

/-! ## One character -/

/-- The characters that are written with a backslash. -/
def marked : List Char :=
  ['\\', '"', '\n', '<', '>']

/-- How many backslashes so many escapes write for a character. There is at least one escape. -/
def backslashes (times : Nat) (c : Char) : Nat :=
  if c = '\\' then 2 ^ times
  else if c = '"' ∨ c = '<' ∨ c = '>' then 2 ^ times - 1
  else if c = '\n' then 2 ^ (times - 1)
  else 0

/-- What stands behind the backslashes, after any number of escapes. -/
def behindBackslashes (c : Char) : List Char :=
  if c = '\\' ∨ c = '\r' then []
  else if c = '\n' then ['n']
  else [c]

/-- What so many escapes make of a character. -/
def encodeCharTimes (times : Nat) (c : Char) : List Char :=
  List.replicate (backslashes times c) '\\' ++ behindBackslashes c

theorem mem_marked_iff {c : Char} :
    c ∈ marked ↔ c = '\\' ∨ c = '"' ∨ c = '\n' ∨ c = '<' ∨ c = '>' := by
  simp [marked]

theorem backslashes_of_not_mem_marked (times : Nat) {c : Char} (free : c ∉ marked) :
    backslashes times c = 0 := by
  obtain ⟨backslash, quote, feed, less, greater⟩ :
      c ≠ '\\' ∧ c ≠ '"' ∧ c ≠ '\n' ∧ c ≠ '<' ∧ c ≠ '>' := by
    simpa [marked] using free
  simp only [backslashes, backslash, quote, feed, less, greater, or_false, if_false]

theorem encodeCharTimes_of_plain (times : Nat) {c : Char} (plain : isReserved c = false) :
    encodeCharTimes times c = [c] := by
  obtain ⟨backslash, quote, feed, ret, less, greater⟩ := ne_of_plain plain
  simp only [encodeCharTimes, backslashes, behindBackslashes, backslash, quote, feed, ret, less,
    greater, or_false, if_false, List.replicate_zero, List.nil_append]

theorem encodeCharTimes_one (c : Char) : encodeCharTimes 1 c = encodeChar c := by
  cases reserved : isReserved c with
  | false => rw [encodeCharTimes_of_plain 1 reserved, encodeChar_of_plain reserved]
  | true => obtain rfl | rfl | rfl | rfl | rfl | rfl := reserved_cases reserved <;> rfl

/-- A mark gets the backslashes that its character does, those of the backslash before it apart. -/
theorem backslashes_of_decodeMark? {mark c : Char} (read : decodeMark? mark = some c)
    (times : Nat) :
    2 ^ (times + 1) + backslashes (times + 1) mark = backslashes (times + 2) c := by
  have positive : 0 < 2 ^ (times + 1) := Nat.two_pow_pos (times + 1)
  have doubled : 2 ^ (times + 2) = 2 ^ (times + 1) * 2 := Nat.pow_succ 2 (times + 1)
  have backslash : 2 ^ (times + 1) + 2 ^ (times + 1) = 2 ^ (times + 2) := by omega
  -- A quote keeps its place behind the backslashes, so that there is an odd number of them.
  have quote : 2 ^ (times + 1) + (2 ^ (times + 1) - 1) = 2 ^ (times + 2) - 1 := by omega
  obtain ⟨rfl, rfl⟩ | ⟨rfl, rfl⟩ | ⟨rfl, rfl⟩ | ⟨rfl, rfl⟩ | ⟨rfl, rfl⟩ := decodeMark?_cases read
  · exact backslash
  · exact quote
  · exact Nat.add_zero _
  · exact quote
  · exact quote

theorem behindBackslashes_of_decodeMark? {mark c : Char} (read : decodeMark? mark = some c) :
    behindBackslashes mark = behindBackslashes c := by
  obtain ⟨rfl, rfl⟩ | ⟨rfl, rfl⟩ | ⟨rfl, rfl⟩ | ⟨rfl, rfl⟩ | ⟨rfl, rfl⟩ := decodeMark?_cases read <;>
    rfl

/-- To write a character and then escape what is written is to escape it once more. -/
theorem flatMap_encodeCharTimes (times : Nat) (c : Char) :
    (encodeChar c).flatMap (encodeCharTimes (times + 1)) = encodeCharTimes (times + 2) c := by
  obtain ⟨rfl, written⟩ | ⟨plain, written⟩ | ⟨-, mark, read, written⟩ := encodeChar_cases c
  · rw [written]
    rfl
  · rw [written, List.flatMap_singleton, encodeCharTimes_of_plain _ plain,
      encodeCharTimes_of_plain _ plain]
  · have backslash : encodeCharTimes (times + 1) '\\' = List.replicate (2 ^ (times + 1)) '\\' :=
      List.append_nil _
    rw [written, List.flatMap_cons, List.flatMap_singleton, backslash, encodeCharTimes,
      ← List.append_assoc, List.replicate_append_replicate, backslashes_of_decodeMark? read,
      behindBackslashes_of_decodeMark? read, encodeCharTimes]

/-- A character that is written with backslashes gets more of them with every escape. -/
theorem backslashes_lt_succ (times : Nat) {c : Char} (mem : c ∈ marked) :
    backslashes (times + 1) c < backslashes (times + 2) c := by
  have positive : 0 < 2 ^ times := Nat.two_pow_pos times
  have once : 2 ^ (times + 1) = 2 ^ times * 2 := Nat.pow_succ 2 times
  have twice : 2 ^ (times + 2) = 2 ^ (times + 1) * 2 := Nat.pow_succ 2 (times + 1)
  have backslash : 2 ^ (times + 1) < 2 ^ (times + 2) := by omega
  have quote : 2 ^ (times + 1) - 1 < 2 ^ (times + 2) - 1 := by omega
  have feed : 2 ^ times < 2 ^ (times + 1) := by omega
  obtain rfl | rfl | rfl | rfl | rfl := mem_marked_iff.1 mem
  · exact backslash
  · exact quote
  · exact feed
  · exact quote
  · exact quote

/-! ## Whole labels -/

theorem toList_escapeTimes_succ (times : Nat) (label : String) :
    (escapeTimes (times + 1) label).toList =
      label.toList.flatMap (encodeCharTimes (times + 1)) := by
  induction times generalizing label with
  | zero =>
    calc (escapeTimes 1 label).toList
      _ = label.toList.flatMap encodeChar := by
        rw [escapeTimes, escapeTimes, toList_escape, escapeChars_eq_encode, encode]
      _ = label.toList.flatMap (encodeCharTimes 1) :=
        List.flatMap_congr fun c _ => (encodeCharTimes_one c).symm
  | succ times inductionHypothesis =>
    calc (escapeTimes (times + 2) label).toList
      _ = (escape label).toList.flatMap (encodeCharTimes (times + 1)) := by
        rw [escapeTimes, inductionHypothesis]
      _ = label.toList.flatMap fun c => (encodeChar c).flatMap (encodeCharTimes (times + 1)) := by
        rw [toList_escape, escapeChars_eq_encode, encode, List.flatMap_assoc]
      _ = label.toList.flatMap (encodeCharTimes (times + 2)) :=
        List.flatMap_congr fun c _ => flatMap_encodeCharTimes times c

/-- The sum of the weights of the characters. -/
def weigh (weight : Char → Nat) (text : List Char) : Nat :=
  (text.map weight).sum

theorem weigh_flatMap (weight : Char → Nat) (f : Char → List Char) (text : List Char) :
    weigh weight (text.flatMap f) = (text.map fun c => weigh weight (f c)).sum := by
  induction text with
  | nil => rfl
  | cons c text inductionHypothesis =>
    simp only [weigh] at inductionHypothesis ⊢
    rw [List.flatMap_cons, List.map_append, List.sum_append, inductionHypothesis, List.map_cons,
      List.sum_cons]

theorem weigh_encodeCharTimes (weight : Char → Nat) (times : Nat) (c : Char) :
    weigh weight (encodeCharTimes times c) =
      backslashes times c * weight '\\' + weigh weight (behindBackslashes c) := by
  rw [weigh, encodeCharTimes, List.map_append, List.sum_append, List.map_replicate,
    List.sum_replicate_nat, weigh]

/-- If the backslash weighs something, one more escape makes a label heavier. -/
theorem weigh_escapeTimes_lt_succ {weight : Char → Nat} (heavy : 0 < weight '\\') (times : Nat)
    {label : String} (some : ∃ c ∈ label.toList, c ∈ marked) :
    weigh weight (escapeTimes (times + 1) label).toList <
      weigh weight (escapeTimes (times + 2) label).toList := by
  have grows : ∀ {c}, c ∈ marked → weigh weight (encodeCharTimes (times + 1) c) <
      weigh weight (encodeCharTimes (times + 2) c) := by
    intro c mem
    have more := Nat.mul_lt_mul_of_pos_right (backslashes_lt_succ times mem) heavy
    rw [weigh_encodeCharTimes, weigh_encodeCharTimes]
    omega
  rw [toList_escapeTimes_succ, toList_escapeTimes_succ, weigh_flatMap, weigh_flatMap]
  apply List.sum_lt_sum
  · intro c _
    by_cases mem : c ∈ marked
    · exact (grows mem).le
    · rw [weigh_encodeCharTimes, weigh_encodeCharTimes, backslashes_of_not_mem_marked _ mem,
        backslashes_of_not_mem_marked _ mem]
  · obtain ⟨c, inLabel, mem⟩ := some
    exact ⟨c, inLabel, grows mem⟩

theorem weigh_escapeTimes_lt {weight : Char → Nat} (heavy : 0 < weight '\\') {label : String}
    (some : ∃ c ∈ label.toList, c ∈ marked) {fewer more : Nat} (first : 1 ≤ fewer)
    (less : fewer < more) :
    weigh weight (escapeTimes fewer label).toList <
      weigh weight (escapeTimes more label).toList := by
  have grows : StrictMono fun times => weigh weight (escapeTimes (times + 1) label).toList :=
    strictMono_nat_of_lt_succ fun times => weigh_escapeTimes_lt_succ heavy times some
  obtain ⟨fewer, rfl⟩ := Nat.exists_eq_add_of_le' first
  obtain ⟨more, rfl⟩ := Nat.exists_eq_add_of_le' (first.trans less.le)
  exact grows (Nat.lt_of_succ_lt_succ less)

theorem length_eq_weigh (text : String) : text.length = weigh (fun _ => 1) text.toList := by
  rw [weigh, List.map_const', List.sum_replicate_nat, Nat.mul_one, String.length_toList]

theorem utf8ByteSize_eq_weigh (text : String) :
    text.utf8ByteSize = weigh Char.utf8Size text.toList := by
  obtain ⟨characters, rfl⟩ : ∃ characters, text = String.ofList characters :=
    ⟨text.toList, String.ofList_toList.symm⟩
  rw [String.toList_ofList]
  induction characters with
  | nil => rfl
  | cons c characters inductionHypothesis =>
    rw [String.ofList_cons, String.utf8ByteSize_append, String.utf8ByteSize_singleton,
      inductionHypothesis, weigh, weigh, List.map_cons, List.sum_cons]

theorem length_escapeTimes_lt {label : String} (some : ∃ c ∈ label.toList, c ∈ marked)
    {fewer more : Nat} (first : 1 ≤ fewer) (less : fewer < more) :
    (escapeTimes fewer label).length < (escapeTimes more label).length := by
  rw [length_eq_weigh, length_eq_weigh]
  exact weigh_escapeTimes_lt Nat.one_pos some first less

/-- A second escape changes nothing only if there is nothing to mark. -/
theorem escape_escape_eq_iff {label : String} :
    escape (escape label) = escape label ↔ ∀ c ∈ label.toList, c ∉ marked := by
  constructor
  · intro same c inLabel mem
    have longer : (escapeTimes 1 label).length < (escapeTimes 2 label).length :=
      length_escapeTimes_lt ⟨c, inLabel, mem⟩ (Nat.le_refl 1) (Nat.lt_succ_self 1)
    exact absurd (congrArg String.length same.symm) longer.ne
  · intro free
    apply String.toList_injective
    calc (escapeTimes 2 label).toList
      _ = label.toList.flatMap (encodeCharTimes 2) := toList_escapeTimes_succ 1 label
      _ = label.toList.flatMap (encodeCharTimes 1) := by
        apply List.flatMap_congr
        intro c inLabel
        rw [encodeCharTimes, encodeCharTimes, backslashes_of_not_mem_marked _ (free c inLabel),
          backslashes_of_not_mem_marked _ (free c inLabel)]
      _ = (escapeTimes 1 label).toList := (toList_escapeTimes_succ 0 label).symm

/-- What so many escapes make of a label is known character by character. A second escape changes
    nothing only if there is nothing to mark, and otherwise no two numbers of escapes give texts of
    one length. -/
theorem escapeTimes_piles_up (label : String) :
    (∀ times, 1 ≤ times →
      (escapeTimes times label).toList = label.toList.flatMap (encodeCharTimes times)) ∧
    (escape (escape label) = escape label ↔ ∀ c ∈ label.toList, c ∉ marked) ∧
    ((∃ c ∈ label.toList, c ∈ marked) → ∀ fewer more, 1 ≤ fewer → fewer < more →
      (escapeTimes fewer label).length < (escapeTimes more label).length ∧
      (escapeTimes fewer label).utf8ByteSize < (escapeTimes more label).utf8ByteSize ∧
      escapeTimes fewer label ≠ escapeTimes more label) := by
  refine ⟨?closed, escape_escape_eq_iff, ?grows⟩
  case closed =>
    intro times first
    obtain ⟨times, rfl⟩ := Nat.exists_eq_add_of_le' first
    exact toList_escapeTimes_succ times label
  case grows =>
    intro some fewer more first less
    have characters := length_escapeTimes_lt some first less
    refine ⟨characters, ?_, fun same => absurd (congrArg String.length same) characters.ne⟩
    rw [utf8ByteSize_eq_weigh, utf8ByteSize_eq_weigh]
    exact weigh_escapeTimes_lt (Char.utf8Size_pos _) some first less

/-- Three escapes of a line feed, a quote and a backslash, behind a character of four bytes. -/
theorem escapeTimes_piles_up_thrice :
    (∃ c ∈ "😀\n\r\"\\".toList, c ∈ marked) ∧ 1 ≤ 3 ∧
      (escapeTimes 3 "😀\n\r\"\\").toList =
        '😀' :: (List.replicate 4 '\\' ++ 'n' :: (List.replicate 7 '\\' ++
          '"' :: List.replicate 8 '\\')) ∧
      (escapeTimes 1 "😀\n\r\"\\").length < (escapeTimes 3 "😀\n\r\"\\").length := by
  have some : ∃ c ∈ "😀\n\r\"\\".toList, c ∈ marked := ⟨'\n', by decide, by decide⟩
  have thrice : 1 ≤ 3 := by decide
  obtain ⟨closed, -, grows⟩ := escapeTimes_piles_up "😀\n\r\"\\"
  exact ⟨some, thrice, closed 3 thrice, (grows some 1 3 (by decide) (by decide)).1⟩

end DotScribe.Label
