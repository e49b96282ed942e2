import DotScribe.Proofs.Document.RoundTrip

/-!
# Renumbering part by part

A text is renumbered part by part, as long as no part ends in the middle of a number. A part
without the mark stays as it is, and a name that is the mark and a number gets another number.
-/

namespace DotScribe.Document

/-- Renumbering makes `moved` of this part of a text, whatever follows it. -/
def Renumbers (mark : Char) (offset : Nat) (part moved : List Char) : Prop :=
  ∀ rest, renumber mark offset (part ++ rest) = moved ++ renumber mark offset rest

namespace Renumbers

variable {mark : Char} {offset : Nat}

theorem renumber_eq {part moved : List Char} (renumbers : Renumbers mark offset part moved) :
    renumber mark offset part = moved := by
  have alone := renumbers []
  rwa [List.append_nil, renumber, List.append_nil] at alone

theorem nil : Renumbers mark offset [] [] :=
  fun _ => rfl

theorem append {first firstMoved second secondMoved : List Char}
    (front : Renumbers mark offset first firstMoved)
    (back : Renumbers mark offset second secondMoved) :
    Renumbers mark offset (first ++ second) (firstMoved ++ secondMoved) := by
  intro rest
  rw [List.append_assoc, front, back, List.append_assoc]

/-- Of parts that are renumbered one by one, the whole is renumbered. -/
theorem flatMap {α : Type} {parts : List α} {part moved : α → List Char}
    (each : ∀ a ∈ parts, Renumbers mark offset (part a) (moved a)) :
    Renumbers mark offset (parts.flatMap part) (parts.flatMap moved) := by
  induction parts with
  | nil => exact nil
  | cons a parts inductionHypothesis =>
    obtain ⟨first, others⟩ := List.forall_mem_cons.1 each
    rw [List.flatMap_cons, List.flatMap_cons]
    exact first.append (inductionHypothesis others)

theorem of_not_mem {part : List Char} (free : mark ∉ part) : Renumbers mark offset part part := by
  intro rest
  induction part with
  | nil => rfl
  | cons c part inductionHypothesis =>
    obtain ⟨differs, free⟩ := not_or.1 (mt List.mem_cons.2 free)
    rw [List.cons_append, renumber, if_neg (Ne.symm differs), inductionHypothesis free,
      List.cons_append]

theorem moveNumeral_toDigits (n : Nat) :
    moveNumeral offset (Nat.toDigits 10 n) = Nat.toDigits 10 (n + offset) := by
  have digits : (Nat.toDigits 10 n).isEmpty = false :=
    List.isEmpty_eq_false_iff.2 Nat.toDigits_ne_nil
  rw [moveNumeral, digits, Nat.ofDigitChars_ten_toDigits]
  rfl

/-- The number behind the mark is moved, if what follows neither goes on with the number nor has a
    mark of its own. -/
theorem numeral {n : Nat} {tail : List Char} (free : mark ∉ tail)
    (ends : ∀ rest, StartsOutside Char.isDigit (tail ++ rest)) :
    Renumbers mark offset (mark :: (Nat.toDigits 10 n ++ tail))
      (mark :: (Nat.toDigits 10 (n + offset) ++ tail)) := by
  intro rest
  have inside : ∀ c ∈ Nat.toDigits 10 n, c.isDigit = true :=
    fun c mem => Nat.isDigit_of_mem_toDigits (by decide) (by decide) mem
  rw [List.cons_append, List.append_assoc, renumber, if_pos rfl, leadingDigits,
    takeWhile_append inside (ends rest), afterDigits, dropWhile_append inside (ends rest),
    moveNumeral_toDigits, of_not_mem free, List.cons_append, List.append_assoc]

end Renumbers

end DotScribe.Document
