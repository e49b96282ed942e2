import DotScribe.Proofs.Label.Encoding
import Mathlib.Data.List.Basic

/-!
# One pass after the other

Substitutions that run one after the other over a whole text see what the earlier ones put in.
If no target occurs in what an earlier pass puts in, that makes no difference: the outcome is that
of a single pass in which every character is replaced on its own, by the first substitution that
has it as its target.

The passes of `Label.escape` run in an order of this kind. It is the order that counts: with the
backslash behind the quote, the backslash in front of a quote would be doubled.
-/

namespace DotScribe.Label

/-- The outcome of the passes, each of which runs over the whole text that the one before left. -/
def runPasses (passes : List (Char × List Char)) (text : List Char) : List Char :=
  passes.foldl (fun done pass => substitute pass.1 pass.2 done) text

/-- What a character is replaced by if every pass looks at the original text. -/
def replaceOnce : (passes : List (Char × List Char)) → Char → List Char
  | [], c => [c]
  | pass :: passes, c => if c = pass.1 then pass.2 else replaceOnce passes c

/-- No pass has its target in what an earlier one puts in. -/
def Undisturbed (passes : List (Char × List Char)) : Prop :=
  passes.Pairwise fun earlier later => later.1 ∉ earlier.2

instance (passes : List (Char × List Char)) : Decidable (Undisturbed passes) :=
  inferInstanceAs (Decidable (passes.Pairwise fun earlier later => later.1 ∉ earlier.2))

/-! ## Any passes -/

theorem replaceOnce_of_no_target {passes : List (Char × List Char)} {c : Char}
    (free : ∀ pass ∈ passes, pass.1 ≠ c) : replaceOnce passes c = [c] := by
  induction passes with
  | nil => rfl
  | cons pass passes inductionHypothesis =>
    obtain ⟨differs, others⟩ := List.forall_mem_cons.1 free
    rw [replaceOnce, if_neg (Ne.symm differs), inductionHypothesis others]

/-- Passes leave a text alone that holds none of their targets. -/
theorem flatMap_replaceOnce_of_no_target {passes : List (Char × List Char)} {text : List Char}
    (free : ∀ pass ∈ passes, pass.1 ∉ text) : text.flatMap (replaceOnce passes) = text := by
  have alone : ∀ c ∈ text, replaceOnce passes c = [c] := by
    intro c mem
    apply replaceOnce_of_no_target
    rintro pass among rfl
    exact free pass among mem
  rw [List.flatMap_congr alone, List.flatMap_singleton']

theorem runPasses_eq_flatMap {passes : List (Char × List Char)} (order : Undisturbed passes)
    (text : List Char) : runPasses passes text = text.flatMap (replaceOnce passes) := by
  -- For all texts, since the first pass leaves another text to the rest.
  induction passes generalizing text with
  | nil => exact (List.flatMap_singleton' text).symm
  | cons pass passes inductionHypothesis =>
    obtain ⟨free, order⟩ := List.pairwise_cons.1 order
    calc runPasses (pass :: passes) text
      _ = runPasses passes (substitute pass.1 pass.2 text) := rfl
      _ = (substitute pass.1 pass.2 text).flatMap (replaceOnce passes) :=
        inductionHypothesis order _
      _ = text.flatMap fun c =>
            (if c = pass.1 then pass.2 else [c]).flatMap (replaceOnce passes) :=
        List.flatMap_assoc
      _ = text.flatMap (replaceOnce (pass :: passes)) := by
        apply List.flatMap_congr
        intro c _
        rw [replaceOnce]
        split
        · -- The later passes find nothing of theirs in what this one put in.
          exact flatMap_replaceOnce_of_no_target free
        · exact List.flatMap_singleton _ c

/-- In an order that disturbs, the backslash in front of a quote is doubled. -/
example : runPasses [('"', ['\\', '"']), ('\\', ['\\', '\\'])] ['"'] = ['\\', '\\', '"'] := rfl

/-! ## The passes of the escape -/

theorem undisturbed_passes : Undisturbed passes := by
  decide

theorem replaceOnce_passes (c : Char) : replaceOnce passes c = encodeChar c := rfl

/-- All passes together, and also the first few of them, do what one pass over the label does. -/
theorem escape_passes_act_at_once (label : String) :
    (escape label).toList = runPasses passes label.toList ∧
      (escape label).toList = label.toList.flatMap encodeChar ∧ Undisturbed passes ∧
      ∀ count, runPasses (passes.take count) label.toList =
        label.toList.flatMap (replaceOnce (passes.take count)) := by
  refine ⟨toList_escape label, ?_, undisturbed_passes, ?_⟩
  · calc (escape label).toList
      _ = runPasses passes label.toList := toList_escape label
      _ = label.toList.flatMap (replaceOnce passes) := runPasses_eq_flatMap undisturbed_passes _
      _ = label.toList.flatMap encodeChar := List.flatMap_congr fun c _ => replaceOnce_passes c
  · intro count
    exact runPasses_eq_flatMap (undisturbed_passes.sublist (List.take_sublist count passes)) _

end DotScribe.Label
