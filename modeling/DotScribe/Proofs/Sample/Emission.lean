import DotScribe.Proofs.Sink.Intake
import DotScribe.Sample

/-!
# How an attempt to emit the tree ends

The limit of a sink alone decides how much of the document arrives. How the sink cuts up and
interrupts the calls does not show, and neither does the seam between the document and its line
end.
-/

namespace DotScribe.Sample

/-- What is delivered: the wrapped text of the tree that is made, and a line end. -/
def delivered (builder : Builder) (verbosity : Verbosity) : List UInt8 :=
  Text.utf8 (Document.wrap ((build builder).result verbosity).1) ++ [0x0a]

theorem delivered_eq_lineBytes (builder : Builder) (verbosity : Verbosity) :
    delivered builder verbosity = Sink.lineBytes (Document.wrap (text builder)) := by
  rw [delivered, result_build, Sink.lineBytes]
  rfl

/-- A sink that has taken nothing yet has room for as much as its limit says. -/
theorem space_of_make? {limit chunk : Option Nat} {interrupts : Nat} {onFull onFlush : Option Fault}
    {sink : Sink} (made : Sink.make? limit chunk interrupts onFull onFlush = some sink) :
    sink.space = limit ∧ sink.written = #[] ∧ sink.flushes = 0 ∧ sink.onFull = onFull ∧
      sink.onFlush = onFlush := by
  unfold Sink.make? at made
  split at made
  · cases made
    refine ⟨?_, rfl, rfl, rfl, rfl⟩
    cases limit <;> rfl
  · cases made

/-- With enough room the document arrives whole, is flushed once, and only the flush can fail.
    Otherwise exactly the bytes under the limit arrive, and the sink's own fault is reported. -/
theorem emit_outcome {limit chunk : Option Nat} {interrupts : Nat} {onFull onFlush : Option Fault}
    {sink : Sink} (made : Sink.make? limit chunk interrupts onFull onFlush = some sink)
    (builder : Builder) (verbosity : Verbosity) :
    ((∀ most ∈ limit, (delivered builder verbosity).length ≤ most) →
      ((emit builder sink).result verbosity).sink.written.toList = delivered builder verbosity ∧
      ((emit builder sink).result verbosity).sink.flushes = 1 ∧
      (onFlush = none → ((emit builder sink).result verbosity).outcome = .ok ()) ∧
      (∀ fault ∈ onFlush, ((emit builder sink).result verbosity).outcome = .error { fault })) ∧
    (∀ most ∈ limit, most < (delivered builder verbosity).length →
      ((emit builder sink).result verbosity).sink.written.toList =
        (delivered builder verbosity).take most ∧
      ((emit builder sink).result verbosity).sink.flushes = 0 ∧
      ((emit builder sink).result verbosity).outcome =
        .error { fault := onFull.getD (.custom .writeZero "failed to write whole buffer") }) := by
  obtain ⟨space, written, flushes, rfl, rfl⟩ := space_of_make? made
  rw [delivered_eq_lineBytes, result_emit]
  constructor
  · intro room
    -- A sink that is new has as much room as its limit, so the limit says what fits.
    have fits : sink.fitting (Sink.lineBytes (Document.wrap (text builder))) =
        Sink.lineBytes (Document.wrap (text builder)) := by
      rw [Sink.fitting_eq_self_iff, space]
      exact room
    have ends := Sink.deliver_of_fits fits
    rw [written, flushes] at ends
    exact ends
  · intro most limited less
    have part : sink.fitting (Sink.lineBytes (Document.wrap (text builder))) =
        (Sink.lineBytes (Document.wrap (text builder))).take most := by
      rw [Sink.fitting, space, Option.mem_def.1 limited]
    have short : sink.fitting (Sink.lineBytes (Document.wrap (text builder))) ≠
        Sink.lineBytes (Document.wrap (text builder)) := by
      rw [Ne, Sink.fitting_eq_self_iff, space]
      exact fun room => absurd (room most limited) (Nat.not_le_of_lt less)
    have ends := Sink.deliver_of_short short
    rw [written, flushes, part] at ends
    exact ends

/-- A sink that is interrupted twice, takes three bytes a call, and twenty altogether. -/
def narrowSink : Sink :=
  (Sink.make? (some 20) (some 3) 2 none (some (.plain .interrupted))).get rfl

/-- The limit cuts the first character of a name in two. -/
theorem emit_outcome_narrow :
    Sink.make? (some 20) (some 3) 2 none (some (.plain .interrupted)) = some narrowSink ∧
      20 < (delivered (Builder.ofStem "é") .off).length ∧
      ((emit (Builder.ofStem "é") narrowSink).result .off).sink.written.toList =
        Text.utf8 "strict digraph X \x7b\n" ++ [0xc3] ∧
      ((emit (Builder.ofStem "é") narrowSink).result .off).sink.flushes = 0 ∧
      ((emit (Builder.ofStem "é") narrowSink).result .off).outcome =
        .error { fault := .custom .writeZero "failed to write whole buffer" } := by
  have made : Sink.make? (some 20) (some 3) 2 none (some (.plain .interrupted)) =
      some narrowSink := (Option.some_get rfl).symm
  have less : 20 < (delivered (Builder.ofStem "é") .off).length := by decide +kernel
  obtain ⟨written, flushes, outcome⟩ :=
    (emit_outcome made (Builder.ofStem "é") .off).2 20 rfl less
  refine ⟨made, less, written.trans ?_, flushes, outcome⟩
  decide +kernel

end DotScribe.Sample
