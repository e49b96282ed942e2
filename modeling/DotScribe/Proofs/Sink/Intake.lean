import DotScribe.Sink

/-!
# What a sink takes

However a sink cuts up and interrupts what it is offered, over its life it takes the bytes that
fit under its limit, from the front and without a gap. Whoever hands bytes over learns of a fault
exactly if not all of them fit.

`Took` is the invariant of the loop: what the sink has taken grows at its end, and nothing else
changes that a later call depends on.
-/

namespace DotScribe.Sink

/-- The sink has taken the part, and is otherwise as it was but for its interruptions. -/
structure Took (sink after : Sink) (part : List UInt8) : Prop where
  limit : after.limit = sink.limit
  chunk : after.chunk = sink.chunk
  onFull : after.onFull = sink.onFull
  onFlush : after.onFlush = sink.onFlush
  flushes : after.flushes = sink.flushes
  written : after.written.toList = sink.written.toList ++ part

namespace Took

variable {first second third : Sink} {part next : List UInt8}

theorem refl (sink : Sink) : Took sink sink [] :=
  ⟨rfl, rfl, rfl, rfl, rfl, (List.append_nil _).symm⟩

theorem trans (took : Took first second part) (tookNext : Took second third next) :
    Took first third (part ++ next) where
  limit := tookNext.limit.trans took.limit
  chunk := tookNext.chunk.trans took.chunk
  onFull := tookNext.onFull.trans took.onFull
  onFlush := tookNext.onFlush.trans took.onFlush
  flushes := tookNext.flushes.trans took.flushes
  written := by rw [tookNext.written, took.written, List.append_assoc]

theorem space (took : Took first second part) :
    second.space = first.space.map (· - part.length) := by
  have size : second.written.size = first.written.size + part.length := by
    simpa only [List.length_append, Array.length_toList] using congrArg List.length took.written
  simp only [Sink.space, took.limit, size, Option.map_map, Function.comp_def, Nat.sub_add_eq]

end Took

/-! ## What fits -/

/-- The part of the bytes that still fits under the limit. -/
def fitting (sink : Sink) (bytes : List UInt8) : List UInt8 :=
  match sink.space with
  | none => bytes
  | some room => bytes.take room

theorem fitting_eq_self_iff {sink : Sink} {bytes : List UInt8} :
    sink.fitting bytes = bytes ↔ ∀ room ∈ sink.space, bytes.length ≤ room := by
  unfold fitting
  cases sink.space with
  | none => simp
  | some room =>
    constructor
    · rintro same most ⟨⟩
      have lengths := congrArg List.length same
      rw [List.length_take] at lengths
      omega
    · exact fun enough => List.take_of_length_le (enough room rfl)

/-- Once a part that fits is taken, what fits of the rest is what fits of the whole. -/
theorem Took.fitting_append {sink after : Sink} {part : List UInt8} (took : Took sink after part)
    (fits : sink.fitting part = part) (rest : List UInt8) :
    sink.fitting (part ++ rest) = part ++ after.fitting rest := by
  rw [fitting_eq_self_iff] at fits
  unfold fitting
  rw [took.space]
  cases bounded : sink.space with
  | none => rfl
  | some room =>
    have enough : part.length ≤ room := fits room bounded
    simp only [Option.map_some, List.take_append, List.take_of_length_le enough]

/-- Of bytes that do not all fit, nothing fits of what stands behind them. -/
theorem fitting_append_of_short {sink : Sink} {bytes : List UInt8}
    (short : sink.fitting bytes ≠ bytes) (rest : List UInt8) :
    sink.fitting (bytes ++ rest) = sink.fitting bytes := by
  unfold fitting at short ⊢
  cases bounded : sink.space with
  | none =>
    rw [bounded] at short
    exact absurd rfl short
  | some room =>
    rw [bounded] at short
    have less : ¬ bytes.length ≤ room := fun enough => short (List.take_of_length_le enough)
    exact List.take_append_of_le_length (by omega)

theorem fitting_front (sink : Sink) (bytes : List UInt8) : sink.fitting bytes <+: bytes := by
  unfold fitting
  cases sink.space with
  | none => exact List.prefix_rfl
  | some room => exact List.take_prefix room bytes

theorem fitting_of_front {sink : Sink} {part bytes : List UInt8}
    (front : part <+: sink.fitting bytes) : sink.fitting part = part := by
  rw [fitting_eq_self_iff]
  intro room bounded
  have length := front.length_le
  rw [fitting, Option.mem_def.1 bounded] at length
  exact Nat.le_trans length (List.length_take_le room bytes)

/-! ## One call -/

theorem taken_of_chunk_none {sink : Sink} (noChunk : sink.chunk = none) (bytes : List UInt8) :
    sink.taken bytes = sink.fitting bytes := by
  rw [taken, noChunk, fitting]
  rfl

theorem taken_of_chunk_some {sink : Sink} {most : Nat} (chunked : sink.chunk = some most)
    (bytes : List UInt8) : sink.taken bytes = (sink.fitting bytes).take most := by
  rw [taken, chunked, fitting]
  cases sink.space with
  | none => rfl
  | some room => exact List.take_take.symm

/-- One call takes what fits from the front, up to its own bound, which is never zero. -/
theorem taken_cases (sink : Sink) (bytes : List UInt8) :
    sink.taken bytes <+: sink.fitting bytes ∧
      (sink.taken bytes = [] → sink.fitting bytes = []) := by
  cases chunked : sink.chunk with
  | none =>
    rw [taken_of_chunk_none chunked]
    exact ⟨List.prefix_rfl, id⟩
  | some most =>
    rw [taken_of_chunk_some chunked]
    refine ⟨List.take_prefix most _, ?_⟩
    intro nothing
    have positive : 0 < most := sink.chunk_pos most chunked
    exact (List.take_eq_nil_iff.1 nothing).resolve_left (Nat.ne_of_gt positive)

/-- A call is interrupted, or finds the sink full, or takes some of the bytes that fit. -/
theorem offer_cases {sink after : Sink} {bytes : List UInt8} {response : Response}
    (offered : sink.offer bytes = (response, after)) :
    (response = .failed (.plain .interrupted) ∧ Took sink after []) ∨
      (sink.fitting bytes = [] ∧ Took sink after [] ∧
        (response = .took 0 ∧ sink.onFull = none ∨
          ∃ fault, response = .failed fault ∧ sink.onFull = some fault)) ∨
      ∃ part rest, part ≠ [] ∧ bytes = part ++ rest ∧ response = .took part.length ∧
        sink.fitting part = part ∧ Took sink after part := by
  obtain ⟨front, full⟩ := taken_cases sink bytes
  unfold offer at offered
  split at offered
  · cases offered
    exact .inl ⟨rfl, rfl, rfl, rfl, rfl, rfl, (List.append_nil _).symm⟩
  · split at offered
    · next fault nothing onFull =>
      cases offered
      exact .inr (.inl ⟨full nothing, .refl _, .inr ⟨fault, rfl, onFull⟩⟩)
    · next noFault =>
      cases offered
      have took : Took sink { sink with written := sink.written ++ sink.taken bytes }
          (sink.taken bytes) := ⟨rfl, rfl, rfl, rfl, rfl, by simp⟩
      by_cases nothing : sink.taken bytes = []
      · have onFull : sink.onFull = none := by
          cases fault : sink.onFull with
          | none => rfl
          | some fault => exact absurd fault (noFault _ nothing)
        rw [nothing] at took ⊢
        exact .inr (.inl ⟨full nothing, took, .inl ⟨rfl, onFull⟩⟩)
      · obtain ⟨rest, same⟩ := front.trans (fitting_front sink bytes)
        exact .inr (.inr ⟨_, rest, nothing, same.symm, rfl, fitting_of_front front, took⟩)

/-! ## The loop -/

theorem fitting_nil (sink : Sink) : sink.fitting [] = [] :=
  List.prefix_nil.1 (fitting_front sink [])

theorem fitting_ne_of_full {sink : Sink} {bytes : List UInt8} (some : ¬ bytes.isEmpty = true)
    (full : sink.fitting bytes = []) : sink.fitting bytes ≠ bytes := by
  intro same
  rw [← same, full] at some
  exact some rfl

/-- Handing over bytes gives the sink those that fit, and fails exactly if some do not. -/
theorem writeAll_takes (sink : Sink) (bytes : List UInt8) :
    Took sink (sink.writeAll bytes).2 (sink.fitting bytes) ∧
      (sink.writeAll bytes).1 =
        if sink.fitting bytes = bytes then .ok () else .error (sink.onFull.getD .incomplete) := by
  -- Of the ways in which a call can end, each answer leaves those that it can be the answer of.
  fun_induction writeAll sink bytes with
  | case1 sink bytes empty =>
    rw [List.isEmpty_iff.1 empty, fitting_nil, if_pos rfl]
    exact ⟨.refl sink, rfl⟩
  | case2 sink bytes nonempty after answer =>
    obtain ⟨⟨⟩, -⟩ | ⟨full, took, ⟨-, onFull⟩ | ⟨fault, ⟨⟩, -⟩⟩ |
      ⟨part, rest, some, -, response, -, -⟩ := offer_cases answer
    · rw [if_neg (fitting_ne_of_full nonempty full), full, onFull]
      exact ⟨took, rfl⟩
    · have zero : 0 = part.length := Response.took.inj response
      exact absurd (List.eq_nil_of_length_eq_zero zero.symm) some
  | case3 sink bytes nonempty count after answer inductionHypothesis =>
    obtain ⟨⟨⟩, -⟩ | ⟨-, -, ⟨⟨⟩, -⟩ | ⟨fault, ⟨⟩, -⟩⟩ |
      ⟨part, rest, -, rfl, response, fits, took⟩ := offer_cases answer
    have length : count + 1 = part.length := Response.took.inj response
    rw [length, List.drop_left] at inductionHypothesis ⊢
    obtain ⟨tookRest, outcome⟩ := inductionHypothesis
    -- The loop goes on with the rest, and the part before it fits, so the two ends agree.
    simp only [took.fitting_append fits, List.append_cancel_left_eq, outcome, took.onFull,
      and_true]
    exact took.trans tookRest
  | case4 sink bytes nonempty fault after answer again inductionHypothesis =>
    obtain ⟨-, took⟩ | ⟨-, -, ⟨⟨⟩, -⟩ | ⟨fault, ⟨⟩, onFull⟩⟩ | ⟨part, rest, -, -, ⟨⟩, -, -⟩ :=
      offer_cases answer
    · -- An interrupted call takes nothing, so as much fits afterwards as before.
      have same : sink.fitting bytes = after.fitting bytes :=
        took.fitting_append (fitting_nil sink) bytes
      rw [same, ← took.onFull]
      exact ⟨took.trans inductionHypothesis.1, inductionHypothesis.2⟩
    · exact absurd again (sink.onFull_lasting _ onFull)
  | case5 sink bytes nonempty fault after answer final =>
    obtain ⟨⟨⟩, -⟩ | ⟨full, took, ⟨⟨⟩, -⟩ | ⟨fault, ⟨⟩, onFull⟩⟩ |
      ⟨part, rest, -, -, ⟨⟩, -, -⟩ := offer_cases answer
    · exact absurd rfl final
    · rw [if_neg (fitting_ne_of_full nonempty full), full, onFull]
      exact ⟨took, rfl⟩

theorem writeAll_of_fits {sink : Sink} {bytes : List UInt8} (fits : sink.fitting bytes = bytes) :
    ∃ after, sink.writeAll bytes = (.ok (), after) ∧ Took sink after bytes := by
  obtain ⟨took, outcome⟩ := writeAll_takes sink bytes
  rw [if_pos fits] at outcome
  rw [fits] at took
  exact ⟨_, Prod.ext outcome rfl, took⟩

theorem writeAll_of_short {sink : Sink} {bytes : List UInt8}
    (short : sink.fitting bytes ≠ bytes) :
    ∃ after, sink.writeAll bytes = (.error (sink.onFull.getD .incomplete), after) ∧
      Took sink after (sink.fitting bytes) := by
  obtain ⟨took, outcome⟩ := writeAll_takes sink bytes
  rw [if_neg short] at outcome
  exact ⟨_, Prod.ext outcome rfl, took⟩

/-! ## Delivery -/

/-- The bytes of a delivery: the document and a line end. -/
def lineBytes (document : String) : List UInt8 :=
  Text.utf8 document ++ Text.utf8 "\n"

/-- A document that fits is taken whole and flushed once, and only the flush can fail. -/
theorem deliver_of_fits {sink : Sink} {document : String}
    (fits : sink.fitting (lineBytes document) = lineBytes document) :
    (sink.deliver document).2.written.toList = sink.written.toList ++ lineBytes document ∧
      (sink.deliver document).2.flushes = sink.flushes + 1 ∧
      (sink.onFlush = none → (sink.deliver document).1 = .ok ()) ∧
      (∀ fault ∈ sink.onFlush, (sink.deliver document).1 = .error { fault }) := by
  have fitsText : sink.fitting (Text.utf8 document) = Text.utf8 document := by
    apply fitting_of_front
    rw [fits]
    exact List.prefix_append _ _
  obtain ⟨first, text, tookText⟩ := writeAll_of_fits fitsText
  have fitsEnd : first.fitting (Text.utf8 "\n") = Text.utf8 "\n" :=
    List.append_cancel_left ((tookText.fitting_append fitsText _).symm.trans fits)
  obtain ⟨second, lineEnd, tookEnd⟩ := writeAll_of_fits fitsEnd
  have took := tookText.trans tookEnd
  simp only [deliver, text, lineEnd, flush]
  rw [← took.onFlush]
  have flushedOnce := congrArg (· + 1) took.flushes
  cases second.onFlush with
  | none =>
    refine ⟨took.written, flushedOnce, fun _ => rfl, ?_⟩
    intro fault reported
    cases reported
  | some fault =>
    refine ⟨took.written, flushedOnce, fun absent => ?_, ?_⟩
    · cases absent
    · intro other reported
      cases reported
      rfl

/-- Of a document that does not fit the sink takes what does, and it is not flushed. -/
theorem deliver_of_short {sink : Sink} {document : String}
    (short : sink.fitting (lineBytes document) ≠ lineBytes document) :
    (sink.deliver document).2.written.toList =
        sink.written.toList ++ sink.fitting (lineBytes document) ∧
      (sink.deliver document).2.flushes = sink.flushes ∧
      (sink.deliver document).1 = .error ⟨sink.onFull.getD .incomplete⟩ := by
  -- The limit is met either at the line end or within the document.
  by_cases fitsText : sink.fitting (Text.utf8 document) = Text.utf8 document
  · obtain ⟨first, text, tookText⟩ := writeAll_of_fits fitsText
    have both : sink.fitting (lineBytes document) =
        Text.utf8 document ++ first.fitting (Text.utf8 "\n") :=
      tookText.fitting_append fitsText _
    have shortEnd : first.fitting (Text.utf8 "\n") ≠ Text.utf8 "\n" := by
      intro fitsEnd
      rw [fitsEnd] at both
      exact short both
    obtain ⟨second, lineEnd, tookEnd⟩ := writeAll_of_short shortEnd
    have took := tookText.trans tookEnd
    simp only [deliver, text, lineEnd]
    rw [both]
    exact ⟨took.written, took.flushes, by rw [tookText.onFull]⟩
  · obtain ⟨first, text, took⟩ := writeAll_of_short fitsText
    simp only [deliver, text]
    rw [lineBytes, fitting_append_of_short fitsText]
    exact ⟨took.written, took.flushes, trivial⟩

/-- Success means that the whole document was taken, with its line end. -/
theorem written_deliver_of_ok {sink : Sink} {document : String}
    (delivered : (sink.deliver document).1 = .ok ()) :
    (sink.deliver document).2.written.toList = sink.written.toList ++ lineBytes document := by
  by_cases fits : sink.fitting (lineBytes document) = lineBytes document
  · exact (deliver_of_fits fits).1
  · have failed := (deliver_of_short fits).2.2
    rw [delivered] at failed
    cases failed

end DotScribe.Sink
