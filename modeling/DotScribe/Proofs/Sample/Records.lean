import DotScribe.Proofs.Builder.Operation

/-!
# The records of a sample tree

The messages of nodes, edges, trees and documents begin with different characters. Nodes and edges
are recorded for the graph and in full detail, trees and documents for the sample and less finely.
-/

namespace DotScribe.Sample

/-! ## How messages begin -/

theorem head?_of_mem_journal {builder : Builder} {labels : List String} {record : Record}
    (mem : record ∈ builder.journal labels) : record.message.toList.head? = some 'd' := by
  induction labels generalizing builder with
  | nil => cases mem
  | cons label labels inductionHypothesis =>
    obtain rfl | later := List.mem_cons.1 mem
    · simp [Builder.declared]
    · exact inductionHypothesis later

theorem head?_drawn (edge : Edge) : edge.drawn.message.toList.head? = some 'r' := by
  simp [Edge.drawn]

theorem head?_built (builder : Builder) :
    (built builder).message.toList.head? = some 'b' := by
  simp [built]

theorem head?_of_mem_sample {builder : Builder} {record : Record}
    (mem : record ∈ journal builder) : record.message.toList.head? ≠ some 'e' := by
  rw [journal, List.mem_append, List.mem_append] at mem
  obtain (declared | drawn) | built := mem
  · rw [head?_of_mem_journal declared]
    decide
  · obtain ⟨edge, -, rfl⟩ := List.mem_map.1 drawn
    rw [head?_drawn]
    decide
  · rw [List.mem_singleton.1 built, head?_built]
    decide

/-! ## Where records come from -/

theorem source_of_mem_journal {builder : Builder} {labels : List String} {record : Record}
    (mem : record ∈ builder.journal labels) :
    record.severity = .trace ∧ record.origin = .graph := by
  induction labels generalizing builder with
  | nil => cases mem
  | cons label labels inductionHypothesis =>
    obtain rfl | later := List.mem_cons.1 mem
    · exact ⟨rfl, rfl⟩
    · exact inductionHypothesis later

theorem source_of_mem_emit {builder : Builder} {sink : Sink} {verbosity : Verbosity}
    {record : Record} (mem : record ∈ (emit builder sink).records verbosity) :
    (record.severity = .trace ∧ record.origin = .graph) ∨
      (record.severity = .debug ∧ record.origin = .sample) := by
  rw [records_emit] at mem
  have mem := (List.mem_filter.1 mem).1
  rw [journal, List.mem_append, List.mem_append, List.mem_append] at mem
  obtain ((declared | drawn) | finished) | delivery := mem
  · exact .inl (source_of_mem_journal declared)
  · obtain ⟨edge, -, rfl⟩ := List.mem_map.1 drawn
    exact .inl ⟨rfl, rfl⟩
  · rw [List.mem_singleton.1 finished]
    exact .inr ⟨rfl, rfl⟩
  · cases outcome : (sink.deliver (Document.wrap (text builder))).1 with
    | error failure =>
      rw [outcome] at delivery
      cases delivery
    | ok done =>
      rw [outcome, deliveryJournal] at delivery
      rw [List.mem_singleton.1 delivery]
      exact .inr ⟨rfl, rfl⟩

/-- The severity of a record tells which part of the library it comes from. -/
theorem origin_eq_of_severity_eq {builder : Builder} {sink : Sink} {verbosity : Verbosity}
    {first second : Record} (mem : first ∈ (emit builder sink).records verbosity)
    (memToo : second ∈ (emit builder sink).records verbosity)
    (same : first.severity = second.severity) : first.origin = second.origin := by
  obtain ⟨severity, origin⟩ | ⟨severity, origin⟩ := source_of_mem_emit mem <;>
    obtain ⟨severityToo, originToo⟩ | ⟨severityToo, originToo⟩ := source_of_mem_emit memToo
  · rw [origin, originToo]
  · rw [severity, severityToo] at same
    cases same
  · rw [severity, severityToo] at same
    cases same
  · rw [origin, originToo]

end DotScribe.Sample
