import DotScribe.Sample

/-!
# Verbosity decides what is kept

Work looks at the verbosity only when it records something. So its result is the same under every
verbosity, and its records are those kept of the records under the highest one. This holds of what
`pure` and `note` do and is handed on by `bind`, hence it holds of all work of the library.
-/

namespace DotScribe

/-! ## Work under different verbosities -/

theorem Verbosity.kept_kept_of_rank_le {lower higher : Verbosity}
    (le : lower.rank ≤ higher.rank) (records : List Record) :
    lower.kept (higher.kept records) = lower.kept records := by
  rw [kept, kept, List.filter_filter]
  apply List.filter_congr
  intro record _
  cases low : lower.admits record.severity with
  | false => rfl
  | true =>
    rw [Bool.true_and, admits_iff_rank_le]
    exact Nat.le_trans ((admits_iff_rank_le _ _).1 low) le

/-- The verbosity decides which records are kept, and nothing else. -/
structure Traced.Steady {α : Type} (work : Traced α) : Prop where
  result : ∀ verbosity, work.result verbosity = work.result (.upTo .trace)
  records : ∀ verbosity, work.records verbosity = verbosity.kept (work.records (.upTo .trace))

namespace Traced

variable {α β : Type}

theorem steady_pure (a : α) : (pure a : Traced α).Steady :=
  ⟨fun _ => rfl, fun _ => rfl⟩

theorem steady_note (record : Record) : (note record).Steady where
  result := fun _ => rfl
  records := fun verbosity => congrArg verbosity.kept (Verbosity.kept_trace [record]).symm

theorem Steady.bind {work : Traced α} {next : α → Traced β} (steady : work.Steady)
    (steadyNext : ∀ a, (next a).Steady) : (work >>= next).Steady where
  result := by
    intro verbosity
    rw [result_bind, result_bind, steady.result verbosity]
    exact (steadyNext _).result verbosity
  records := by
    intro verbosity
    -- The second part starts from the same value under both verbosities.
    rw [records_bind, records_bind, Verbosity.kept_append, steady.result verbosity,
      ← steady.records verbosity, ← (steadyNext _).records verbosity]

end Traced

theorem Builder.steady_declare (builder : Builder) (label : String) :
    (builder.declare label).Steady :=
  (Traced.steady_note _).bind fun _ => Traced.steady_pure _

theorem Builder.steady_declareAll (builder : Builder) (labels : List String) :
    (builder.declareAll labels).Steady := by
  induction labels generalizing builder with
  | nil => exact Traced.steady_pure _
  | cons label labels inductionHypothesis =>
    apply (builder.steady_declare label).bind
    intro first
    exact (inductionHypothesis first.2).bind fun _ => Traced.steady_pure _

theorem Edge.steady_draw (edge : Edge) : edge.draw.Steady :=
  (Traced.steady_note _).bind fun _ => Traced.steady_pure _

theorem Edge.steady_drawAll (edges : List Edge) : (drawAll edges).Steady := by
  induction edges with
  | nil => exact Traced.steady_pure _
  | cons edge edges inductionHypothesis =>
    apply edge.steady_draw.bind
    intro line
    exact inductionHypothesis.bind fun _ => Traced.steady_pure _

theorem Sample.steady_build (builder : Builder) : (build builder).Steady := by
  apply (builder.steady_declareAll labels).bind
  intro made
  apply (Edge.steady_drawAll _).bind
  intro lines
  exact (Traced.steady_note _).bind fun _ => Traced.steady_pure _

theorem Sample.steady_emit (builder : Builder) (sink : Sink) : (emit builder sink).Steady := by
  apply (steady_build builder).bind
  intro made
  dsimp only
  split
  · exact Traced.steady_pure _
  · exact (Traced.steady_note _).bind fun _ => Traced.steady_pure _

end DotScribe
