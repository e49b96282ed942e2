import DotScribe.Proofs.Crew.Run

/-!
# Builders do not interfere

However the operations of a run are interleaved, every builder ends up in the state, and hands
back the nodes, texts and deliveries, that its own history gives when it is replayed alone. The
history of a copy begins with the history of its source up to the moment of copying.

`Mirrors` is the invariant of a run: each builder is the replay of its history, and what it has
handed back since it joined is what the replay of its own part yields.
-/

namespace DotScribe.Crew

/-! ## Histories -/

/-- What a builder was made with and asked for, with what was asked before of the builders that
    it is a copy of. -/
structure History where
  stem : String
  inherited : List Builder.Operation
  own : List Builder.Operation

namespace History

def ofStem (stem : String) : History :=
  { stem, inherited := [], own := [] }

def operations (history : History) : List Builder.Operation :=
  history.inherited ++ history.own

def asked (history : History) (operations : List Builder.Operation) : History :=
  { history with own := history.own ++ operations }

/-- The history of a copy that nothing was asked of yet. -/
def copied (history : History) : History :=
  { stem := history.stem, inherited := history.operations, own := [] }

/-- The inherited part of the history, carried out by one builder alone. -/
def former (history : History) (verbosity : Verbosity) : Builder :=
  (((Builder.ofStem history.stem).run history.inherited).result verbosity).2

def replay (history : History) (verbosity : Verbosity) : Builder :=
  (((Builder.ofStem history.stem).run history.operations).result verbosity).2

/-- What the builder hands back from its own part of the history. -/
def yields (history : History) (verbosity : Verbosity) : List Builder.Yield :=
  (((history.former verbosity).run history.own).result verbosity).1

end History

/-- The history that begins with the step. -/
def begun (histories : List History) : Step → Option History
  | .join stem => some (History.ofStem (stem.getD Builder.defaultStem))
  | .copy source => histories[source]?.map History.copied
  | .ask _ _ | .draw _ => none

/-- The histories after one more step. A builder that the step does not name keeps its own. -/
def extend (histories : List History) (step : Step) : List History :=
  histories.mapIdx (fun handle history => history.asked (step.asks handle).toList) ++
    (begun histories step).toList

def historiesOf (steps : List Step) : List History :=
  steps.foldl extend []

/-! ## Replays -/

namespace History

variable (history : History) (verbosity : Verbosity)

theorem replay_eq_run_own :
    history.replay verbosity = (((history.former verbosity).run history.own).result verbosity).2 := by
  rw [replay, operations, Builder.result_run_append]
  rfl

theorem replay_asked (operations : List Builder.Operation) :
    (history.asked operations).replay verbosity =
      (((history.replay verbosity).run operations).result verbosity).2 := by
  have whole := congrArg Prod.snd
    (Builder.result_run_append (history.former verbosity) history.own operations verbosity)
  rw [replay_eq_run_own, replay_eq_run_own]
  exact whole

theorem replay_copied : history.copied.replay verbosity = history.replay verbosity :=
  replay_eq_run_own _ _

theorem yields_asked (operations : List Builder.Operation) :
    (history.asked operations).yields verbosity =
      history.yields verbosity ++
        (((history.replay verbosity).run operations).result verbosity).1 := by
  have whole := congrArg Prod.fst
    (Builder.result_run_append (history.former verbosity) history.own operations verbosity)
  rw [replay_eq_run_own]
  exact whole

theorem yields_of_untouched {history : History} (untouched : history.own = []) :
    history.yields verbosity = [] := by
  rw [yields, untouched]
  rfl

end History

/-! ## One step -/

variable {crew : Crew} {done : List Report} {histories : List History} {verbosity : Verbosity}

theorem yields_begun (histories : List History) (step : Step) (verbosity : Verbosity) :
    ∀ history ∈ begun histories step, history.yields verbosity = [] := by
  intro history new
  apply History.yields_of_untouched
  cases step with
  | join stem =>
    cases new
    rfl
  | copy source =>
    obtain ⟨former, -, rfl⟩ := Option.map_eq_some_iff.1 new
    rfl
  | ask handle operation => cases new
  | draw edge => cases new

/-- Every builder is what its history makes of it, and has handed back what its own part yields. -/
structure Mirrors (verbosity : Verbosity) (crew : Crew) (done : List Report)
    (histories : List History) : Prop where
  builders : crew = histories.map fun history => history.replay verbosity
  yields : ∀ handle, yieldsFrom handle done =
    (histories[handle]?.map fun history => history.yields verbosity).getD []

theorem Mirrors.getElem? (mirrors : Mirrors verbosity crew done histories) (handle : Nat) :
    crew[handle]? = histories[handle]?.map fun history => history.replay verbosity := by
  rw [mirrors.builders, List.getElem?_map]

theorem Mirrors.newcomer (mirrors : Mirrors verbosity crew done histories) (step : Step) :
    crew.newcomer step = (begun histories step).map fun history => history.replay verbosity := by
  cases step with
  | join stem => rfl
  | copy source =>
    simp only [Crew.newcomer, begun, mirrors.getElem?, Option.map_map, Function.comp_def,
      History.replay_copied]
  | ask handle operation => rfl
  | draw edge => rfl

theorem yieldsFrom_concat (handle : Nat) (done : List Report) (report : Report) :
    yieldsFrom handle (done ++ [report]) =
      yieldsFrom handle done ++ (report.yieldFrom handle).toList := by
  rw [yieldsFrom, List.filterMap_append, ← yieldsFrom, ← yieldsFrom, yieldsFrom_cons]
  exact congrArg _ (List.append_nil _)

theorem getElem?_extend_of_some {handle : Nat} {history : History}
    (found : histories[handle]? = some history) (step : Step) :
    (extend histories step)[handle]? = some (history.asked (step.asks handle).toList) := by
  have inside := (List.getElem?_eq_some_iff.1 found).1
  rw [extend, List.getElem?_append_left (by rwa [List.length_mapIdx]), List.getElem?_mapIdx, found]
  rfl

theorem getElem?_extend_of_none {handle : Nat} (absent : histories[handle]? = none) (step : Step) :
    ∀ history ∈ (extend histories step)[handle]?, history ∈ begun histories step := by
  intro history found
  have outside : histories.length ≤ handle := List.getElem?_eq_none_iff.1 absent
  rw [extend, List.getElem?_append_right (by rwa [List.length_mapIdx])] at found
  exact Option.mem_toList.1 (List.mem_of_getElem? found)

/-- A step adds to the histories what it does to the builders. -/
theorem Mirrors.step (mirrors : Mirrors verbosity crew done histories) (step : Step) :
    Mirrors verbosity (crew.report verbosity step).after (done ++ [crew.report verbosity step])
      (extend histories step) where
  builders := by
    rw [after_report, extend, List.map_append]
    -- First the builders that were there before, then the one that joins.
    congr 1
    · apply List.ext_getElem?
      intro handle
      simp only [List.getElem?_mapIdx, List.getElem?_map, mirrors.getElem?, Option.map_map,
        Function.comp_def, History.replay_asked]
      rfl
    · rw [mirrors.newcomer]
      cases begun histories step with
      | none => rfl
      | some history => rfl
  yields := by
    intro handle
    rw [yieldsFrom_concat, mirrors.yields, yieldFrom_report, mirrors.getElem?]
    cases found : histories[handle]? with
    | none =>
      -- A builder that is new has its whole history from its source, so nothing is its own yet.
      cases joined : (extend histories step)[handle]? with
      | none => rfl
      | some history =>
        have new := getElem?_extend_of_none found step history joined
        exact (yields_begun histories step verbosity history new).symm
    | some history =>
      simp only [getElem?_extend_of_some found, Option.map_some, Option.getD_some,
        History.yields_asked]
      rfl

theorem Mirrors.run (mirrors : Mirrors verbosity crew done histories) (steps : List Step) :
    Mirrors verbosity ((crew.run steps).result verbosity).2
      (done ++ crew.reports verbosity steps) (steps.foldl extend histories) := by
  -- What is done already grows with every step, so it is left open in the induction.
  induction steps generalizing crew done histories with
  | nil =>
    rw [reports, List.append_nil]
    exact mirrors
  | cons step steps inductionHypothesis =>
    have after := inductionHypothesis (mirrors.step step)
    rw [List.append_assoc, List.singleton_append] at after
    exact after

theorem mirrors_nil (verbosity : Verbosity) : Mirrors verbosity [] [] [] where
  builders := rfl
  yields := fun _ => rfl

/-! ## Whole runs -/

/-- A copy and its source that are asked the same stay the same. -/
theorem run_copy_same {source : Nat} {builder : Builder} (found : crew[source]? = some builder)
    {later : List Step} (same : operationsOn source later = operationsOn crew.length later)
    (verbosity : Verbosity) :
    ∃ last : Builder, ((crew.run (.copy source :: later)).result verbosity).2[source]? = some last ∧
      ((crew.run (.copy source :: later)).result verbosity).2[crew.length]? = some last ∧
      yieldsFrom source (crew.reports verbosity (.copy source :: later)) =
        yieldsFrom crew.length (crew.reports verbosity (.copy source :: later)) := by
  -- Once the copy is made, source and copy are one builder under two handles.
  have inside := (List.getElem?_eq_some_iff.1 found).1
  have foundSource : (crew ++ [builder])[source]? = some builder := by
    rw [List.getElem?_append_left inside, found]
  have foundCopy : (crew ++ [builder])[crew.length]? = some builder := by
    rw [List.getElem?_append_right (Nat.le_refl _), Nat.sub_self]
    rfl
  obtain ⟨lastSource, yieldsSource⟩ := getElem?_run foundSource later verbosity
  obtain ⟨lastCopy, yieldsCopy⟩ := getElem?_run foundCopy later verbosity
  rw [← same] at lastCopy yieldsCopy
  have silent : ∀ handle, (crew.report verbosity (.copy source)).yieldFrom handle = none :=
    fun _ => yieldFrom_eq_none rfl
  rw [crew_run_cons, reports, yieldsFrom_cons, yieldsFrom_cons, silent, silent,
    report_copy verbosity found]
  exact ⟨_, lastSource, lastCopy, congrArg _ (yieldsSource.trans yieldsCopy.symm)⟩

theorem run_mirrors_histories :
    (∀ (steps : List Step) (verbosity : Verbosity) (handle : Nat),
      ((run [] steps).result verbosity).2[handle]? =
          (historiesOf steps)[handle]?.map (fun history => history.replay verbosity) ∧
        ∀ history ∈ (historiesOf steps)[handle]?,
          yieldsFrom handle (reports [] verbosity steps) = history.yields verbosity) ∧
    (∀ (crew : Crew) (step : Step) (verbosity : Verbosity) (handle : Nat) (builder : Builder),
      crew[handle]? = some builder → step.asks handle = none →
      ((crew.perform step).result verbosity).2[handle]? = some builder) ∧
    (∀ (crew : Crew) (source : Nat) (builder : Builder) (later : List Step)
      (verbosity : Verbosity), crew[source]? = some builder →
      operationsOn source later = operationsOn crew.length later →
      ∃ last : Builder,
        ((crew.run (.copy source :: later)).result verbosity).2[source]? = some last ∧
        ((crew.run (.copy source :: later)).result verbosity).2[crew.length]? = some last ∧
        yieldsFrom source (crew.reports verbosity (.copy source :: later)) =
          yieldsFrom crew.length (crew.reports verbosity (.copy source :: later))) := by
  refine ⟨?own, ?others, ?copies⟩
  case own =>
    intro steps verbosity handle
    have mirrors := (mirrors_nil verbosity).run steps
    refine ⟨mirrors.getElem? handle, ?_⟩
    intro history found
    have yields := mirrors.yields handle
    rw [← historiesOf, Option.mem_def.1 found] at yields
    exact yields
  case others =>
    intro crew step verbosity handle builder found silent
    have kept := getElem?_report found step verbosity
    rw [moved, silent] at kept
    exact kept
  case copies =>
    intro crew source builder later verbosity found same
    exact run_copy_same found same verbosity

/-- A builder and the copy of it under handle 1 are asked the same, in another order among the
    steps of a third one, and neither can deliver its document. -/
def sharedWork : List Step :=
  [.ask 0 (.declare "q"), .join none, .ask 1 (.declare "q"), .ask 2 .buildSample,
    .ask 1 (.emitSample (Sink.broken .brokenPipe)), .copy 1, .ask 3 (.declare ""),
    .ask 0 (.emitSample (Sink.broken .brokenPipe))]

def ninth : Builder :=
  { stem := "x1", counter := 9 }

theorem run_mirrors_histories_shared :
    (historiesOf (.join (some "x1") :: .copy 0 :: sharedWork))[3]? =
        some
          { stem := "x1"
            inherited := [.declare "q", .emitSample (Sink.broken .brokenPipe)]
            own := [.declare ""] } ∧
      yieldsFrom 3 (reports [] .off (.join (some "x1") :: .copy 0 :: sharedWork)) =
        [.node (Node.declare (NodeId.ofIndex "x1" 6) "")] ∧
      ((perform [ninth, Builder.fresh] (.ask 1 .buildSample)).result .off).2[0]? = some ninth ∧
      operationsOn 0 sharedWork = operationsOn 1 sharedWork ∧
      ∃ last : Builder,
        ((run [ninth] (.copy 0 :: sharedWork)).result .off).2[0]? = some last ∧
        ((run [ninth] (.copy 0 :: sharedWork)).result .off).2[1]? = some last ∧
        yieldsFrom 0 (reports [ninth] .off (.copy 0 :: sharedWork)) =
          yieldsFrom 1 (reports [ninth] .off (.copy 0 :: sharedWork)) := by
  obtain ⟨own, others, copies⟩ := run_mirrors_histories
  have last : (historiesOf (.join (some "x1") :: .copy 0 :: sharedWork))[3]? =
      some
        { stem := "x1"
          inherited := [.declare "q", .emitSample (Sink.broken .brokenPipe)]
          own := [.declare ""] } := rfl
  obtain ⟨-, yields⟩ := own (.join (some "x1") :: .copy 0 :: sharedWork) .off 3
  refine ⟨last, (yields _ last).trans ?_, others _ _ .off 0 ninth rfl rfl, rfl,
    copies [ninth] 0 ninth _ .off rfl rfl⟩
  rw [History.yields, History.former, Builder.builder_run]
  rfl

end DotScribe.Crew
