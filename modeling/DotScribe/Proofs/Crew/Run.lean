import DotScribe.Proofs.Builder.Operation

/-!
# Several builders at work

A crew is a list of builders. Builders join it one after the other, new or as copies, and each is
asked for operations in whatever order. A builder is known by its handle, the position in which
it joined.

* `Crew.perform` carries out one step, and `Crew.run` several.
* `Crew.reports` tells of every step of a run what came of it.

A step reaches at most the builder that it names: `after_report` says what becomes of all builders
in a step, and `getElem?_run` what becomes of one of them in a run.
-/

namespace DotScribe

abbrev Crew : Type :=
  List Builder

namespace Crew

inductive Step
  /-- A new builder joins, with the given stem or with the default one. -/
  | join (stem : Option String)
  /-- A builder joins that is in the state of another one. -/
  | copy (source : Nat)
  | ask (handle : Nat) (operation : Builder.Operation)
  /-- An edge is drawn between two names without a builder. -/
  | draw (edge : Edge)

inductive Answer
  | joined (handle : Nat)
  | yielded (yield : Builder.Yield)
  | missing (handle : Nat)

def perform (crew : Crew) : Step → Traced (Answer × Crew)
  | .join stem =>
    return (.joined crew.length, crew ++ [Builder.ofStem (stem.getD Builder.defaultStem)])
  | .copy source =>
    match crew[source]? with
    | none => return (.missing source, crew)
    | some builder => return (.joined crew.length, crew ++ [builder])
  | .ask handle operation =>
    match crew[handle]? with
    | none => return (.missing handle, crew)
    | some builder => do
      let done ← builder.perform operation
      return (.yielded done.1, crew.set handle done.2)
  | .draw edge => do
    let line ← edge.draw
    return (.yielded (.text line), crew)

def run (crew : Crew) : List Step → Traced (List Answer × Crew)
  | [] => return ([], crew)
  | step :: steps => do
    let first ← crew.perform step
    let others ← run first.2 steps
    return (first.1 :: others.1, others.2)

/-- A step that was carried out: the crew before and after, the answer, and the records. -/
structure Report where
  before : Crew
  step : Step
  answer : Answer
  after : Crew
  records : List Record

def report (crew : Crew) (verbosity : Verbosity) (step : Step) : Report :=
  { before := crew
    step
    answer := ((crew.perform step).result verbosity).1
    after := ((crew.perform step).result verbosity).2
    records := (crew.perform step).records verbosity }

def reports (crew : Crew) (verbosity : Verbosity) : List Step → List Report
  | [] => []
  | step :: steps =>
    crew.report verbosity step :: reports (crew.report verbosity step).after verbosity steps

theorem crew_run_cons (crew : Crew) (verbosity : Verbosity) (step : Step) (steps : List Step) :
    ((crew.run (step :: steps)).result verbosity).2 =
      (((crew.report verbosity step).after.run steps).result verbosity).2 := rfl

/-! ## What a step is about -/

/-- What the step asks of the builder under the handle, if it asks that one at all. -/
def Step.asks (handle : Nat) : Step → Option Builder.Operation
  | .ask other operation => if other = handle then some operation else none
  | .join _ | .copy _ | .draw _ => none

/-- What the report hands back from the builder under the handle. -/
def Report.yieldFrom (handle : Nat) (report : Report) : Option Builder.Yield :=
  match report.step, report.answer with
  | .ask other _, .yielded yield => if other = handle then some yield else none
  | _, _ => none

/-- The builder that joins in the step. -/
def newcomer (crew : Crew) : Step → Option Builder
  | .join stem => some (Builder.ofStem (stem.getD Builder.defaultStem))
  | .copy source => crew[source]?
  | .ask _ _ | .draw _ => none

def operationsOn (handle : Nat) (steps : List Step) : List Builder.Operation :=
  steps.filterMap (Step.asks handle)

def yieldsFrom (handle : Nat) (reports : List Report) : List Builder.Yield :=
  reports.filterMap (Report.yieldFrom handle)

/-! ## A run and its reports -/

variable (crew : Crew) (verbosity : Verbosity)

theorem answers_run (steps : List Step) :
    ((crew.run steps).result verbosity).1 = (crew.reports verbosity steps).map Report.answer := by
  induction steps generalizing crew with
  | nil => rfl
  | cons step steps inductionHypothesis =>
    simp only [run, reports, Traced.result_bind, Traced.result_pure, inductionHypothesis,
      List.map_cons]
    rfl

theorem records_run (steps : List Step) :
    (crew.run steps).records verbosity =
      (crew.reports verbosity steps).flatMap Report.records := by
  induction steps generalizing crew with
  | nil => rfl
  | cons step steps inductionHypothesis =>
    simp only [run, reports, Traced.records_bind, Traced.records_pure, List.append_nil,
      inductionHypothesis, List.flatMap_cons]
    rfl

theorem result_run_append (first second : List Step) :
    ((crew.run (first ++ second)).result verbosity).2 =
      ((run ((crew.run first).result verbosity).2 second).result verbosity).2 := by
  induction first generalizing crew with
  | nil => rfl
  | cons step first inductionHypothesis =>
    simp only [List.cons_append, run, Traced.result_bind, Traced.result_pure, inductionHypothesis]

theorem records_run_append (first second : List Step) :
    (crew.run (first ++ second)).records verbosity =
      (crew.run first).records verbosity ++
        (run ((crew.run first).result verbosity).2 second).records verbosity := by
  induction first generalizing crew with
  | nil => rfl
  | cons step first inductionHypothesis =>
    simp only [List.cons_append, run, Traced.records_bind, Traced.records_pure,
      Traced.result_bind, Traced.result_pure, inductionHypothesis, List.append_nil,
      List.append_assoc]

/-! ## One step -/

theorem set_eq_self {crew : Crew} {handle : Nat} {builder : Builder}
    (found : crew[handle]? = some builder) : crew.set handle builder = crew := by
  obtain ⟨inside, rfl⟩ := List.getElem?_eq_some_iff.1 found
  exact List.set_getElem_self inside

theorem report_ask {crew : Crew} {handle : Nat} {builder : Builder}
    (found : crew[handle]? = some builder) (operation : Builder.Operation) :
    crew.report verbosity (.ask handle operation) =
      { before := crew
        step := .ask handle operation
        answer := .yielded ((builder.perform operation).result verbosity).1
        after := crew.set handle ((builder.perform operation).result verbosity).2
        records := (builder.perform operation).records verbosity } := by
  simp only [report, perform, found, Traced.result_bind, Traced.result_pure, Traced.records_bind,
    Traced.records_pure, List.append_nil]

theorem report_ask_of_none {crew : Crew} {handle : Nat} (absent : crew[handle]? = none)
    (operation : Builder.Operation) :
    crew.report verbosity (.ask handle operation) =
      { before := crew
        step := .ask handle operation
        answer := .missing handle
        after := crew
        records := [] } := by
  simp only [report, perform, absent, Traced.result_pure, Traced.records_pure]

theorem report_copy {crew : Crew} {source : Nat} {builder : Builder}
    (found : crew[source]? = some builder) :
    crew.report verbosity (.copy source) =
      { before := crew
        step := .copy source
        answer := .joined crew.length
        after := crew ++ [builder]
        records := [] } := by
  simp only [report, perform, found, Traced.result_pure, Traced.records_pure]

theorem report_copy_of_none {crew : Crew} {source : Nat} (absent : crew[source]? = none) :
    crew.report verbosity (.copy source) =
      { before := crew
        step := .copy source
        answer := .missing source
        after := crew
        records := [] } := by
  simp only [report, perform, absent, Traced.result_pure, Traced.records_pure]

theorem report_draw (edge : Edge) :
    crew.report verbosity (.draw edge) =
      { before := crew
        step := .draw edge
        answer := .yielded (.text edge.line)
        after := crew
        records := verbosity.kept [edge.drawn] } := by
  simp only [report, perform, Traced.result_bind, Traced.result_pure, Traced.records_bind,
    Traced.records_pure, List.append_nil, Edge.result_draw, Edge.records_draw]

/-- What becomes of a builder in a step: it does what the step asks of it, if anything. -/
def moved (step : Step) (handle : Nat) (builder : Builder) : List Builder.Yield × Builder :=
  (builder.run (step.asks handle).toList).result verbosity

theorem mapIdx_moved_of_silent {step : Step}
    (silent : ∀ handle < crew.length, step.asks handle = none) :
    crew.mapIdx (fun handle builder => (moved verbosity step handle builder).2) = crew := by
  apply List.ext_getElem
  · exact List.length_mapIdx
  intro handle _ inside
  rw [List.getElem_mapIdx, moved, silent handle inside]
  rfl

theorem mapIdx_moved_ask (handle : Nat) (operation : Builder.Operation) {builder : Builder}
    (found : crew[handle]? = some builder) :
    crew.mapIdx (fun other builder => (moved verbosity (.ask handle operation) other builder).2) =
      crew.set handle ((builder.perform operation).result verbosity).2 := by
  apply List.ext_getElem?
  intro other
  rw [List.getElem?_mapIdx, List.getElem?_set]
  by_cases same : handle = other
  · subst same
    have inside := (List.getElem?_eq_some_iff.1 found).1
    simp only [moved, Step.asks, if_pos, inside, found, Option.map_some]
    rfl
  · -- Nothing is asked of the others, so each of them is mapped to itself.
    simp only [moved, Step.asks, if_neg same]
    exact Option.map_id_apply

/-- A step does to every builder what it asks of that one, and then its newcomer joins. -/
theorem after_report (step : Step) :
    (crew.report verbosity step).after =
      crew.mapIdx (fun handle builder => (moved verbosity step handle builder).2) ++
        (crew.newcomer step).toList := by
  cases step with
  | join stem =>
    rw [mapIdx_moved_of_silent crew verbosity fun _ _ => rfl]
    rfl
  | copy source =>
    rw [mapIdx_moved_of_silent crew verbosity fun _ _ => rfl, newcomer]
    cases found : crew[source]? with
    | none =>
      rw [report_copy_of_none verbosity found]
      exact (List.append_nil _).symm
    | some builder =>
      rw [report_copy verbosity found]
      rfl
  | ask handle operation =>
    rw [newcomer, Option.toList_none, List.append_nil]
    cases found : crew[handle]? with
    | none =>
      -- The handle lies behind the crew, so none of its builders is asked.
      have silent : ∀ other < crew.length, (Step.ask handle operation).asks other = none := by
        intro other inside
        have outside : crew.length ≤ handle := List.getElem?_eq_none_iff.1 found
        exact if_neg (Nat.ne_of_gt (Nat.lt_of_lt_of_le inside outside))
      rw [report_ask_of_none verbosity found, mapIdx_moved_of_silent crew verbosity silent]
    | some builder =>
      rw [report_ask verbosity found, mapIdx_moved_ask crew verbosity handle operation found]
  | draw edge =>
    rw [mapIdx_moved_of_silent crew verbosity fun _ _ => rfl]
    exact (List.append_nil _).symm

theorem asks_self (handle : Nat) (operation : Builder.Operation) :
    (Step.ask handle operation).asks handle = some operation :=
  if_pos rfl

theorem eq_ask_of_asks {step : Step} {handle : Nat} {operation : Builder.Operation}
    (asked : step.asks handle = some operation) : step = .ask handle operation := by
  cases step with
  | ask other done =>
    obtain ⟨same, asked⟩ := Option.ite_none_right_eq_some.1 asked
    rw [same, Option.some.inj asked]
  | join stem => cases asked
  | copy source => cases asked
  | draw edge => cases asked

theorem yieldFrom_eq_none {report : Report} {handle : Nat}
    (silent : report.step.asks handle = none) : report.yieldFrom handle = none := by
  obtain ⟨before, step, answer, after, records⟩ := report
  cases step with
  | ask other operation =>
    have different : other ≠ handle := by
      rintro rfl
      rw [asks_self] at silent
      cases silent
    cases answer with
    | yielded yield => exact if_neg different
    | joined place => rfl
    | missing place => rfl
  | join stem => rfl
  | copy source => rfl
  | draw edge => rfl

/-- A builder hands back what the operations asked of it yield, and nothing else. -/
theorem yieldFrom_report (step : Step) (handle : Nat) :
    ((crew.report verbosity step).yieldFrom handle).toList =
      (crew[handle]?.map fun builder => (moved verbosity step handle builder).1).getD [] := by
  cases asked : step.asks handle with
  | none =>
    rw [yieldFrom_eq_none asked]
    simp only [moved, asked]
    cases crew[handle]? with
    | none => rfl
    | some builder => rfl
  | some operation =>
    obtain rfl := eq_ask_of_asks asked
    cases found : crew[handle]? with
    | none =>
      rw [report_ask_of_none verbosity found]
      rfl
    | some builder =>
      rw [report_ask verbosity found]
      simp only [Report.yieldFrom, moved, asked, if_true]
      rfl

/-! ## One builder among others -/

variable {crew : Crew} {handle : Nat} {builder : Builder}

theorem getElem?_report (found : crew[handle]? = some builder) (step : Step)
    (verbosity : Verbosity) :
    (crew.report verbosity step).after[handle]? = some (moved verbosity step handle builder).2 := by
  have inside := (List.getElem?_eq_some_iff.1 found).1
  rw [after_report, List.getElem?_append_left (by rwa [List.length_mapIdx]), List.getElem?_mapIdx,
    found]
  rfl

theorem toList_yieldFrom_report (found : crew[handle]? = some builder) (step : Step)
    (verbosity : Verbosity) :
    ((crew.report verbosity step).yieldFrom handle).toList =
      (moved verbosity step handle builder).1 := by
  rw [yieldFrom_report, found]
  rfl

theorem operationsOn_cons (handle : Nat) (step : Step) (steps : List Step) :
    operationsOn handle (step :: steps) = (step.asks handle).toList ++ operationsOn handle steps := by
  rw [operationsOn, List.filterMap_cons]
  cases step.asks handle with
  | none => rfl
  | some operation => rfl

theorem yieldsFrom_cons (handle : Nat) (report : Report) (reports : List Report) :
    yieldsFrom handle (report :: reports) =
      (report.yieldFrom handle).toList ++ yieldsFrom handle reports := by
  rw [yieldsFrom, List.filterMap_cons]
  cases report.yieldFrom handle with
  | none => rfl
  | some yield => rfl

/-- In a run, a builder does what is asked of it, as if it were alone. -/
theorem getElem?_run (found : crew[handle]? = some builder) (steps : List Step)
    (verbosity : Verbosity) :
    ((crew.run steps).result verbosity).2[handle]? =
        some ((builder.run (operationsOn handle steps)).result verbosity).2 ∧
      yieldsFrom handle (crew.reports verbosity steps) =
        ((builder.run (operationsOn handle steps)).result verbosity).1 := by
  induction steps generalizing crew builder with
  | nil => exact ⟨found, rfl⟩
  | cons step steps inductionHypothesis =>
    -- The rest of the run finds under the handle what the step has made of the builder.
    obtain ⟨last, yields⟩ := inductionHypothesis (getElem?_report found step verbosity)
    rw [operationsOn_cons, Builder.result_run_append]
    refine ⟨last, ?_⟩
    rw [reports, yieldsFrom_cons, toList_yieldFrom_report found, yields]
    rfl

end Crew

end DotScribe
