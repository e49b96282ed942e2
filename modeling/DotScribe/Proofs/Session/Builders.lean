import DotScribe.Proofs.Crew.Run
import DotScribe.Session

/-!
# The builders of a session

A session does more than its builders: it keeps nodes and a body, and it refuses what it cannot
find. To its builders and to the journal, though, it does what a crew does in the steps that its
commands stand for. What is known of the runs of a crew is therefore known of sessions.
-/

namespace DotScribe

namespace Crew

variable {crew : Crew} {verbosity : Verbosity} {handle : Nat} {builder : Builder}

/-- The steps in which a builder declares one label after the other. -/
def declareEach (handle : Nat) (labels : List String) : List Step :=
  labels.map fun label => .ask handle (.declare label)

theorem run_declareEach (found : crew[handle]? = some builder) (labels : List String) :
    ((crew.run (declareEach handle labels)).result verbosity).2 =
        crew.set handle ((builder.declareAll labels).result verbosity).2 ∧
      (crew.run (declareEach handle labels)).records verbosity =
        (builder.declareAll labels).records verbosity := by
  induction labels generalizing crew builder with
  | nil => exact ⟨(set_eq_self found).symm, rfl⟩
  | cons label labels inductionHypothesis =>
    have inside := (List.getElem?_eq_some_iff.1 found).1
    have moved : (crew.set handle (builder.advance 1))[handle]? = some (builder.advance 1) :=
      List.getElem?_set_self inside
    obtain ⟨last, records⟩ := inductionHypothesis moved
    have first : (crew.perform (.ask handle (.declare label))).result verbosity =
        (.yielded (.node (Node.declare builder.nextId label)), crew.set handle (builder.advance 1)) :=
      Prod.ext (congrArg Report.answer (report_ask verbosity found (.declare label)))
        (congrArg Report.after (report_ask verbosity found (.declare label)))
    have told : (crew.perform (.ask handle (.declare label))).records verbosity =
        (builder.declare label).records verbosity :=
      (congrArg Report.records (report_ask verbosity found (.declare label))).trans
        (List.append_nil _)
    -- What the later declarations leave under the handle replaces what this one does.
    rw [List.set_set] at last
    constructor
    · rw [declareEach, List.map_cons, ← declareEach]
      simp only [run, Builder.declareAll, Traced.result_bind, Traced.result_pure, first, last,
        Builder.result_declare]
    · rw [declareEach, List.map_cons, ← declareEach]
      simp only [run, Builder.declareAll, Traced.records_bind, Traced.records_pure, first, told,
        records, Builder.result_declare]

theorem run_declareEach_of_none (absent : crew[handle]? = none) (labels : List String) :
    ((crew.run (declareEach handle labels)).result verbosity).2 = crew ∧
      (crew.run (declareEach handle labels)).records verbosity = [] := by
  induction labels with
  | nil => exact ⟨rfl, rfl⟩
  | cons label labels inductionHypothesis =>
    obtain ⟨last, records⟩ := inductionHypothesis
    have first : crew.perform (.ask handle (.declare label)) = pure (.missing handle, crew) := by
      rw [perform, absent]
    rw [declareEach, List.map_cons, ← declareEach]
    constructor
    · simp only [run, Traced.result_bind, Traced.result_pure, first, last]
    · simp only [run, Traced.records_bind, Traced.records_pure, Traced.result_pure, first, records,
        List.append_nil]

end Crew

namespace Session

/-- What a command asks of the builders. A command that cannot find its nodes asks nothing. -/
def stepsOf (session : Session) : Command → List Crew.Step
  | .addBuilder stem => [.join stem]
  | .copyBuilder builder => [.copy builder]
  | .declare builder label escaped =>
    [.ask builder (.declare (if escaped then Label.escape label else label))]
  | .declareMany builder label count => Crew.declareEach builder (List.replicate count label)
  | .connect builder parent child options =>
    match session.nodes[parent]?, session.nodes[child]? with
    | some source, some target => [.ask builder (.connect source.id target.id options)]
    | _, _ => []
  | .draw edge => [.draw edge]
  | .buildSample builder => [.ask builder .buildSample]
  | .emitSample builder sink => [.ask builder (.emitSample sink)]
  | .showBuilder _ | .addNode _ _ | .addLine _ | .showNode _ | .compare _ _ | .countIds
  | .showDocument | .wrapBody | .escapeBody | .clearBody => []

/-- What the commands ask of the builders, each in the session that it finds. -/
def stepsAlong (verbosity : Verbosity) (session : Session) : List Command → List Crew.Step
  | [] => []
  | command :: commands =>
    session.stepsOf command ++
      stepsAlong verbosity ((session.perform command).result verbosity).2 commands

/-- The work does to the builders and to the journal what a crew does in the steps. -/
structure Carries (verbosity : Verbosity) (session : Session) (steps : List Crew.Step)
    (work : Traced Outcome) : Prop where
  builders : ((Crew.run session.builders.toList steps).result verbosity).2 =
    (work.result verbosity).2.builders.toList
  records : (Crew.run session.builders.toList steps).records verbosity = work.records verbosity

variable {session : Session} {verbosity : Verbosity}

theorem builders_addNodes (session : Session) (nodes : List Node) :
    (session.addNodes nodes).builders = session.builders := rfl

theorem builders_addText (session : Session) (text : String) :
    (session.addText text).builders = session.builders := rfl

theorem builders_setBody (session : Session) (body : String) :
    (session.setBody body).builders = session.builders := rfl

/-- Work that ends with the same builders and records nothing. -/
theorem carries_pure (reply : Except Refusal Reply) {after : Session}
    (same : after.builders = session.builders) :
    session.Carries verbosity [] (pure (reply, after)) where
  builders := (congrArg Array.toList same).symm
  records := rfl

theorem carries_withNode {handle : Nat} {work : Node → Traced Outcome} {steps : List Crew.Step}
    (absent : session.nodes[handle]? = none → steps = [])
    (present : ∀ node, session.nodes[handle]? = some node →
      session.Carries verbosity steps (work node)) :
    session.Carries verbosity steps (session.withNode handle work) := by
  cases found : session.nodes[handle]? with
  | none =>
    rw [withNode_of_none found, absent found]
    exact carries_pure _ rfl
  | some node =>
    rw [withNode_of_some found]
    exact present node found

theorem carries_withBuilder {handle : Nat} {work : Builder → Traced Outcome}
    {steps : List Crew.Step}
    (absent : session.builders.toList[handle]? = none →
      session.Carries verbosity steps (pure (.error (.noBuilder handle), session)))
    (present : ∀ builder, session.builders.toList[handle]? = some builder →
      session.Carries verbosity steps (work builder)) :
    session.Carries verbosity steps (session.withBuilder handle work) := by
  cases found : session.builders[handle]? with
  | none =>
    rw [withBuilder_of_none found]
    exact absent (Array.getElem?_toList.trans found)
  | some builder =>
    rw [withBuilder_of_some found]
    exact present builder (Array.getElem?_toList.trans found)

/-- Work on one builder that does what an operation does. -/
theorem carries_ask {handle : Nat} {operation : Builder.Operation}
    {work : Builder → Traced Outcome}
    (builders : ∀ builder, session.builders.toList[handle]? = some builder →
      ((work builder).result verbosity).2.builders =
        session.builders.setIfInBounds handle ((builder.perform operation).result verbosity).2)
    (records : ∀ builder, (work builder).records verbosity =
      (builder.perform operation).records verbosity) :
    session.Carries verbosity [.ask handle operation] (session.withBuilder handle work) := by
  apply carries_withBuilder
  · intro absent
    have asked := Crew.report_ask_of_none verbosity absent operation
    constructor
    · exact congrArg Crew.Report.after asked
    · exact (List.append_nil _).trans (congrArg Crew.Report.records asked)
  · intro builder present
    have asked := Crew.report_ask verbosity present operation
    constructor
    · rw [builders builder present, Array.toList_setIfInBounds]
      exact congrArg Crew.Report.after asked
    · rw [records]
      exact (List.append_nil _).trans (congrArg Crew.Report.records asked)

theorem carries_copy (session : Session) (source : Nat) (verbosity : Verbosity) :
    session.Carries verbosity [.copy source] (session.perform (.copyBuilder source)) := by
  apply carries_withBuilder
  · intro absent
    have copied := Crew.report_copy_of_none verbosity absent
    constructor
    · exact congrArg Crew.Report.after copied
    · exact (List.append_nil _).trans (congrArg Crew.Report.records copied)
  · intro builder present
    have copied := Crew.report_copy verbosity present
    constructor
    · exact (congrArg Crew.Report.after copied).trans Array.toList_push.symm
    · exact (List.append_nil _).trans (congrArg Crew.Report.records copied)

theorem carries_declareMany (session : Session) (handle : Nat) (label : String) (count : Nat)
    (verbosity : Verbosity) :
    session.Carries verbosity (Crew.declareEach handle (List.replicate count label))
      (session.perform (.declareMany handle label count)) := by
  apply carries_withBuilder
  · intro absent
    obtain ⟨builders, records⟩ := Crew.run_declareEach_of_none absent (List.replicate count label)
    exact ⟨builders, records⟩
  · intro builder present
    obtain ⟨builders, records⟩ := Crew.run_declareEach present (List.replicate count label)
    constructor
    · rw [builders, ← Array.toList_setIfInBounds]
      rfl
    · rw [records]
      exact (List.append_nil _).symm

theorem carries_perform (session : Session) (command : Command) (verbosity : Verbosity) :
    session.Carries verbosity (session.stepsOf command) (session.perform command) := by
  cases command with
  | addBuilder stem => exact ⟨Array.toList_push.symm, rfl⟩
  | copyBuilder builder => exact carries_copy session builder verbosity
  | showBuilder builder =>
    apply carries_withBuilder
    · intro _
      exact carries_pure _ rfl
    · intro shown _
      exact carries_pure _ rfl
  | declare builder label escaped =>
    apply carries_ask
    · intro before _
      rfl
    · intro before
      rfl
  | declareMany builder label count =>
    exact carries_declareMany session builder label count verbosity
  | addNode id label => exact carries_pure _ (builders_addNodes session _)
  | connect builder parent child options =>
    rw [perform]
    apply carries_withNode
    · intro absent
      rw [stepsOf, absent]
    · intro source foundSource
      apply carries_withNode
      · intro absent
        rw [stepsOf, foundSource, absent]
      · intro target foundTarget
        rw [stepsOf, foundSource, foundTarget]
        apply carries_ask
        · intro lender foundLender
          -- The builder only lends its name space, so it is put back as it was.
          have kept := Crew.set_eq_self foundLender
          rw [← Array.toList_setIfInBounds] at kept
          exact (Array.toList_inj.1 kept).symm
        · intro lender
          rfl
  | draw edge =>
    constructor
    · rfl
    · rw [stepsOf, perform, Crew.records_run, Crew.reports, Crew.report_draw, Traced.records_bind,
        Edge.records_draw, Traced.records_pure]
      rfl
  | addLine edge => exact carries_pure _ (builders_addText session _)
  | buildSample builder =>
    apply carries_ask
    · intro before _
      rfl
    · intro before
      rfl
  | emitSample builder sink =>
    apply carries_ask
    · intro before _
      rfl
    · intro before
      rfl
  | showNode node =>
    apply carries_withNode
    · intro _
      rfl
    · intro shown _
      exact carries_pure _ rfl
  | compare first second =>
    apply carries_withNode
    · intro _
      rfl
    intro x _
    apply carries_withNode
    · intro _
      rfl
    · intro y _
      exact carries_pure _ rfl
  | countIds => exact carries_pure _ rfl
  | showDocument => exact carries_pure _ rfl
  | wrapBody => exact carries_pure _ (builders_setBody session _)
  | escapeBody => exact carries_pure _ (builders_setBody session _)
  | clearBody => exact carries_pure _ (builders_setBody session _)

/-- The builders of a session, and its journal, are those of the crew that carries out the steps
    which the commands stand for. -/
theorem carries_run (session : Session) (commands : List Command) (verbosity : Verbosity) :
    ((Crew.run session.builders.toList (session.stepsAlong verbosity commands)).result verbosity).2 =
        ((session.run commands).result verbosity).2.builders.toList ∧
      (Crew.run session.builders.toList (session.stepsAlong verbosity commands)).records verbosity =
        (session.run commands).records verbosity := by
  induction commands generalizing session with
  | nil => exact ⟨rfl, rfl⟩
  | cons command commands inductionHypothesis =>
    obtain ⟨builders, records⟩ := session.carries_perform command verbosity
    obtain ⟨last, others⟩ := inductionHypothesis ((session.perform command).result verbosity).2
    rw [stepsAlong, Crew.result_run_append, Crew.records_run_append, builders, records, last, others]
    constructor
    · rfl
    · simp only [run, Traced.records_bind, Traced.records_pure, List.append_nil]

end Session

end DotScribe
