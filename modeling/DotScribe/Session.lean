import DotScribe.Label
import DotScribe.Session.Command

/-!
# Sessions

A session holds builders, nodes and one body of text, and carries out one command after the
other. A refused command changes nothing and leaves no record.

* `Session.perform` carries out one command.
* `Session.run` carries out several.
-/

namespace DotScribe

/-- Builders and nodes, each under the handle that is its position, and the body. -/
structure Session where
  builders : Array Builder
  nodes : Array Node
  body : String

namespace Session

def empty : Session :=
  { builders := #[], nodes := #[], body := "" }

/-- What became of a command: the answer or the refusal, and the session afterwards. -/
abbrev Outcome : Type :=
  Except Refusal Reply × Session

/-! ## Parts of a command -/

/-- A builder put under the next handle. -/
def addBuilder (session : Session) (builder : Builder) : Reply × Session :=
  (.handle session.builders.size, { session with builders := session.builders.push builder })

def setBuilder (session : Session) (handle : Nat) (builder : Builder) : Session :=
  { session with builders := session.builders.setIfInBounds handle builder }

/-- Nodes put under the next handles, and their declarations at the end of the body. -/
def addNodes (session : Session) (nodes : List Node) : Session :=
  { session with
    nodes := session.nodes ++ nodes
    body := session.body ++ String.join (nodes.map Node.declaration) }

def addText (session : Session) (text : String) : Session :=
  { session with body := session.body ++ text }

def setBody (session : Session) (body : String) : Session :=
  { session with body }

/-- Goes on with the builder under the handle, or refuses. -/
def withBuilder (session : Session) (handle : Nat) (work : Builder → Traced Outcome) :
    Traced Outcome :=
  match session.builders[handle]? with
  | none => return (.error (.noBuilder handle), session)
  | some builder => work builder

/-- Goes on with the node under the handle, or refuses. -/
def withNode (session : Session) (handle : Nat) (work : Node → Traced Outcome) :
    Traced Outcome :=
  match session.nodes[handle]? with
  | none => return (.error (.noNode handle), session)
  | some node => work node

def spanOf (nodes : List Node) : Reply :=
  .span (nodes.head?.map Node.id) (nodes.getLast?.map Node.id)

/-! ## Commands -/

def perform (session : Session) : Command → Traced Outcome
  | .addBuilder stem =>
    let added := session.addBuilder (Builder.ofStem (stem.getD Builder.defaultStem))
    return (.ok added.1, added.2)
  | .copyBuilder builder =>
    session.withBuilder builder fun source =>
      let added := session.addBuilder source
      return (.ok added.1, added.2)
  | .showBuilder builder =>
    session.withBuilder builder fun shown => return (.ok (.builder shown), session)
  | .declare builder label escaped =>
    session.withBuilder builder fun before => do
      let made ← before.declare (if escaped then Label.escape label else label)
      return (.ok (.node made.1), (session.setBuilder builder made.2).addNodes [made.1])
  | .declareMany builder label count =>
    session.withBuilder builder fun before => do
      let made ← before.declareAll (List.replicate count label)
      return (.ok (spanOf made.1), (session.setBuilder builder made.2).addNodes made.1)
  | .addNode id label =>
    let node := Node.declare id label
    return (.ok (.node node), session.addNodes [node])
  | .connect builder parent child options =>
    session.withNode parent fun source =>
      session.withNode child fun target =>
        session.withBuilder builder fun lender => do
          let line ← lender.connect source.id target.id options
          return (.ok (.text line), session.addText line)
  | .draw edge => do
    let line ← edge.draw
    return (.ok (.text line), session.addText line)
  | .addLine edge => return (.ok (.text edge.line), session.addText edge.line)
  | .buildSample builder =>
    session.withBuilder builder fun before => do
      let made ← Sample.build before
      return (.ok (.text made.1), (session.setBuilder builder made.2).addText made.1)
  | .emitSample builder sink =>
    session.withBuilder builder fun before => do
      let emission ← Sample.emit before sink
      return (.ok (.emission emission), session.setBuilder builder emission.builder)
  | .showNode node =>
    session.withNode node fun shown => return (.ok (.node shown), session)
  | .compare first second =>
    session.withNode first fun x =>
      session.withNode second fun y =>
        return (.ok (.comparison (x = y) (x.id = y.id)), session)
  | .countIds =>
    return (.ok (.count (Census.distinct (session.nodes.toList.map Node.id))), session)
  | .showDocument => return (.ok (.text (Document.wrap session.body)), session)
  | .wrapBody =>
    let body := Document.wrap session.body
    return (.ok (.text body), session.setBody body)
  | .escapeBody =>
    let body := Label.escape session.body
    return (.ok (.text body), session.setBody body)
  | .clearBody => return (.ok .done, session.setBody "")

/-- Carries out one command after the other: what came of each, and the session afterwards. -/
def run (session : Session) : List Command → Traced (List (Except Refusal Reply) × Session)
  | [] => return ([], session)
  | command :: commands => do
    let first ← session.perform command
    let others ← first.2.run commands
    return (first.1 :: others.1, others.2)

/-! ## First facts -/

theorem withBuilder_of_none {session : Session} {handle : Nat}
    (missing : session.builders[handle]? = none) (work : Builder → Traced Outcome) :
    session.withBuilder handle work = pure (.error (.noBuilder handle), session) := by
  simp [withBuilder, missing]

theorem withBuilder_of_some {session : Session} {handle : Nat} {builder : Builder}
    (found : session.builders[handle]? = some builder) (work : Builder → Traced Outcome) :
    session.withBuilder handle work = work builder := by
  simp [withBuilder, found]

theorem withNode_of_none {session : Session} {handle : Nat}
    (missing : session.nodes[handle]? = none) (work : Node → Traced Outcome) :
    session.withNode handle work = pure (.error (.noNode handle), session) := by
  simp [withNode, missing]

theorem withNode_of_some {session : Session} {handle : Nat} {node : Node}
    (found : session.nodes[handle]? = some node) (work : Node → Traced Outcome) :
    session.withNode handle work = work node := by
  simp [withNode, found]

theorem getElem?_setBuilder_ne (session : Session) {handle other : Nat} (builder : Builder)
    (different : handle ≠ other) :
    (session.setBuilder handle builder).builders[other]? = session.builders[other]? := by
  simp [setBuilder, different]

end Session

end DotScribe
