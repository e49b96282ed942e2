import DotScribe.Sample

/-!
# Commands of a session

What a session can be asked for, and what it answers. Builders and nodes of a session are known
by their handles, the positions in which they were added.

* `Command` lists the requests.
* `Reply` lists the answers, and `Refusal` the reasons for which there is none.
-/

namespace DotScribe.Session

inductive Command
  /-- Add a builder with the given stem, or with the default one. -/
  | addBuilder (stem : Option String)
  /-- Add a builder that is in the state of another one. -/
  | copyBuilder (builder : Nat)
  | showBuilder (builder : Nat)
  /-- Declare a node, its label escaped or as it is. -/
  | declare (builder : Nat) (label : String) (escaped : Bool)
  | declareMany (builder : Nat) (label : String) (count : Nat)
  /-- Add a node with an identifier from elsewhere. -/
  | addNode (id : NodeId) (label : String)
  /-- Draw an edge between two nodes. -/
  | connect (builder parent child : Nat) (options : String)
  /-- Draw an edge between two names. -/
  | draw (edge : Edge)
  /-- Add the line of an edge without a record. -/
  | addLine (edge : Edge)
  | buildSample (builder : Nat)
  /-- Make the sample tree and deliver its document to a sink. The body stays as it is. -/
  | emitSample (builder : Nat) (sink : Sink)
  | showNode (node : Nat)
  | compare (first second : Nat)
  /-- Count the different identifiers of all nodes. -/
  | countIds
  | showDocument
  | wrapBody
  | escapeBody
  | clearBody

/-- The answer to a request. -/
inductive Reply
  | handle (position : Nat)
  | builder (builder : Builder)
  | node (node : Node)
  /-- The first and the last of the identifiers that were handed out. -/
  | span (first last : Option NodeId)
  | text (text : String)
  | emission (emission : Sample.Emission)
  /-- Whether two nodes are equal, and whether their identifiers are. -/
  | comparison (nodes ids : Bool)
  | count (number : Nat)
  | done

/-- Why a request cannot be met: there is nothing under a handle. -/
inductive Refusal
  | noBuilder (handle : Nat)
  | noNode (handle : Nat)
deriving DecidableEq

end DotScribe.Session
