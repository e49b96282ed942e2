import DotScribe.Document.Reader
import DotScribe.Main
import DotScribe.Session
import DotScribe.Proofs.Document.RoundTrip
import DotScribe.Proofs.Builder.Operation
import DotScribe.Proofs.Node.Numeral
import DotScribe.Proofs.Builder.Allocation
import DotScribe.Proofs.Sample.Emission
import DotScribe.Proofs.Session.Naming
import DotScribe.Proofs.Crew.Independence
import DotScribe.Proofs.Crew.Delivery
import DotScribe.Proofs.Crew.Chronicle
import DotScribe.Proofs.Document.Lines
import DotScribe.Proofs.Graph.Tree
import DotScribe.Proofs.Sample.Forest
import DotScribe.Proofs.Session.Builders
import DotScribe.Proofs.Filter.Pieces
import DotScribe.Proofs.Label.Decoding
import DotScribe.Proofs.Label.Passes
import DotScribe.Proofs.Filter.Precedence
import DotScribe.Proofs.Filter.Rule
import DotScribe.Proofs.Program.Streams
import DotScribe.Proofs.Program.Selection
import DotScribe.Proofs.Label.Repetition
import DotScribe.Proofs.Node.Verbatim
import DotScribe.Proofs.Node.Equality
import DotScribe.Proofs.Document.Renumbering
import DotScribe.Proofs.Sample.Renumbering
import DotScribe.Proofs.Journal.Legibility
