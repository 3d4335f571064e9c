import Scriptlet.Main
import Scriptlet.Proofs.Grammar
import Scriptlet.Proofs.Grammar.LeftRecursion
import Scriptlet.Proofs.Grammar.Terminals
import Scriptlet.Proofs.Number.ReadBack
import Scriptlet.Proofs.Token.Coverage
import Scriptlet.Proofs.Token.Relocation
import Scriptlet.Proofs.Token.Splicing
import Scriptlet.Proofs.Token.Stream
import Scriptlet.Proofs.Token.Concatenation
import Scriptlet.Proofs.Token.Tiling
import Scriptlet.Proofs.Script.Fit
import Scriptlet.Proofs.Script.Expressions
import Scriptlet.Proofs.Script.Repetition
import Scriptlet.Proofs.Script.Statements
import Scriptlet.Proofs.Script.Recognition
import Scriptlet.Proofs.Script.Blame
import Scriptlet.Proofs.Token.Spelling
import Scriptlet.Proofs.Script.Bare
import Scriptlet.Proofs.Script.Printing
import Scriptlet.Proofs.Script.RoundTrip
import Scriptlet.Proofs.Script.Relocation
import Scriptlet.Proofs.Script.Nodes
import Scriptlet.Proofs.Script.Assigned
import Scriptlet.Proofs.Script.Excerpt
import Scriptlet.Proofs.Script.Origin
import Scriptlet.Proofs.Script.LastOperator
import Scriptlet.Proofs.Evaluation.Composition
import Scriptlet.Proofs.Evaluation.Variables
import Scriptlet.Proofs.Evaluation.Definedness
import Scriptlet.Proofs.Evaluation.Reckoning
import Scriptlet.Proofs.Engine.Pointing
import Scriptlet.Proofs.Text.Utf8
import Scriptlet.Proofs.Source.Positions
import Scriptlet.Proofs.Source.Lines
import Scriptlet.Proofs.Source.Partition
import Scriptlet.Proofs.Report.Wording
import Scriptlet.Proofs.Report.Layout
import Scriptlet.Proofs.Engine.Diagnosis
import Scriptlet.Proofs.Script.Twins
import Scriptlet.Proofs.Script.Spanless
import Scriptlet.Proofs.Evaluation.Spanless
import Scriptlet.Proofs.Engine.Trace
import Scriptlet.Proofs.Engine.Words
import Scriptlet.Proofs.Engine.Callees
import Scriptlet.Proofs.Engine.Session
import Scriptlet.Proofs.Engine.Log
import Scriptlet.Proofs.Engine.Messages
import Scriptlet.Proofs.Report.Limit
import Scriptlet.Proofs.Report.Snippets
import Scriptlet.Proofs.Text.Columns
import Scriptlet.Proofs.Report.Alignment
import Scriptlet.Proofs.Report.Colour
import Scriptlet.Proofs.Engine.Underline
import Scriptlet.Proofs.Engine.Padding
import Scriptlet.Proofs.Runner.Listing
import Scriptlet.Proofs.Runner.Steps
import Scriptlet.Proofs.Command.Streams
import Scriptlet.Proofs.Command.Files
import Scriptlet.Proofs.Script.Ending
import Scriptlet.Proofs.Script.Lookahead
import Scriptlet.Proofs.Script.Following
import Scriptlet.Proofs.Script.Progress
import Scriptlet.Proofs.Evaluation.Reads
import Scriptlet.Proofs.Evaluation.Renaming
import Scriptlet.Proofs.Script.Contexts
import Scriptlet.Proofs.Script.Substitution
