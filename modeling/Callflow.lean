import Callflow.Assembly
import Callflow.Calendar
import Callflow.Chart
import Callflow.Chart.Cleaned
import Callflow.Command.Arguments
import Callflow.Command.Folder
import Callflow.Command.Host
import Callflow.Command.Path
import Callflow.Command.Run
import Callflow.Compile
import Callflow.Condition
import Callflow.Decimal.Binary64
import Callflow.Decimal.Scaled
import Callflow.Decimal.Shortest
import Callflow.Diagnostics
import Callflow.Document
import Callflow.Editor
import Callflow.Editor.Decode
import Callflow.Editor.Encode
import Callflow.Editor.ToChart
import Callflow.Editor.TypeTag
import Callflow.Editor.Validation
import Callflow.Greeting
import Callflow.IdTable
import Callflow.Identifier
import Callflow.Json.Fault
import Callflow.Json.Mismatch
import Callflow.Json.Ordered
import Callflow.Json.Passing
import Callflow.Json.Reader
import Callflow.Json.Record
import Callflow.Json.Scan
import Callflow.Json.Value
import Callflow.Json.Writer
import Callflow.Main
import Callflow.Pathway
import Callflow.Pathway.Decode
import Callflow.Pathway.Encode
import Callflow.Pathway.Outline
import Callflow.Proofs.ChartGraph
import Callflow.Proofs.CleanedChart
import Callflow.Proofs.IdTable
import Callflow.Routing
import Callflow.Settings
import Callflow.Settings.Reader
import Callflow.Start
import Callflow.Text.Alphanumeric
import Callflow.Text.Blank
import Callflow.Text.CodePoint
import Callflow.Text.Hidden
import Callflow.Text.LowerCase
import Callflow.Text.Quoted
import Callflow.Variables
import Callflow.Proofs.Cast
import Callflow.Proofs.Routing
import Callflow.Proofs.Compile
import Callflow.Proofs.Integrity
import Callflow.Proofs.SingleStart
import Callflow.Proofs.Reachability
import Callflow.Proofs.Accounting
import Callflow.Proofs.FieldOrder
import Callflow.Proofs.Record
import Callflow.Proofs.Written
import Callflow.Proofs.Binary64
import Callflow.Proofs.ReadOrdered
import Callflow.Proofs.EditorDocument
import Callflow.Proofs.Validation
import Callflow.Proofs.CleanReport
import Callflow.Proofs.UsablePart
import Callflow.Proofs.Entrances
import Callflow.Proofs.PathwayDocument
import Callflow.Proofs.RoundTrip
import Callflow.Proofs.ConditionGrammar
import Callflow.Proofs.HalfFilled
import Callflow.Proofs.Complement
import Callflow.Proofs.Label
import Callflow.Proofs.Drawing
import Callflow.Proofs.Handle
import Callflow.Proofs.Branches
import Callflow.Proofs.Responses
import Callflow.Proofs.Connection
import Callflow.Proofs.Provider
import Callflow.Proofs.TableRuns
import Callflow.Proofs.Variables
import Callflow.Proofs.TestedVariables
import Callflow.Proofs.CheckedDocument
import Callflow.Proofs.Recleaning
import Callflow.Proofs.GreetingTerms
import Callflow.Proofs.StartRuns
import Callflow.Proofs.StartMarks
import Callflow.Proofs.Refusal
import Callflow.Proofs.Survivors
import Callflow.Proofs.Recovery
import Callflow.Proofs.LeastSuffix
import Callflow.Proofs.Outline
import Callflow.Proofs.LowerCase
import Callflow.Proofs.Words
import Callflow.Proofs.WholeWords
import Callflow.Proofs.SelfMention
