import AnalysisGateway.Answer
import AnalysisGateway.Cli.Run
import AnalysisGateway.Flow
import AnalysisGateway.Http.Service
import AnalysisGateway.Main
import AnalysisGateway.Proofs.Answer.Agreement
import AnalysisGateway.Proofs.Answer.Decoding
import AnalysisGateway.Proofs.Answer.Headings
import AnalysisGateway.Proofs.Answer.Report
import AnalysisGateway.Proofs.Answer.Shapes
import AnalysisGateway.Proofs.Answer.Surroundings
import AnalysisGateway.Proofs.Answer.Verdict
import AnalysisGateway.Proofs.Answer.Written
import AnalysisGateway.Proofs.Cli.Arguments
import AnalysisGateway.Proofs.Cli.Precedence
import AnalysisGateway.Proofs.Cli.Step
import AnalysisGateway.Proofs.Flow.Alike
import AnalysisGateway.Proofs.Flow.Bounds
import AnalysisGateway.Proofs.Flow.Course
import AnalysisGateway.Proofs.Flow.Ending
import AnalysisGateway.Proofs.Flow.Log
import AnalysisGateway.Proofs.Flow.Machine
import AnalysisGateway.Proofs.Flow.Opening
import AnalysisGateway.Proofs.Flow.Padding
import AnalysisGateway.Proofs.Flow.Run
import AnalysisGateway.Proofs.Flow.Sequence
import AnalysisGateway.Proofs.Flow.Single
import AnalysisGateway.Proofs.Flow.Transcript
import AnalysisGateway.Proofs.Http.Body
import AnalysisGateway.Proofs.Http.Credential
import AnalysisGateway.Proofs.Http.Discretion
import AnalysisGateway.Proofs.Http.ErrorLog
import AnalysisGateway.Proofs.Http.FailureBody
import AnalysisGateway.Proofs.Http.Fidelity
import AnalysisGateway.Proofs.Http.History
import AnalysisGateway.Proofs.Http.Holding
import AnalysisGateway.Proofs.Http.Marker
import AnalysisGateway.Proofs.Http.MissingField
import AnalysisGateway.Proofs.Http.Rejection
import AnalysisGateway.Proofs.Http.Reporting
import AnalysisGateway.Proofs.Http.Responds
import AnalysisGateway.Proofs.Http.Secrecy
import AnalysisGateway.Proofs.Http.Status
import AnalysisGateway.Proofs.Http.Submission
import AnalysisGateway.Proofs.Http.Wording
import AnalysisGateway.Proofs.Json.Detached
import AnalysisGateway.Proofs.Json.Entries
import AnalysisGateway.Proofs.Json.Form
import AnalysisGateway.Proofs.Json.Formal
import AnalysisGateway.Proofs.Json.Grammar
import AnalysisGateway.Proofs.Json.Items
import AnalysisGateway.Proofs.Json.Members
import AnalysisGateway.Proofs.Json.Number
import AnalysisGateway.Proofs.Json.Numeral
import AnalysisGateway.Proofs.Json.Reads
import AnalysisGateway.Proofs.Json.Real
import AnalysisGateway.Proofs.Json.Record
import AnalysisGateway.Proofs.Json.Single
import AnalysisGateway.Proofs.Json.Skip
import AnalysisGateway.Proofs.Json.SkipScalar
import AnalysisGateway.Proofs.Json.Spelling
import AnalysisGateway.Proofs.Json.Stands
import AnalysisGateway.Proofs.Json.Text
import AnalysisGateway.Proofs.Json.Value
import AnalysisGateway.Proofs.Json.Writer
import AnalysisGateway.Proofs.Number.Binary
import AnalysisGateway.Proofs.Number.Decimal
import AnalysisGateway.Proofs.Number.Numeral
import AnalysisGateway.Proofs.Provider.Breaking
import AnalysisGateway.Proofs.Provider.Call
import AnalysisGateway.Proofs.Provider.Completion
import AnalysisGateway.Proofs.Provider.Exchange
import AnalysisGateway.Proofs.Provider.Key
import AnalysisGateway.Proofs.Provider.Request
import AnalysisGateway.Proofs.Provider.Verdict
import AnalysisGateway.Proofs.Settings.Credential
import AnalysisGateway.Proofs.Settings.Format
import AnalysisGateway.Proofs.Settings.Numbers
import AnalysisGateway.Proofs.Settings.Variables
import AnalysisGateway.Proofs.Text.Lowercase
import AnalysisGateway.Proofs.Text.Places
import AnalysisGateway.Proofs.Text.Split
import AnalysisGateway.Proofs.Text.Trim
import AnalysisGateway.Proofs.Text.Utf8Sound
