import DossierCompliance.Alert
import DossierCompliance.Assessment
import DossierCompliance.Audit.Chain
import DossierCompliance.Audit.Entry
import DossierCompliance.Calendar.Date
import DossierCompliance.Calendar.Instant
import DossierCompliance.Calendar.Micros
import DossierCompliance.Calendar.Unix
import DossierCompliance.Command.Arguments
import DossierCompliance.Command.Run
import DossierCompliance.Decimal.Integral
import DossierCompliance.Decimal.Layout
import DossierCompliance.Decimal.Literal
import DossierCompliance.Decimal.Shortest
import DossierCompliance.Decimal.Unsigned
import DossierCompliance.Digest.Sha256
import DossierCompliance.Dossier.Basic
import DossierCompliance.Dossier.Snapshot
import DossierCompliance.Dossier.Status
import DossierCompliance.Dossier.Stored
import DossierCompliance.Dossier.Vocabulary
import DossierCompliance.Engine.Program
import DossierCompliance.Engine.Records
import DossierCompliance.Engine.Seed
import DossierCompliance.Engine.Transition
import DossierCompliance.File.Basic
import DossierCompliance.File.Tree
import DossierCompliance.Identity
import DossierCompliance.Json.Basic
import DossierCompliance.Json.Numeral
import DossierCompliance.Json.Printer
import DossierCompliance.Json.Reader
import DossierCompliance.Json.Reading
import DossierCompliance.Json.Shape
import DossierCompliance.Json.Sink
import DossierCompliance.Main
import DossierCompliance.Named
import DossierCompliance.Onboarding
import DossierCompliance.Proofs.Assessment
import DossierCompliance.Proofs.Audit.Chain
import DossierCompliance.Proofs.Audit.Coverage
import DossierCompliance.Proofs.Audit.Details
import DossierCompliance.Proofs.Audit.Exchange
import DossierCompliance.Proofs.Audit.Growth
import DossierCompliance.Proofs.Audit.History
import DossierCompliance.Proofs.Audit.Preimage
import DossierCompliance.Proofs.Audit.Selection
import DossierCompliance.Proofs.Calendar.Dates
import DossierCompliance.Proofs.Calendar.Instants
import DossierCompliance.Proofs.Calendar.Micros
import DossierCompliance.Proofs.Command.DryRun
import DossierCompliance.Proofs.Decimal.Digits
import DossierCompliance.Proofs.Decimal.Exceptional
import DossierCompliance.Proofs.Decimal.Sums
import DossierCompliance.Proofs.Decimal.Whole
import DossierCompliance.Proofs.Dossier.Attendance
import DossierCompliance.Proofs.Dossier.Flattened
import DossierCompliance.Proofs.Dossier.Stored
import DossierCompliance.Proofs.Engine.Confinement
import DossierCompliance.Proofs.Engine.Failures
import DossierCompliance.Proofs.Engine.Interleaving
import DossierCompliance.Proofs.Engine.Promises
import DossierCompliance.Proofs.Engine.Separation
import DossierCompliance.Proofs.Engine.Traces
import DossierCompliance.Proofs.Engine.Validation
import DossierCompliance.Proofs.Engine.Writes
import DossierCompliance.Proofs.Identity
import DossierCompliance.Proofs.Identity.Normalization
import DossierCompliance.Proofs.Json.Canonical
import DossierCompliance.Proofs.Json.Normal
import DossierCompliance.Proofs.Json.Printing
import DossierCompliance.Proofs.Json.Rearrangement
import DossierCompliance.Proofs.Json.Restoring
import DossierCompliance.Proofs.Onboarding
import DossierCompliance.Proofs.Onboarding.Reports
import DossierCompliance.Proofs.Rule.Attribution
import DossierCompliance.Proofs.Rule.Conjunction
import DossierCompliance.Proofs.Rule.Editing
import DossierCompliance.Proofs.Rule.Explanations
import DossierCompliance.Proofs.Rule.Inert
import DossierCompliance.Proofs.Rule.Selecting
import DossierCompliance.Proofs.Rule.Standard
import DossierCompliance.Proofs.Rule.Writing
import DossierCompliance.Proofs.Service.Discretion
import DossierCompliance.Proofs.Service.Effects
import DossierCompliance.Proofs.Service.Records
import DossierCompliance.Proofs.Service.Refusals
import DossierCompliance.Proofs.Store.Appends
import DossierCompliance.Proofs.Store.AuditTrail
import DossierCompliance.Proofs.Store.Columns
import DossierCompliance.Proofs.Store.Equivalence
import DossierCompliance.Proofs.Store.Lifecycle
import DossierCompliance.Proofs.Store.Rows
import DossierCompliance.Proofs.Store.Separation
import DossierCompliance.Proofs.Store.Shapes
import DossierCompliance.Proofs.Text.Framing
import DossierCompliance.Proofs.Uuid
import DossierCompliance.Proofs.Value.Resolution
import DossierCompliance.Proofs.Value.Views
import DossierCompliance.Proofs.Waiting
import DossierCompliance.Regulation
import DossierCompliance.Rule.Condition
import DossierCompliance.Rule.Document
import DossierCompliance.Rule.Evaluation
import DossierCompliance.Rule.File
import DossierCompliance.Rule.Loading
import DossierCompliance.Rule.Operator
import DossierCompliance.Rule.Standard
import DossierCompliance.Service.Config
import DossierCompliance.Service.Description
import DossierCompliance.Service.MediaType
import DossierCompliance.Service.Request
import DossierCompliance.Service.Response
import DossierCompliance.Service.Route
import DossierCompliance.Service.Serving
import DossierCompliance.Service.Target
import DossierCompliance.Store.Call
import DossierCompliance.Store.Database.Basic
import DossierCompliance.Store.Database.Exchange
import DossierCompliance.Store.Database.Row
import DossierCompliance.Store.Database.Setup
import DossierCompliance.Store.Database.Statement
import DossierCompliance.Store.Faulty
import DossierCompliance.Store.Memory
import DossierCompliance.Text.Blank
import DossierCompliance.Text.Occurrence
import DossierCompliance.Text.Percent
import DossierCompliance.Text.Printable
import DossierCompliance.Text.Quoted
import DossierCompliance.Text.Split
import DossierCompliance.Text.Utf8
import DossierCompliance.Uuid
import DossierCompliance.Value
import DossierCompliance.Value.Path
import DossierCompliance.Violation
import DossierCompliance.Yaml.Cursor
import DossierCompliance.Yaml.Document
import DossierCompliance.Yaml.Lexeme
import DossierCompliance.Yaml.Node
import DossierCompliance.Yaml.Spelling
import DossierCompliance.Yaml.Token
