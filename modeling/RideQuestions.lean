import RideQuestions.Text.Case
import RideQuestions.Text.Digits
import RideQuestions.Text.Quoted
import RideQuestions.Text.Search
import RideQuestions.Text.Word
import RideQuestions.Number.Binary64
import RideQuestions.Number.Decimal
import RideQuestions.Number.Shortest
import RideQuestions.Json.Writer
import RideQuestions.Json.Encoding
import RideQuestions.Calendar.Date
import RideQuestions.Calendar.Instant
import RideQuestions.Calendar.Pattern
import RideQuestions.Calendar.Span
import RideQuestions.Question.DatePhrase
import RideQuestions.Question.Intent
import RideQuestions.Schema.Basic
import RideQuestions.Schema.Catalog
import RideQuestions.Cache
import RideQuestions.Matching.Mapper
import RideQuestions.Query.Clause
import RideQuestions.Query.Compiler
import RideQuestions.Config.Form
import RideQuestions.Config.Forms
import RideQuestions.Sql.Guard
import RideQuestions.Service.Answer
import RideQuestions.Service.Fault
import RideQuestions.Service.Metrics
import RideQuestions.Service.Service
import RideQuestions.Service.Traffic
import RideQuestions.Config.VariableFile
import RideQuestions.Config.Layer
import RideQuestions.Config.Settings
import RideQuestions.Server.Endpoint
import RideQuestions.Logging.Level
import RideQuestions.Logging.Template
import RideQuestions.Logging.Layout
import RideQuestions.Logging.Session
import RideQuestions.CommandLine.Arguments
import RideQuestions.CommandLine.Command
import RideQuestions.Main
import RideQuestions.Proofs.Outcome
import RideQuestions.Proofs.Text.Numeral
import RideQuestions.Proofs.Matching.Memory
import RideQuestions.Proofs.Query.Segment
import RideQuestions.Proofs.Query.Numbering
import RideQuestions.Proofs.Query.Rendering
import RideQuestions.Proofs.Query.Session
import RideQuestions.Proofs.Query.Vocabulary
import RideQuestions.Proofs.Query.Binding
import RideQuestions.Proofs.Query.Coverage
import RideQuestions.Proofs.Cache.Residency
import RideQuestions.Proofs.Service.Books
import RideQuestions.Proofs.Service.Standing
import RideQuestions.Proofs.Service.Turn
import RideQuestions.Proofs.Service.Contact
import RideQuestions.Proofs.Service.Likeness
import RideQuestions.Proofs.Service.Recording
import RideQuestions.Proofs.Service.Answering
import RideQuestions.Proofs.Service.Alone
import RideQuestions.Proofs.Service.Run
import RideQuestions.Proofs.Service.Gate
import RideQuestions.Proofs.Service.SingleFlight
import RideQuestions.Proofs.Service.FailedLoad
import RideQuestions.Proofs.Text.Plain
import RideQuestions.Proofs.Sql.Edge
import RideQuestions.Proofs.Sql.Calm
import RideQuestions.Proofs.Sql.Acceptance
import RideQuestions.Proofs.Query.Grouping
import RideQuestions.Proofs.Query.Settling
import RideQuestions.Proofs.Query.Accepted
import RideQuestions.Proofs.Service.Collapse
import RideQuestions.Proofs.Service.Serving
import RideQuestions.Proofs.Service.Ending
import RideQuestions.Proofs.Server.Status
import RideQuestions.Proofs.Query.Naming
import RideQuestions.Proofs.Calendar.Spans
import RideQuestions.Proofs.Question.Dating
import RideQuestions.Proofs.Query.Totality
import RideQuestions.Proofs.Text.Trimming
import RideQuestions.Proofs.Config.Layers
import RideQuestions.Proofs.Config.Detection
import RideQuestions.Proofs.Store.Ledger
import RideQuestions.Proofs.Server.Recording
import RideQuestions.Proofs.Server.Pooling
import RideQuestions.Proofs.Matching.Key
import RideQuestions.Proofs.Query.Starting
import RideQuestions.Proofs.Config.Database
import RideQuestions.Proofs.Matching.Order
import RideQuestions.Proofs.Server.Refusal
import RideQuestions.Proofs.Text.Words
import RideQuestions.Proofs.Question.Grammar
import RideQuestions.Proofs.Question.Meaning
import RideQuestions.Proofs.Text.Lowering
import RideQuestions.Proofs.Text.Places
import RideQuestions.Proofs.Question.Tokens
import RideQuestions.Proofs.Calendar.Timeline
import RideQuestions.Proofs.Question.WholeMonths
import RideQuestions.Proofs.Question.Undated
import RideQuestions.Proofs.CommandLine.ReferenceYear
import RideQuestions.Proofs.Number.Magnitudes
import RideQuestions.Proofs.Number.Doubles
import RideQuestions.Proofs.Number.Decimals
import RideQuestions.Proofs.Service.Shape
import RideQuestions.Proofs.Matching.Sharing
import RideQuestions.Proofs.Text.Alternatives
import RideQuestions.Proofs.Query.Gender
import RideQuestions.Proofs.Matching.Pairs
import RideQuestions.Proofs.Number.Greatest
import RideQuestions.Proofs.Matching.Scoring
import RideQuestions.Proofs.Matching.Synonyms
import RideQuestions.Proofs.Schema.Catalog
import RideQuestions.Proofs.Service.Tracking
import RideQuestions.Proofs.Sql.Listing
import RideQuestions.Proofs.Sql.Stacked
import RideQuestions.Proofs.Calendar.Literals
import RideQuestions.Proofs.Query.Priority
import RideQuestions.Proofs.Logging.Emitted
