import RideQuery.Answer.Process
import RideQuery.Answer.Session
import RideQuery.Answer.Shape
import RideQuery.Calendar.Date
import RideQuery.Console
import RideQuery.Database.Engines
import RideQuery.Database.Execution
import RideQuery.Database.Introspection
import RideQuery.Dialogue
import RideQuery.Failure
import RideQuery.Fault
import RideQuery.Intent
import RideQuery.Intent.Draft
import RideQuery.Intent.Validation
import RideQuery.Json.Document
import RideQuery.Json.Reader
import RideQuery.Json.Writer
import RideQuery.Log.Event
import RideQuery.Log.Line
import RideQuery.Log.Setup
import RideQuery.Log.Template
import RideQuery.Main
import RideQuery.Number.Binary64
import RideQuery.Number.Decimal
import RideQuery.Number.DecimalText
import RideQuery.Number.Notation
import RideQuery.Number.Numeral
import RideQuery.Proofs.Answer.Amount
import RideQuery.Proofs.Answer.Outcome
import RideQuery.Proofs.Answer.Record
import RideQuery.Proofs.Answer.Session
import RideQuery.Proofs.Answer.Shape
import RideQuery.Proofs.Answer.Trail
import RideQuery.Proofs.Calendar.Order
import RideQuery.Proofs.Calendar.Ordinal
import RideQuery.Proofs.Calendar.Text
import RideQuery.Proofs.Database.Engines
import RideQuery.Proofs.Database.Execution
import RideQuery.Proofs.Database.Guard
import RideQuery.Proofs.Database.Identity
import RideQuery.Proofs.Database.Limit
import RideQuery.Proofs.Dictionary
import RideQuery.Proofs.Fallible
import RideQuery.Proofs.Json.Document
import RideQuery.Proofs.Json.Grammar
import RideQuery.Proofs.Json.Numeral
import RideQuery.Proofs.Json.Quotation
import RideQuery.Proofs.Json.Reading
import RideQuery.Proofs.Json.Refusal
import RideQuery.Proofs.Json.RoundTrip
import RideQuery.Proofs.Json.Token
import RideQuery.Proofs.Log.Announcement
import RideQuery.Proofs.Log.Event
import RideQuery.Proofs.Log.Line
import RideQuery.Proofs.Number.Canonical
import RideQuery.Proofs.Number.Closest
import RideQuery.Proofs.Number.DecimalNumeral
import RideQuery.Proofs.Number.DecimalReading
import RideQuery.Proofs.Number.Display
import RideQuery.Proofs.Number.Integer
import RideQuery.Proofs.Number.Literal
import RideQuery.Proofs.Number.Numeral
import RideQuery.Proofs.Number.Rounding
import RideQuery.Proofs.Number.Shortest
import RideQuery.Proofs.Query.Acceptance
import RideQuery.Proofs.Query.Agreement
import RideQuery.Proofs.Query.Binding
import RideQuery.Proofs.Query.Collisions
import RideQuery.Proofs.Query.DateLiterals
import RideQuery.Proofs.Query.Dates
import RideQuery.Proofs.Query.Duration
import RideQuery.Proofs.Query.Execution
import RideQuery.Proofs.Query.Filters
import RideQuery.Proofs.Query.Grouping
import RideQuery.Proofs.Query.Layout
import RideQuery.Proofs.Query.Literals
import RideQuery.Proofs.Query.Names
import RideQuery.Proofs.Query.Outputs
import RideQuery.Proofs.Query.Rearrangement
import RideQuery.Proofs.Query.Refusal
import RideQuery.Proofs.Query.Resolution
import RideQuery.Proofs.Query.Scope
import RideQuery.Proofs.Query.Text
import RideQuery.Proofs.Question.Additions
import RideQuery.Proofs.Question.Dates
import RideQuery.Proofs.Question.Detection
import RideQuery.Proofs.Question.Irrelevance
import RideQuery.Proofs.Question.Keywords
import RideQuery.Proofs.Question.Months
import RideQuery.Proofs.Question.Phrase
import RideQuery.Proofs.Question.Place
import RideQuery.Proofs.Question.Preference
import RideQuery.Proofs.Question.Ranking
import RideQuery.Proofs.Question.Rejection
import RideQuery.Proofs.Question.Relevance
import RideQuery.Proofs.Question.Windows
import RideQuery.Proofs.Schema.Grouping
import RideQuery.Proofs.Schema.Loading
import RideQuery.Proofs.Schema.Profile
import RideQuery.Proofs.Schema.Snapshot
import RideQuery.Proofs.Settings
import RideQuery.Proofs.Sql.Guard
import RideQuery.Proofs.Sql.Limit
import RideQuery.Proofs.Sql.Naming
import RideQuery.Proofs.Sql.Opening
import RideQuery.Proofs.Sql.Quoting
import RideQuery.Proofs.Sql.Renaming
import RideQuery.Proofs.Sql.Scan
import RideQuery.Proofs.Sql.Shown
import RideQuery.Proofs.Sql.Single
import RideQuery.Proofs.Text.Case
import RideQuery.Proofs.Text.Lowering
import RideQuery.Proofs.Text.Search
import RideQuery.Proofs.Text.Trim
import RideQuery.Proofs.Text.Words
import RideQuery.Proofs.Value.Display
import RideQuery.Proofs.Value.Levels
import RideQuery.Proofs.Value.Long
import RideQuery.Query.Build
import RideQuery.Query.Explanation
import RideQuery.Query.Statement
import RideQuery.Question.Analysis
import RideQuery.Question.Asked
import RideQuery.Question.Dates
import RideQuery.Question.Detection
import RideQuery.Question.Place
import RideQuery.Question.Relevance
import RideQuery.Question.Vocabulary
import RideQuery.Room
import RideQuery.Schema.Cache
import RideQuery.Schema.Catalog
import RideQuery.Schema.Column
import RideQuery.Schema.Profile
import RideQuery.Settings
import RideQuery.Sql.Guard
import RideQuery.Sql.Identifier
import RideQuery.Sql.Placeholder
import RideQuery.Startup
import RideQuery.Surroundings.Database.Address
import RideQuery.Surroundings.Database.Engine
import RideQuery.Surroundings.Sql.Function
import RideQuery.Surroundings.Sql.Grammar
import RideQuery.Surroundings.Sql.Grammar.Call
import RideQuery.Surroundings.Sql.Grammar.Clause
import RideQuery.Surroundings.Sql.Grammar.Definition
import RideQuery.Surroundings.Sql.Grammar.Expression
import RideQuery.Surroundings.Sql.Grammar.Name
import RideQuery.Surroundings.Sql.Grammar.Operand
import RideQuery.Surroundings.Sql.Grammar.Query
import RideQuery.Surroundings.Sql.Grammar.QueryClause
import RideQuery.Surroundings.Sql.Grammar.Rule
import RideQuery.Surroundings.Sql.Grammar.Source
import RideQuery.Surroundings.Sql.Grammar.Statement
import RideQuery.Surroundings.Sql.Grammar.Type
import RideQuery.Surroundings.Sql.Keyword
import RideQuery.Surroundings.Sql.Token
import RideQuery.Text.Blank
import RideQuery.Text.Case
import RideQuery.Text.Case.Table
import RideQuery.Text.CodeRun
import RideQuery.Text.Digit
import RideQuery.Text.Printable
import RideQuery.Text.Quoted
import RideQuery.Text.Search
import RideQuery.Text.Word
import RideQuery.Value
import RideQuery.Value.Display
import RideQuery.Web
