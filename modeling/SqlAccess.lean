import SqlAccess.Calendar.Date
import SqlAccess.Calendar.Reading
import SqlAccess.Calendar.Text
import SqlAccess.Column
import SqlAccess.Config.Address
import SqlAccess.Config.Environment
import SqlAccess.Config.Loading
import SqlAccess.Config.Pool
import SqlAccess.Config.Router
import SqlAccess.Config.TimeZone
import SqlAccess.Dao
import SqlAccess.Driver.Basic
import SqlAccess.Driver.Rows
import SqlAccess.Driver.Scripted
import SqlAccess.Entity
import SqlAccess.Entries
import SqlAccess.Error
import SqlAccess.Filter
import SqlAccess.Filter.Operator
import SqlAccess.Filter.Predicate
import SqlAccess.Ident
import SqlAccess.Json.Basic
import SqlAccess.Json.Reader
import SqlAccess.Json.Typed
import SqlAccess.Json.Writer
import SqlAccess.Literal
import SqlAccess.Mysql.Cell
import SqlAccess.Mysql.Driver
import SqlAccess.Mysql.Server
import SqlAccess.Number.Binary
import SqlAccess.Number.Decimal
import SqlAccess.Number.FloatText
import SqlAccess.Number.Integer
import SqlAccess.Proofs.Calendar.RoundTrip
import SqlAccess.Proofs.Column
import SqlAccess.Proofs.Column.Bare
import SqlAccess.Proofs.Column.Name
import SqlAccess.Proofs.Column.Quoted
import SqlAccess.Proofs.Column.Stored
import SqlAccess.Proofs.Config.Connecting
import SqlAccess.Proofs.Config.Environment
import SqlAccess.Proofs.Config.ReadPools
import SqlAccess.Proofs.Config.TimeZone
import SqlAccess.Proofs.Dao.Guard
import SqlAccess.Proofs.Dao.Streaming
import SqlAccess.Proofs.Entity
import SqlAccess.Proofs.Entries
import SqlAccess.Proofs.Filter
import SqlAccess.Proofs.Filter.Demands
import SqlAccess.Proofs.Filter.Narrowing
import SqlAccess.Proofs.Filter.NullChecks
import SqlAccess.Proofs.Filter.NullComparisons
import SqlAccess.Proofs.Filter.OfJson
import SqlAccess.Proofs.Filter.Steps
import SqlAccess.Proofs.Ident.RoundTrip
import SqlAccess.Proofs.Ident.Valid
import SqlAccess.Proofs.Literal
import SqlAccess.Proofs.Literal.Reading
import SqlAccess.Proofs.Number.Characters
import SqlAccess.Proofs.Record.OrderedMap
import SqlAccess.Proofs.Router.Draining
import SqlAccess.Proofs.Router.Polling
import SqlAccess.Proofs.Router.Quoting
import SqlAccess.Proofs.Router.Refusals
import SqlAccess.Proofs.Router.Rejection
import SqlAccess.Proofs.Router.Routing
import SqlAccess.Proofs.Router.Session
import SqlAccess.Proofs.Router.Shutdown
import SqlAccess.Proofs.Sql.Boundaries
import SqlAccess.Proofs.Sql.DuplicateClause
import SqlAccess.Proofs.Sql.Encoded
import SqlAccess.Proofs.Sql.Groups
import SqlAccess.Proofs.Sql.LeadingComments
import SqlAccess.Proofs.Sql.LetterCase
import SqlAccess.Proofs.Sql.NamedQueries
import SqlAccess.Proofs.Sql.Places
import SqlAccess.Proofs.Sql.Scan
import SqlAccess.Proofs.Sql.Sealed
import SqlAccess.Proofs.Sql.Tokens
import SqlAccess.Proofs.Statement.Alignment
import SqlAccess.Proofs.Statement.Assignments
import SqlAccess.Proofs.Statement.Conditions
import SqlAccess.Proofs.Statement.Faults
import SqlAccess.Proofs.Statement.Kind
import SqlAccess.Proofs.Statement.PlainInsert
import SqlAccess.Proofs.Statement.Request
import SqlAccess.Proofs.Statement.Sealed
import SqlAccess.Proofs.Success
import SqlAccess.Proofs.Text.Boundary
import SqlAccess.Proofs.Text.Search
import SqlAccess.Proofs.Text.SnakeCase
import SqlAccess.Proofs.Text.SnakeName
import SqlAccess.Proofs.Text.SnakeWords
import SqlAccess.Proofs.Text.Words
import SqlAccess.Proofs.Value.Json
import SqlAccess.Proofs.Value.RoundTrip
import SqlAccess.Record
import SqlAccess.Reply
import SqlAccess.Router.Basic
import SqlAccess.Router.Log
import SqlAccess.Router.Options
import SqlAccess.Router.Stream
import SqlAccess.Sql.Classify
import SqlAccess.Sql.Kind
import SqlAccess.Sql.Lexeme
import SqlAccess.Sql.Places
import SqlAccess.Sql.Scan
import SqlAccess.Statement.Change
import SqlAccess.Statement.Fault
import SqlAccess.Statement.Insert
import SqlAccess.Statement.Options
import SqlAccess.Statement.Select
import SqlAccess.Text.Abbreviated
import SqlAccess.Text.AlphanumericRanges
import SqlAccess.Text.Ascii
import SqlAccess.Text.Blank
import SqlAccess.Text.Composed
import SqlAccess.Text.CompositionTable
import SqlAccess.Text.LetterCase
import SqlAccess.Text.LetterCaseRanges
import SqlAccess.Text.Mark
import SqlAccess.Text.MarkRanges
import SqlAccess.Text.Quoted
import SqlAccess.Text.Shown
import SqlAccess.Text.Slice
import SqlAccess.Text.SnakeCase
import SqlAccess.Text.UnprintableRanges
import SqlAccess.Text.Utf8
import SqlAccess.Toml.Basic
import SqlAccess.Toml.Reader
import SqlAccess.Toml.Text
import SqlAccess.Toml.Word
import SqlAccess.Url.Address
import SqlAccess.Url.Domain
import SqlAccess.Url.Domain.Character
import SqlAccess.Url.Domain.Direction
import SqlAccess.Url.Domain.Joiner
import SqlAccess.Url.Domain.MappingTable
import SqlAccess.Url.Domain.Punycode
import SqlAccess.Url.Host
import SqlAccess.Url.Ipv6
import SqlAccess.Url.Percent
import SqlAccess.Uuid
import SqlAccess.Value
import SqlAccess.Value.Typed
