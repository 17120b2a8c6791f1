import SqlDump.Calendar.Date
import SqlDump.Calendar.Localized
import SqlDump.Calendar.Printer
import SqlDump.Calendar.Reader
import SqlDump.Calendar.Timestamp
import SqlDump.Config
import SqlDump.Error
import SqlDump.Insert.Column
import SqlDump.Insert.DateLiteral
import SqlDump.Insert.Layout
import SqlDump.Insert.Prepared
import SqlDump.Json.Document
import SqlDump.Json.Number
import SqlDump.Json.Printer
import SqlDump.Json.Token
import SqlDump.Json.Value
import SqlDump.Loader.Executor
import SqlDump.Loader.Load
import SqlDump.Numeric.Binary64
import SqlDump.Numeric.Decimal
import SqlDump.Numeric.Digits
import SqlDump.Numeric.Integer
import SqlDump.Numeric.Shortest
import SqlDump.Scanner.Feed
import SqlDump.Scanner.State
import SqlDump.Script
import SqlDump.Source.Delivery
import SqlDump.Source.Reader
import SqlDump.Sql.ItemList
import SqlDump.Sql.Keyword
import SqlDump.Sql.Parenthesis
import SqlDump.Sql.Quoted
import SqlDump.Sql.Region
import SqlDump.Statement
import SqlDump.Text.Basic
import SqlDump.Text.LetterCase
import SqlDump.Text.Search
import SqlDump.Text.Trim
import SqlDump.Text.Utf8
import SqlDump.Unicode.CaseIgnorable
import SqlDump.Unicode.Cased
import SqlDump.Unicode.DecimalDigit
import SqlDump.Unicode.LowerCase
import SqlDump.Unicode.RangeTable
import SqlDump.Unicode.UpperCase
import SqlDump.Unicode.WhiteSpace
import SqlDump.Unicode.WordCharacter
import SqlDump.Value.Binding
import SqlDump.Value.Literal
import SqlDump.Value.Policy
import SqlDump.Proofs.Chunks
import SqlDump.Proofs.Lexemes
import SqlDump.Proofs.Scanning
import SqlDump.Proofs.TwoPass
import SqlDump.Proofs.Resegmentation
import SqlDump.Proofs.Tracking
import SqlDump.Proofs.InsertParts
import SqlDump.Proofs.WrittenInsert
import SqlDump.Proofs.ColumnRemoval
import SqlDump.Proofs.DateRewriting
import SqlDump.Proofs.Renaming
import SqlDump.Proofs.Decoding
import SqlDump.Proofs.Reading
import SqlDump.Proofs.Sources
import SqlDump.Proofs.Loading
import SqlDump.Proofs.KeywordSearch
import SqlDump.Proofs.Literals
import SqlDump.Proofs.Rows
import SqlDump.Proofs.RowScript
import SqlDump.Proofs.KeywordOccurrence
import SqlDump.Proofs.ValuesClause
import SqlDump.Proofs.LiteralRewriting
import SqlDump.Proofs.KeywordRenaming
import SqlDump.Proofs.PreparedRemoval
import SqlDump.Proofs.QuoteTracking
import SqlDump.Proofs.StringRegions
import SqlDump.Proofs.Rescanning
import SqlDump.Proofs.LoadCounts
import SqlDump.Proofs.LoadPlan
import SqlDump.Proofs.BatchSizes
import SqlDump.Proofs.FileLoads
import SqlDump.Proofs.Spellings
import SqlDump.Proofs.CheckedCuts
import SqlDump.Proofs.CheckedLiterals
import SqlDump.Proofs.CheckedBindings
import SqlDump.Proofs.CheckedStatements
import SqlDump.Proofs.CheckedReading
import SqlDump.Proofs.RemovedPair
import SqlDump.Proofs.RewrittenDates
import SqlDump.Proofs.RepeatedRemoval
import SqlDump.Proofs.WholeLiterals
import SqlDump.Proofs.QuotedRegions
import SqlDump.Proofs.OversizedBindings
import SqlDump.Proofs.ListSplitting
import SqlDump.Proofs.BalancedItems
import SqlDump.Proofs.PreparedStatements
import SqlDump.Proofs.LocalizedSkeletons
import SqlDump.Proofs.LocalizedSpellings
import SqlDump.Proofs.CarriedBytes
import SqlDump.Proofs.StoredTimestamps
import SqlDump.Proofs.JsonTokens
import SqlDump.Proofs.JsonStrings
import SqlDump.Proofs.JsonDocuments
import SqlDump.Proofs.Settings
import SqlDump.Proofs.AsciiBytes
import SqlDump.Proofs.DelimitedStrings
import SqlDump.Proofs.FirstOccurrence
