import GridQuery.Backend
import GridQuery.Calendar.Date
import GridQuery.Calendar.Pattern
import GridQuery.Calendar.Serial
import GridQuery.Calendar.Time
import GridQuery.Calendar.Timestamp
import GridQuery.Engine.Basic
import GridQuery.Engine.Connection
import GridQuery.Engine.Database
import GridQuery.Engine.Select
import GridQuery.Error
import GridQuery.Expr.Basic
import GridQuery.Expr.Evaluate
import GridQuery.Expr.Truth
import GridQuery.Factory
import GridQuery.Grid.ColumnType
import GridQuery.Grid.Sheet
import GridQuery.Grid.Table
import GridQuery.Grid.Workbook
import GridQuery.Log
import GridQuery.Mapping.Columns
import GridQuery.Mapping.Mapper
import GridQuery.Mapping.Record
import GridQuery.Mapping.Row
import GridQuery.Mapping.Transformation
import GridQuery.NameMap
import GridQuery.Number.Binary64
import GridQuery.Number.FloatText
import GridQuery.Number.IntText
import GridQuery.Number.Shortest
import GridQuery.Proofs.AcceptedRanges
import GridQuery.Proofs.AddedSheets
import GridQuery.Proofs.BlankRows
import GridQuery.Proofs.CallRecord
import GridQuery.Proofs.CellReferences
import GridQuery.Proofs.CheckedArguments
import GridQuery.Proofs.ColumnLetters
import GridQuery.Proofs.ColumnTitles
import GridQuery.Proofs.CommonTypes
import GridQuery.Proofs.ComparedValues
import GridQuery.Proofs.ConnectionBooks
import GridQuery.Proofs.ConnectionLife
import GridQuery.Proofs.Custody
import GridQuery.Proofs.DeclaredColumns
import GridQuery.Proofs.Doubles
import GridQuery.Proofs.FactoryRuns
import GridQuery.Proofs.FailedStatements
import GridQuery.Proofs.FilledRecords
import GridQuery.Proofs.FormulaRanges
import GridQuery.Proofs.FreeNames
import GridQuery.Proofs.HeldSequences
import GridQuery.Proofs.InPlace
import GridQuery.Proofs.IntegerTexts
import GridQuery.Proofs.KnownAnswers
import GridQuery.Proofs.LazySequences
import GridQuery.Proofs.LentConnections
import GridQuery.Proofs.Lexemes
import GridQuery.Proofs.LikePatterns
import GridQuery.Proofs.LoadedTables
import GridQuery.Proofs.MapperCalls
import GridQuery.Proofs.MaskedValues
import GridQuery.Proofs.NamedRanges
import GridQuery.Proofs.Numerals
import GridQuery.Proofs.OpenSides
import GridQuery.Proofs.Predicates
import GridQuery.Proofs.ProjectedFields
import GridQuery.Proofs.Pulling
import GridQuery.Proofs.PushDown
import GridQuery.Proofs.RangeTexts
import GridQuery.Proofs.ReferencedColumns
import GridQuery.Proofs.RefusedValues
import GridQuery.Proofs.RegisteredTransformations
import GridQuery.Proofs.RememberedWorksheets
import GridQuery.Proofs.RepeatedNames
import GridQuery.Proofs.ResultOperators
import GridQuery.Proofs.RoundedIntegers
import GridQuery.Proofs.RowOutcomes
import GridQuery.Proofs.SelectedColumns
import GridQuery.Proofs.SessionRules
import GridQuery.Proofs.SessionRun
import GridQuery.Proofs.SheetExtracts
import GridQuery.Proofs.Snapshots
import GridQuery.Proofs.SqlMeaning
import GridQuery.Proofs.StatementText
import GridQuery.Proofs.StoredCells
import GridQuery.Proofs.StoredTexts
import GridQuery.Proofs.StrictNames
import GridQuery.Proofs.TableNames
import GridQuery.Proofs.TableViews
import GridQuery.Proofs.TextColumns
import GridQuery.Proofs.TypedFields
import GridQuery.Proofs.UniqueReading
import GridQuery.Proofs.UnmappedCells
import GridQuery.Proofs.WorksheetPositions
import GridQuery.Proofs.WrittenMoments
import GridQuery.Proofs.WrittenOrder
import GridQuery.Proofs.WrittenReferences
import GridQuery.Query.Arguments
import GridQuery.Query.Basic
import GridQuery.Query.Model
import GridQuery.Query.Pipeline
import GridQuery.Query.Plan
import GridQuery.Query.Sequence
import GridQuery.Query.Statement
import GridQuery.Reference.Cell
import GridQuery.Reference.Column
import GridQuery.Reference.ColumnName
import GridQuery.Reference.DefinedName
import GridQuery.Reference.Range
import GridQuery.Reference.Table
import GridQuery.Script
import GridQuery.Session.Basic
import GridQuery.Session.Execution
import GridQuery.Session.Lease
import GridQuery.Session.Rows
import GridQuery.Session.Run
import GridQuery.Source.Basic
import GridQuery.Source.Book
import GridQuery.Source.Delimited
import GridQuery.Source.Encoding
import GridQuery.Sql.Like
import GridQuery.Sql.Quoted
import GridQuery.Sql.Term
import GridQuery.Sql.Token
import GridQuery.Text.Ascii
import GridQuery.Text.Blank
import GridQuery.Text.Case
import GridQuery.Text.CaseTable
import GridQuery.Text.DigitTable
import GridQuery.Text.Digits
import GridQuery.Text.Escaped
import GridQuery.Text.HiddenTable
import GridQuery.Text.Path
import GridQuery.Text.Search
import GridQuery.Value.Basic
import GridQuery.Value.Convert
import GridQuery.Value.Order
