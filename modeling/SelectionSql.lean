import SelectionSql.Auth.Authority
import SelectionSql.CommandLine.Run
import SelectionSql.Document.Fields
import SelectionSql.Main
import SelectionSql.Mutation
import SelectionSql.Proofs.Document.Inlining
import SelectionSql.Proofs.Json.Sorted
import SelectionSql.Proofs.Resolution.StatementLog
import SelectionSql.Proofs.Resolution.RowByRow
import SelectionSql.Proofs.Resolution.Blog
import SelectionSql.Proofs.Resolution.CompletionOrder
import SelectionSql.Proofs.Resolution.Shape
import SelectionSql.Proofs.Sql.LevelMeaning
import SelectionSql.Proofs.Resolution.NameClash
import SelectionSql.Proofs.Resolution.Failure
import SelectionSql.Resolution.Basic
import SelectionSql.Schema.OfDocument
import SelectionSql.ScriptedExecutor
import SelectionSql.Settings.Load
import SelectionSql.Proofs.Document.Literal
import SelectionSql.Proofs.Document.Variables
import SelectionSql.Proofs.Schema.Fields
import SelectionSql.Proofs.Selection.Partition
import SelectionSql.Proofs.Selection.Repeated
import SelectionSql.Proofs.Schema.Definitions
import SelectionSql.Proofs.Sql.WriteMeaning
import SelectionSql.Proofs.Mutation.Protocol
import SelectionSql.Proofs.Mutation.RowId
import SelectionSql.Proofs.Resolution.TableNames
import SelectionSql.Proofs.Modifiers.ColumnList
import SelectionSql.Proofs.Json.Strings
import SelectionSql.Proofs.Json.Grammar
import SelectionSql.Proofs.Json.RoundTrip
import SelectionSql.Proofs.Auth.Base64Url
import SelectionSql.Proofs.Auth.Claims
import SelectionSql.Proofs.Auth.Header
import SelectionSql.Proofs.Auth.Token
import SelectionSql.Proofs.Auth.Identity
import SelectionSql.Proofs.Nesting.Clash
import SelectionSql.Proofs.Schema.Building
import SelectionSql.Proofs.Text.Template
import SelectionSql.Proofs.Mutation.NullComparison
import SelectionSql.Proofs.Resolution.DistinctNames
