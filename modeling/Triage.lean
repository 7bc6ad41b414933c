import Triage.Text.CodePoint
import Triage.Text.Blank
import Triage.Text.Cased
import Triage.Text.Lowercase
import Triage.Text.Decimal
import Triage.Text.Bytes
import Triage.Text.Automaton
import Triage.Calendar.Date
import Triage.Calendar.Field
import Triage.Calendar.Instant
import Triage.Kind
import Triage.Comparison
import Triage.Qualifier
import Triage.Label
import Triage.Catalog
import Triage.Issue
import Triage.Expr
import Triage.Expr.ReadError
import Triage.Expr.Token
import Triage.Expr.Reading
import Triage.Expr.Pruning
import Triage.Expr.Selection
import Triage.Expr.Edit
import Triage.Json.Basic
import Triage.Json.Spelling
import Triage.Json.Token
import Triage.Json.Reading
import Triage.Json.Pretty
import Triage.Json.Magnitude
import Triage.Json.Record
import Triage.Document
import Triage.Snapshot
import Triage.Toml.Basic
import Triage.Toml.Scalar
import Triage.Toml.Reading
import Triage.Toml.Quoted
import Triage.Files.Path
import Triage.Files.Tree
import Triage.Config
import Triage.Failure
import Triage.Batch
import Triage.Workspace
import Triage.Listing
import Triage.Command
import Triage.Arguments
import Triage.Main
import Triage.Proofs.Digits
import Triage.Proofs.DateText
import Triage.Proofs.LeafText
import Triage.Proofs.Cutting
import Triage.Proofs.TokenForms
import Triage.Proofs.TokenSplits
import Triage.Proofs.QuoteParity
import Triage.Proofs.CanonicalTokens
import Triage.Proofs.Descent
import Triage.Proofs.Grammar
import Triage.Proofs.OpenMarks
import Triage.Proofs.GrammarReading
import Triage.Proofs.DepthLimit
import Triage.Proofs.Cursor
import Triage.Proofs.CursorReading
import Triage.Proofs.ViablePrefix
import Triage.Proofs.SyntaxErrors
import Triage.Proofs.ReadShape
import Triage.Proofs.Rereading
import Triage.Proofs.RoundTrip
import Triage.Proofs.SecondReading
import Triage.Proofs.DateSpellings
import Triage.Proofs.PrunedShape
import Triage.Proofs.PruningLaws
import Triage.Proofs.PrunedText
import Triage.Proofs.Attaching
import Triage.Proofs.Change
import Triage.Proofs.Applicability
import Triage.Proofs.Obstacle
import Triage.Proofs.WellFormed
import Triage.Proofs.EditOrder
import Triage.Proofs.LowerContext
import Triage.Proofs.LowerForm
import Triage.Proofs.ExclusiveGroup
import Triage.Proofs.Settled
import Triage.Proofs.EditSelects
import Triage.Proofs.BatchEffect
import Triage.Proofs.RepeatedEdit
import Triage.Proofs.WrittenJson
import Triage.Proofs.InstantText
import Triage.Proofs.SnapshotText
import Triage.Proofs.SettingsApart
import Triage.Proofs.Overwriting
import Triage.Proofs.PlacePaths
import Triage.Proofs.Sessions
import Triage.Proofs.PrunedEdit
import Triage.Proofs.PrunedQuery
import Triage.Proofs.OwnNames
import Triage.Proofs.QueryCase
import Triage.Proofs.SubstringSearch
import Triage.Proofs.Composition
import Triage.Proofs.SnapshotSource
import Triage.Proofs.Trails
import Triage.Proofs.Creation
