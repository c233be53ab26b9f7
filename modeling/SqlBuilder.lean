import SqlBuilder.Config
import SqlBuilder.Proofs.Ancestry
import SqlBuilder.Proofs.Bounds.Recording
import SqlBuilder.Proofs.Cache.Rerendering
import SqlBuilder.Proofs.Expansion
import SqlBuilder.Proofs.Failure
import SqlBuilder.Proofs.Frame
import SqlBuilder.Proofs.Grouping.Completion
import SqlBuilder.Proofs.Join.Undoing
import SqlBuilder.Proofs.Locking.JoinedTables
import SqlBuilder.Proofs.Naming.Letters
import SqlBuilder.Proofs.Ordering.NullPlace
import SqlBuilder.Proofs.Ordering.Position
import SqlBuilder.Proofs.Predicate.Reading
import SqlBuilder.Proofs.Quotation
import SqlBuilder.Proofs.Range.ColumnNames
import SqlBuilder.Proofs.Range.Window
import SqlBuilder.Proofs.Rows.Acceptance
import SqlBuilder.Proofs.Selection.Aliases
import SqlBuilder.Proofs.Selection.Stability
import SqlBuilder.Proofs.Trace.Visible
import SqlBuilder.Statement.Branches
import SqlBuilder.Statement.Rendering
