import PageGrid.Main
import PageGrid.Proofs.Destinations
import PageGrid.Proofs.Expr.RoundTrip
import PageGrid.Proofs.GroupIsolation
import PageGrid.Proofs.Overflow
import PageGrid.Proofs.Reservation
import PageGrid.Proofs.Xml.DocumentOrder
import PageGrid.Proofs.Expr.NodeSets
import PageGrid.Proofs.Expr.Composition
import PageGrid.Proofs.Expr.Remarks
import PageGrid.Proofs.Restoration
import PageGrid.Proofs.Passing
import PageGrid.Proofs.Reporting
import PageGrid.Proofs.JobFile
import PageGrid.Proofs.Succession
import PageGrid.Proofs.PageTypes
import PageGrid.Proofs.Stability
import PageGrid.Proofs.UntouchedPage
import PageGrid.Proofs.GroupMarkers
import PageGrid.Proofs.ForeignElements
import PageGrid.Proofs.GroupCopies
import PageGrid.Proofs.ReadingOrder
import PageGrid.Proofs.FlowTurns
import PageGrid.Proofs.Sizing
import PageGrid.Proofs.Textblock
import PageGrid.Proofs.Grid.RowSearch
import PageGrid.Proofs.Grid.BlockAllocation
import PageGrid.Proofs.Grid.Requests
import PageGrid.Proofs.LoopCounter
import PageGrid.Proofs.EmbeddedExpression
import PageGrid.Proofs.CellPitch
import PageGrid.Proofs.PageTypeSearch
import PageGrid.Proofs.Extent
import PageGrid.Proofs.AssignmentForms
import PageGrid.Proofs.PageArea
import PageGrid.Proofs.Expr.Descendants
import PageGrid.Proofs.Version
import PageGrid.Proofs.Length
import PageGrid.Proofs.PageLines
