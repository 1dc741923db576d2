import SheetMarkup.Main
import SheetMarkup.Proofs.Expression.Soundness
import SheetMarkup.Proofs.Formula.CellEquations
import SheetMarkup.Proofs.Formula.OrderIndependence
import SheetMarkup.Proofs.Layout.MergeRoundTrip
import SheetMarkup.Proofs.Layout.Counters
import SheetMarkup.Proofs.Layout.Sections
import SheetMarkup.Proofs.Layout.Overlap
import SheetMarkup.Proofs.Expression.Reasons
import SheetMarkup.Proofs.Formula.Cycles
import SheetMarkup.Proofs.Expression.Enclosed
import SheetMarkup.Proofs.Formula.Operands
import SheetMarkup.Proofs.Expression.Evaluation
import SheetMarkup.Proofs.Formula.Simultaneous
import SheetMarkup.Proofs.Formula.Expander
import SheetMarkup.Proofs.Render.Hidden
import SheetMarkup.Proofs.Csv.RoundTrip
import SheetMarkup.Proofs.Options.RoundTrip
import SheetMarkup.Proofs.Table.Readers
import SheetMarkup.Proofs.Layout.Refusals
import SheetMarkup.Proofs.Render.Warnings
import SheetMarkup.Proofs.CommandLine.Failure
import SheetMarkup.Proofs.Formula.Ceiling
import SheetMarkup.Proofs.Formula.SingleCell
import SheetMarkup.Proofs.Formula.Identity
import SheetMarkup.Proofs.Layout.ClosedForm
import SheetMarkup.Proofs.Formula.Enumeration
import SheetMarkup.Proofs.Table.Selection
import SheetMarkup.Proofs.Layout.Contents
import SheetMarkup.Proofs.Options.IndexSet
import SheetMarkup.Proofs.Markup.SafeText
import SheetMarkup.Proofs.Formula.Propagation
import SheetMarkup.Proofs.Markup.Legibility
import SheetMarkup.Proofs.Formula.Termination
