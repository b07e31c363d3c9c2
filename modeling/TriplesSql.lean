import TriplesSql.Main
import TriplesSql.Settings.Json
import TriplesSql.Proofs.Unfold.Labels
import TriplesSql.Proofs.Unfold.Recorded
import TriplesSql.Proofs.Unfold.Fidelity
import TriplesSql.Proofs.Template.Splitting
import TriplesSql.Proofs.Text.Percent
import TriplesSql.Proofs.Template.Binding
import TriplesSql.Proofs.Template.Rendering
import TriplesSql.Proofs.Template.Separation
import TriplesSql.Proofs.Mapping.PushDown
import TriplesSql.Proofs.Unfold.Cells
import TriplesSql.Proofs.Unfold.Sources
import TriplesSql.Proofs.Query.Selection
import TriplesSql.Proofs.Query.Literal
import TriplesSql.Proofs.Query.Statement
import TriplesSql.Proofs.Unfold.Merging
import TriplesSql.Proofs.Unfold.Obstacles
import TriplesSql.Proofs.Unfold.Documents
import TriplesSql.Proofs.Unfold.Order
import TriplesSql.Proofs.Unfold.History
import TriplesSql.Proofs.Json.RoundTrip
import TriplesSql.Proofs.Mapping.Storage
import TriplesSql.Proofs.Mapping.Linking
import TriplesSql.Proofs.Mapping.Validity
import TriplesSql.Proofs.Unfold.Completeness
import TriplesSql.Proofs.Query.Scope
import TriplesSql.Proofs.Unfold.Restriction
import TriplesSql.Proofs.Unfold.Scope
import TriplesSql.Proofs.Unfold.Dialects
import TriplesSql.Proofs.Template.Outcome
import TriplesSql.Proofs.Template.Grammar
import TriplesSql.Proofs.Template.Filling
import TriplesSql.Proofs.Text.Decoding
import TriplesSql.Proofs.Mapping.Demand
import TriplesSql.Proofs.Mapping.Compatibility
import TriplesSql.Proofs.Template.Recovery
import TriplesSql.Proofs.Template.Loss
import TriplesSql.Proofs.Unfold.Filter
import TriplesSql.Proofs.Template.Printing
import TriplesSql.Proofs.Template.Columns
import TriplesSql.Proofs.Mapping.References
import TriplesSql.Proofs.Unfold.Sharing
import TriplesSql.Proofs.Mapping.Templates
import TriplesSql.Proofs.Unfold.Algebra
import TriplesSql.Proofs.Unfold.Agreement
import TriplesSql.Proofs.Unfold.Repetition
import TriplesSql.Proofs.Text.Trimming
import TriplesSql.Proofs.Query.TableNames
import TriplesSql.Proofs.Unfold.Summary
import TriplesSql.Proofs.Query.Precedence
import TriplesSql.Proofs.Query.Flattening
import TriplesSql.Proofs.Query.BareTruth
import TriplesSql.Proofs.Unfold.Searching
import TriplesSql.Proofs.Query.Terminators
import TriplesSql.Proofs.Select.Rests
import TriplesSql.Proofs.Query.Comments
import TriplesSql.Proofs.Unfold.Identifiers
import TriplesSql.Proofs.Unfold.Renaming
import TriplesSql.Proofs.Unfold.Listing
import TriplesSql.Proofs.Command.Loading
import TriplesSql.Proofs.Command.Outcome
import TriplesSql.Proofs.Command.Script
