import Referent.Resolve.Descriptor
import Referent.Json.Reader
import Referent.Descriptor.Schema
import Referent.Proofs.Resolve.WellFormed
import Referent.Proofs.Resolve.Sessions
import Referent.Proofs.Resolve.Independence
import Referent.Proofs.Pair.Brackets
import Referent.Proofs.Pair.Quotes
import Referent.Proofs.Scope.Families
import Referent.Proofs.Resolve.Every
import Referent.Proofs.Resolve.Lists
import Referent.Proofs.Resolve.Consecutive
import Referent.Proofs.Descriptor.RoundTrip
import Referent.Proofs.Document.Coordinates
import Referent.Proofs.Target.Exclusion
import Referent.Proofs.Item.Nesting
import Referent.Proofs.Item.Segments
import Referent.Proofs.Text.Trim
import Referent.Proofs.Item.Removal
import Referent.Proofs.Resolve.Ordinals
import Referent.Proofs.Resolve.Nearest
import Referent.Proofs.Resolve.Runs
import Referent.Proofs.Resolve.OccurrencePicks
import Referent.Proofs.Resolve.TokenOccurrences
import Referent.Proofs.Target.Sequence
import Referent.Proofs.Resolve.WordPicks
import Referent.Proofs.Item.Outward
import Referent.Proofs.Item.Tokens
import Referent.Proofs.Item.Commas
import Referent.Proofs.Item.WellNested
import Referent.Proofs.Item.Balance
import Referent.Proofs.Item.Arrangement
import Referent.Proofs.Pair.Matching
import Referent.Proofs.Pair.SingleLine
import Referent.Proofs.Resolve.Indices
import Referent.Proofs.Text.Tokens
import Referent.Proofs.Text.Words
import Referent.Proofs.Document.Lines
import Referent.Proofs.Target.Lines
import Referent.Proofs.Resolve.Containing
import Referent.Proofs.Resolve.Innermost
import Referent.Proofs.Target.Paragraphs
import Referent.Proofs.Resolve.Vertical
import Referent.Proofs.Syntax.Descent
import Referent.Proofs.Scope.Missing
import Referent.Proofs.Scope.Alternatives
import Referent.Proofs.Scope.Iterations
import Referent.Proofs.Syntax.Subtrees
import Referent.Proofs.Syntax.OptionalParts
import Referent.Proofs.Resolve.Visible
import Referent.Proofs.Syntax.Matches
