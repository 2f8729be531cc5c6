import SearchBar.Main
import SearchBar.Proofs.JsonText
import SearchBar.Proofs.Spacing
import SearchBar.Proofs.Tokens
import SearchBar.Proofs.Accumulation
import SearchBar.Proofs.Clauses
import SearchBar.Proofs.KeywordValues
import SearchBar.Proofs.WellFormed
import SearchBar.Proofs.Rendering
import SearchBar.Proofs.Composition
import SearchBar.Json.Document
import SearchBar.Proofs.Independence
import SearchBar.Proofs.JsonLayout
import SearchBar.Proofs.QueryJson
import SearchBar.Proofs.Files
import SearchBar.Proofs.Recency
import SearchBar.Proofs.StoredHistory
import SearchBar.Proofs.Commands
import SearchBar.Proofs.Courses
import SearchBar.Proofs.Spans
import SearchBar.Proofs.Placement
import SearchBar.Proofs.Quoting
import SearchBar.Proofs.LastQuote
import SearchBar.Proofs.CanonicalSpacing
import SearchBar.Proofs.RangeValues
import SearchBar.Proofs.OptionsJson
import SearchBar.Proofs.TextOrder
import SearchBar.Proofs.NamesSupplied
import SearchBar.Proofs.QuotedText
import SearchBar.Proofs.Trace
import SearchBar.Proofs.Listing
import SearchBar.Proofs.Overlap
import SearchBar.Proofs.Arguments
import SearchBar.Proofs.Arrangements
