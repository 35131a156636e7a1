import FacetedSearch.Main
import FacetedSearch.Service.Handler
import FacetedSearch.Proofs.Text.PercentDecoding
import FacetedSearch.Proofs.Query.Leading
import FacetedSearch.Proofs.Query.Reading
import FacetedSearch.Proofs.CursorPaging
import FacetedSearch.Proofs.Query.Agreement
import FacetedSearch.Proofs.FieldGrammar
import FacetedSearch.Proofs.Service.Accounting
import FacetedSearch.Proofs.WireFormat
import FacetedSearch.Proofs.FrontEnds
import FacetedSearch.Proofs.Clause.Conditions
import FacetedSearch.Proofs.Clause.Periods
import FacetedSearch.Proofs.Clause.Literals
import FacetedSearch.Proofs.Query.PeriodEnds
import FacetedSearch.Proofs.Query.Segments
import FacetedSearch.Proofs.Query.PathField
import FacetedSearch.Proofs.Query.Reordering
import FacetedSearch.Proofs.Query.FilterInsertion
import FacetedSearch.Proofs.Query.Erasure
import FacetedSearch.Proofs.Json.Images
import FacetedSearch.Proofs.Query.Irrelevance
import FacetedSearch.Proofs.Query.Defaults
import FacetedSearch.Proofs.Query.Keys
import FacetedSearch.Proofs.Text.PercentSpelling
import FacetedSearch.Proofs.Clause.Bounds
import FacetedSearch.Proofs.Text.ByteOrder
import FacetedSearch.Proofs.Query.FormatPairs
import FacetedSearch.Proofs.Query.Identification
