import Gallery.Catalog.Change
import Gallery.Index.Change
import Gallery.Library.Change
import Gallery.Main
import Gallery.Proofs.Index.Coherent
import Gallery.Proofs.Query.Answer
import Gallery.Proofs.Library.Answer
import Gallery.Proofs.Library.Untagged
import Gallery.Proofs.Query.Grammar
import Gallery.Proofs.Query.Cycles
import Gallery.Proofs.Query.Parsing
import Gallery.Proofs.Query.Printing
import Gallery.Proofs.Store.Plain
import Gallery.Proofs.Command.Failing
import Gallery.Proofs.Index.Ledger
import Gallery.Proofs.Library.Explained
import Gallery.Proofs.Library.Refusals
import Gallery.Proofs.Query.Scores
import Gallery.Proofs.Query.NormalForm
import Gallery.Proofs.Query.Substitution
import Gallery.Proofs.Library.Warnings
import Gallery.Proofs.Query.Quoting
import Gallery.Proofs.Query.GlobMatching
import Gallery.Proofs.Store.Exact
import Gallery.Proofs.Query.Threshold
import Gallery.Proofs.Query.Cancellation
import Gallery.Proofs.Store.Transaction
import Gallery.Proofs.Query.Labels
import Gallery.Proofs.Fingerprint.Numerals
import Gallery.Proofs.Query.Literals
import Gallery.Proofs.Query.Contradictions
import Gallery.Proofs.Catalog.Integrity
import Gallery.Proofs.Library.Numbers
import Gallery.Proofs.Catalog.Versions
import Gallery.Proofs.Query.Invalidation
import Gallery.Proofs.Query.Descent
import Gallery.Proofs.Query.Paths
import Gallery.Proofs.Query.Progress
import Gallery.Proofs.Regex.Property
