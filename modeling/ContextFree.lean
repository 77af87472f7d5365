import ContextFree.Grammar.Identity
import ContextFree.Grammar.NormalForm
import ContextFree.Grammar.Render
import ContextFree.Json.Grammar
import ContextFree.Json.SyntaxError
import ContextFree.Source.Report
import ContextFree.Warning.Policy
import ContextFree.Proofs.Tables
import ContextFree.Proofs.Numbering
import ContextFree.Proofs.Derivation
import ContextFree.Proofs.Derivability
import ContextFree.Proofs.Search
import ContextFree.Proofs.Reachability
import ContextFree.Proofs.Paths
import ContextFree.Proofs.Worklist
import ContextFree.Proofs.Saturation
import ContextFree.Proofs.Passes
import ContextFree.Proofs.Termination
import ContextFree.Proofs.Warnings
import ContextFree.Proofs.Record
import ContextFree.Proofs.Construction
import ContextFree.Proofs.Reuse
import ContextFree.Proofs.Growth
import ContextFree.Proofs.Usefulness
import ContextFree.Proofs.NormalForm
import ContextFree.Proofs.Sameness
import ContextFree.Proofs.Policy
import ContextFree.Proofs.Ordering
import ContextFree.Proofs.Quoting
import ContextFree.Proofs.Unambiguity
import ContextFree.Proofs.TextualForm
import ContextFree.Proofs.Listing
import ContextFree.Proofs.RoundTrip
import ContextFree.Proofs.Validity
import ContextFree.Proofs.Spelling
import ContextFree.Proofs.Lines
import ContextFree.Proofs.Partition
import ContextFree.Proofs.Cover
import ContextFree.Proofs.Positions
import ContextFree.Proofs.Succession
import ContextFree.Proofs.Foreign
import ContextFree.Proofs.Recovery
import ContextFree.Proofs.Excerpt
import ContextFree.Proofs.Marks
import ContextFree.Proofs.Alignment
import ContextFree.Proofs.Reporting
