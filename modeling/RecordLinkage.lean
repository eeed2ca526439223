import RecordLinkage.Binary64.Basic
import RecordLinkage.Binary64.Arith
import RecordLinkage.Binary64.Convert
import RecordLinkage.Text.CharTable
import RecordLinkage.Text.UpperTable
import RecordLinkage.Text.LowerTable
import RecordLinkage.Text.CasedTable
import RecordLinkage.Text.Case
import RecordLinkage.Text.Blank
import RecordLinkage.Text.PrintableTable
import RecordLinkage.Text.Quoted
import RecordLinkage.Decimal.Shortest
import RecordLinkage.Decimal.Text
import RecordLinkage.Hash.Fnv
import RecordLinkage.Hash.Murmur
import RecordLinkage.Hash.Sha256
import RecordLinkage.Hex
import RecordLinkage.Phonetic
import RecordLinkage.EditDistance
import RecordLinkage.Limits
import RecordLinkage.Error
import RecordLinkage.Field
import RecordLinkage.Field.Normalize
import RecordLinkage.Filter.Scheme
import RecordLinkage.Parameters
import RecordLinkage.Filter.Basic
import RecordLinkage.Filter.Wire
import RecordLinkage.Config
import RecordLinkage.Metrics
import RecordLinkage.Linkage.FieldMap
import RecordLinkage.Linkage.Scan
import RecordLinkage.Linkage.Service
import RecordLinkage.Decimal.Read
import RecordLinkage.Proofs.Binary64.Order
import RecordLinkage.Proofs.Linkage.Choice
import RecordLinkage.Proofs.Linkage.Answers
import RecordLinkage.Proofs.Binary64.Rounding
import RecordLinkage.Proofs.Filter.Bits
import RecordLinkage.Proofs.Filter.Runs
import RecordLinkage.Proofs.Filter.Transfer
import RecordLinkage.Proofs.Filter.Similarity
import RecordLinkage.Proofs.Linkage.Perform
import RecordLinkage.Proofs.Linkage.Counting
import RecordLinkage.Proofs.Linkage.Deadline
import RecordLinkage.Proofs.Linkage.Session
import RecordLinkage.Proofs.Filter.Counts
import RecordLinkage.Proofs.Linkage.Normalized
import RecordLinkage.Proofs.Filter.Jaccard
import RecordLinkage.Proofs.Linkage.MatchedFields
import RecordLinkage.Proofs.Text.Capitals
import RecordLinkage.Proofs.Field.Digest
import RecordLinkage.Proofs.EditDistance.Alignment
import RecordLinkage.Proofs.EditDistance.Matrix
import RecordLinkage.Proofs.EditDistance.Scripts
import RecordLinkage.Proofs.Binary64.Monotone
import RecordLinkage.Proofs.Binary64.Difference
import RecordLinkage.Proofs.EditDistance.Similarity
import RecordLinkage.Proofs.Phonetic.Code
import RecordLinkage.Proofs.Field.FuzzyForm
import RecordLinkage.Proofs.Filter.Estimate
import RecordLinkage.Proofs.Linkage.Validation
import RecordLinkage.Proofs.Config
import RecordLinkage.Proofs.Field.Wire
import RecordLinkage.Proofs.Metrics
import RecordLinkage.Proofs.Hash.Fnv
