import LogTail.Main
import LogTail.Proofs.Accounting
import LogTail.Proofs.Alignment
import LogTail.Proofs.ColdStart
import LogTail.Proofs.Commands
import LogTail.Proofs.CopyTruncate
import LogTail.Proofs.ExactlyOnce
import LogTail.Proofs.Exhaustion
import LogTail.Proofs.Fixpoint
import LogTail.Proofs.Interruption
import LogTail.Proofs.Justification
import LogTail.Proofs.Ledger
import LogTail.Proofs.Levels
import LogTail.Proofs.Lines
import LogTail.Proofs.Lineup
import LogTail.Proofs.ListingOrder
import LogTail.Proofs.Overlaps
import LogTail.Proofs.Pending
import LogTail.Proofs.Reference
import LogTail.Proofs.Reordering
import LogTail.Proofs.Representation
import LogTail.Proofs.Retrying
import LogTail.Proofs.SavedState
import LogTail.Proofs.Sharing
import LogTail.Proofs.Slicing
import LogTail.Proofs.Filters
import LogTail.Proofs.Termination
import LogTail.Proofs.TextFiles
import LogTail.Proofs.Turns
import LogTail.Proofs.Windows
