import SqlGuard.Main
import SqlGuard.Proofs.Accounts
import SqlGuard.Proofs.Admission
import SqlGuard.Proofs.Batches
import SqlGuard.Proofs.Cuts
import SqlGuard.Proofs.Modes
import SqlGuard.Rehearsal
import SqlGuard.Proofs.Truncation
import SqlGuard.Proofs.Breakdowns
import SqlGuard.Proofs.Containment
import SqlGuard.Proofs.Verdicts
import SqlGuard.Proofs.Answers
import SqlGuard.Proofs.Secrecy
import SqlGuard.Proofs.Casing
import SqlGuard.Proofs.Streams
import SqlGuard.Proofs.Controls
import SqlGuard.Proofs.Cells
import SqlGuard.Proofs.Rowless
import SqlGuard.Proofs.Credentials
import SqlGuard.Proofs.Telling
import SqlGuard.Proofs.Commands
import SqlGuard.Proofs.Pieces
import SqlGuard.Proofs.Wording
import SqlGuard.Proofs.Formats
import SqlGuard.Proofs.Layers
import SqlGuard.Proofs.ClosedLinks
